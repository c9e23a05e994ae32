import JotaTranscriber.AuthManager
import JotaTranscriber.MultipartParser
import JotaTranscriber.Messages
import JotaTranscriber.VadGate

namespace JotaTranscriber

-- An absent header reads as the empty string.
structure HttpRequest where
  authorization : Text
  contentType : Text
  body : Text

-- The members handle() reads, less the decoder parameters that only whisper
-- and the Silero library see.
structure ServerConfig where
  authToken : Text
  authApiUrl : Text
  maxUploadBytes : Nat
  maxAudioDurationSec : Int
  vadModelPath : Text
  vadSpeechPadMs : Int

inductive HttpStatus where
  | ok
  | badRequest
  | unauthorized
  | payloadTooLarge
  | internalServerError
  | serviceUnavailable
  deriving DecidableEq, Repr

structure HttpResponse where
  status : HttpStatus
  contentType : Text
  body : Text
  deriving DecidableEq, Repr

structure HttpSegment where
  text : Option Text
  t0 : Int
  t1 : Int
  noSpeechProb : Rat

inductive HttpWhisper where
  | failed (code : Int)
  | decoded (segments : List HttpSegment)

-- The answers of everything handle() calls outside this repository's logic.
-- dump() throws on text that is not UTF-8 (none), and so may send() (false).
structure HttpWorld where
  exchange : ApiExchange
  decode : List UInt8 → Except Text (List Sample)
  stof : Text → Option Rat
  vad : VadOutcome
  loadModel : Except Text Unit
  slot : Bool
  initState : Bool
  whisper : HttpWhisper
  dump : Json → Option Text
  send : HttpResponse → Bool
  id : Text
  createdAt : Text

inductive HttpEffect where
  | validate (token : Text) (accepted : Bool)
  | decode
  | vad
  | acquireModel
  | releaseModel
  | takeSlot
  | releaseSlot
  | infer
  | send (response : HttpResponse)
  deriving DecidableEq, Repr

def HttpEffect.isWork : HttpEffect → Bool
  | .decode | .vad | .acquireModel | .infer => true
  | _ => false

inductive Stop where
  | returned
  | threw
  deriving DecidableEq, Repr

-- A stretch of the handler: what it did, and the value it goes on with unless
-- it returned or threw.
structure Handler (α : Type) where
  effects : List HttpEffect
  result : Except Stop α

instance : Monad Handler where
  pure value := ⟨[],.ok value⟩
  bind first rest :=
    match first.result with
    | .error stop => ⟨first.effects,.error stop⟩
    | .ok value => ⟨first.effects ++ (rest value).effects,(rest value).result⟩

namespace HandleTranscribe

def perform (effect : HttpEffect) : Handler Unit := ⟨[effect],.ok ()⟩

-- An RAII guard: its destructor runs however the scope is left.
def guarding (release : HttpEffect) (body : Handler α) : Handler α :=
  ⟨body.effects ++ [release],body.result⟩

-- try { … } catch (...) { fallback }
def catchAll (body : Handler α) (fallback : α) : Handler α :=
  match body.result with
  | .error .threw => ⟨body.effects,.ok fallback⟩
  | _ => body

-- send(response); return;
def answer (world : HttpWorld) (response : HttpResponse) : Handler α :=
  ⟨[.send response],.error (if world.send response then .returned else .threw)⟩

def makeJson (world : HttpWorld) (status : HttpStatus) (body : Json) : Handler α :=
  match world.dump body with
  | some text => answer world ⟨status,bytes "application/json",text⟩
  | none => ⟨[],.error .threw⟩

def makeError (world : HttpWorld) (status : HttpStatus) (message type : Text) : Handler α :=
  makeJson world status
    (.object [("error",.object [("message",.string message),("type",.string type)])])

def invalidRequest : Text := bytes "invalid_request_error"
def serverError : Text := bytes "server_error"
def tooLarge : Text := bytes "payload_too_large_error"

def bearerToken (request : HttpRequest) : Text :=
  (request.authorization.dropPrefix? (bytes "Bearer ")).getD []

def authConfigured (config : ServerConfig) : Bool :=
  !config.authToken.isEmpty || !config.authApiUrl.isEmpty

def authorize (request : HttpRequest) (config : ServerConfig) (auth : Option AuthManager)
    (world : HttpWorld) : Handler Unit :=
  match auth with
  | none =>
    if authConfigured config then
      makeError world .internalServerError (bytes "Internal server error") serverError
    else pure ()
  | some manager =>
    if manager.isAuthEnabled then do
      let accepted := (manager.validate (bearerToken request) world.exchange).2
      perform (.validate (bearerToken request) accepted)
      if accepted then pure ()
      else makeError world .unauthorized (bytes "Invalid or missing authorization token") invalidRequest
    else pure ()

def parseForm (request : HttpRequest) (world : HttpWorld) : Handler MultipartParser.Parts :=
  let boundary := MultipartParser.extractBoundary request.contentType
  if boundary.isEmpty then
    makeError world .badRequest (bytes "Content-Type must be multipart/form-data with a boundary")
      invalidRequest
  else
    match MultipartParser.parse request.body boundary with
    | .error what =>
      makeError world .badRequest (bytes "Failed to parse multipart body: " ++ what) invalidRequest
    | .ok parts => pure parts

def field? (parts : MultipartParser.Parts) (name : String) : Option (List UInt8) :=
  (parts.lookup (bytes name)).map MultipartParser.Part.data

inductive ResponseFormat where
  | json
  | text
  | verboseJson
  deriving DecidableEq, Repr

def responseFormat? (value : Text) : Option ResponseFormat :=
  if value = bytes "json" then some .json
  else if value = bytes "text" then some .text
  else if value = bytes "verbose_json" then some .verboseJson
  else none

-- Steps 2 to 3b: the form, the size cap and the response format.
def readForm (request : HttpRequest) (config : ServerConfig) (world : HttpWorld) :
    Handler (MultipartParser.Parts × List UInt8 × ResponseFormat) := do
  let parts ← parseForm request world
  match field? parts "file" with
  | none => makeError world .badRequest (bytes "Missing required field: file") invalidRequest
  | some file =>
    if (field? parts "model").isNone then
      makeError world .badRequest (bytes "Missing required field: model") invalidRequest
    else if request.body.length > config.maxUploadBytes then
      makeError world .payloadTooLarge (bytes "Request body exceeds maximum upload size") tooLarge
    else
      let name := (field? parts "response_format").getD (bytes "json")
      match responseFormat? name with
      | none =>
        makeError world .badRequest (bytes "response_format '" ++ name ++
          bytes "' is not supported. Supported values: json, text, verbose_json") invalidRequest
      | some format => pure (parts,file,format)

-- The range error is sent inside the try block whose catch-all ignores
-- unreadable values, and so ignores also a send that throws.
def readTemperature (parts : MultipartParser.Parts) (world : HttpWorld) : Handler (Option Rat) :=
  match field? parts "temperature" with
  | none => pure none
  | some value =>
    catchAll
      (match world.stof value with
        | none => ⟨[],.error .threw⟩
        | some number =>
          if number < 0 ∨ number > 1 then
            makeError world .badRequest (bytes "temperature must be between 0.0 and 1.0") invalidRequest
          else pure (some number))
      none

def decodeAudio (config : ServerConfig) (world : HttpWorld) (file : List UInt8) :
    Handler (List Sample) := do
  perform .decode
  match world.decode file with
  | .error what =>
    makeError world .badRequest (bytes "Failed to decode audio: " ++ what) invalidRequest
  | .ok pcm =>
    if (pcm.length : Rat) / 16000 > config.maxAudioDurationSec then
      makeError world .payloadTooLarge (bytes "Decoded audio exceeds maximum duration of " ++
        decimalInt config.maxAudioDurationSec ++ bytes " seconds") tooLarge
    else pure pcm

-- Step 4d: the gate after its run, and whether it found speech.
def gateAudio (config : ServerConfig) (world : HttpWorld) (pcm : List Sample) :
    Handler (Option VadGate × Bool) :=
  if config.vadModelPath.isEmpty then pure (none,true)
  else do
    perform .vad
    match (VadGate.create config.vadSpeechPadMs).gate pcm world.vad with
    | (_,.error _) => makeError world .internalServerError (bytes "VAD gating failed") serverError
    | (gate,.ok gated) => pure (some gate,gated.hadSpeech)

structure TimedSegment where
  start : Rat
  stop : Rat
  text : Text
  noSpeechProb : Rat

def timed (gate : Option VadGate) (segment : HttpSegment) (text : Text) : TimedSegment :=
  match gate with
  | some gate =>
    ⟨gate.toOriginalSamples segment.t0 / 16000,gate.toOriginalSamples segment.t1 / 16000,text,
      segment.noSpeechProb⟩
  | none => ⟨segment.t0 / 100,segment.t1 / 100,text,segment.noSpeechProb⟩

def collect (format : ResponseFormat) (gate : Option VadGate) (segments : List HttpSegment) :
    Text × List TimedSegment :=
  let spoken := segments.filterMap fun segment => segment.text.map fun text => (segment,text)
  (spoken.flatMap (·.2),
    if format = .verboseJson then spoken.map fun (segment,text) => timed gate segment text else [])

-- Step 7, under the model guard and the slot guard.
def transcribe (world : HttpWorld) (format : ResponseFormat) (gate : Option VadGate) :
    Handler (Text × List TimedSegment) := do
  perform .acquireModel
  match world.loadModel with
  | .error _ => makeError world .internalServerError (bytes "Failed to load model") serverError
  | .ok _ =>
    guarding .releaseModel <|
      if !world.slot then
        makeError world .serviceUnavailable
          (bytes "Server is at maximum inference capacity, try again later") serverError
      else do
        perform .takeSlot
        guarding .releaseSlot <|
          if !world.initState then
            makeError world .internalServerError (bytes "Failed to initialize whisper state") serverError
          else do
            perform .infer
            match world.whisper with
            | .failed _ =>
              makeError world .internalServerError (bytes "Whisper inference failed") serverError
            | .decoded segments => pure (collect format gate segments)

def isBlank (byte : UInt8) : Bool := byte = 32 || byte = 9 || byte = 13 || byte = 10

def respond (parts : MultipartParser.Parts) (world : HttpWorld) (format : ResponseFormat)
    (text : Text) (segments : List TimedSegment) : Handler Unit :=
  match format with
  | .text =>
    answer world ⟨.ok,bytes "text/plain; charset=utf-8",(text.dropWhile isBlank).rdropWhile isBlank⟩
  | .json => makeJson world .ok (.object [("text",.string text)])
  | .verboseJson =>
    makeJson world .ok (.object [("id",.string world.id),("created_at",.string world.createdAt),
      ("task",.string ((field? parts "task").getD (bytes "transcribe"))),
      ("language",.string ((field? parts "language").getD (bytes "auto"))),
      ("duration",.number ((segments.getLast?.map TimedSegment.stop).getD 0)),("text",.string text),
      ("segments",.array (segments.map fun segment =>
        .object [("start",.number segment.start),("end",.number segment.stop),
          ("text",.string segment.text),("no_speech_prob",.number segment.noSpeechProb)]))])

def handle (request : HttpRequest) (config : ServerConfig) (auth : Option AuthManager)
    (world : HttpWorld) : Handler Unit := do
  authorize request config auth world
  let (parts,file,format) ← readForm request config world
  let pcm ← decodeAudio config world file
  let _temperature ← readTemperature parts world
  let (gate,hadSpeech) ← gateAudio config world pcm
  let (text,segments) ← if hadSpeech then transcribe world format gate else pure ([],[])
  respond parts world format text segments

-- An answer in JSON ends the handler, by returning or by throwing, and does
-- nothing but send.
theorem makeJson_stops (world : HttpWorld) (status : HttpStatus) (body : Json) (value : α) :
    (makeJson world status body : Handler α).result ≠ .ok value ∧
      ∀ effect ∈ (makeJson world status body : Handler α).effects, effect.isWork = false := by
  unfold makeJson
  split
  · refine ⟨nofun,?_⟩
    intro effect present
    cases List.mem_singleton.mp present
    rfl
  · exact ⟨nofun,List.forall_mem_nil _⟩

-- handle() goes on past the authorization exactly when there is nothing to
-- check or the bearer token was validated.
theorem authorize_ok (passed : (authorize request config auth world).result = .ok ()) :
    (auth = none → authConfigured config = false) ∧
      ∀ manager, auth = some manager → manager.isAuthEnabled = true →
        (manager.validate (bearerToken request) world.exchange).2 = true := by
  unfold authorize at passed
  cases auth with
  | none =>
    refine ⟨fun _ => ?_,nofun⟩
    dsimp only at passed
    split at passed
    · exact absurd passed (makeJson_stops world _ _ ()).1
    · rename_i unconfigured
      simpa using unconfigured
  | some manager =>
    refine ⟨nofun,?_⟩
    intro found same enabled
    cases same
    dsimp only at passed
    rw [if_pos enabled] at passed
    cases accepted : (manager.validate (bearerToken request) world.exchange).2 with
    | true => rfl
    | false =>
      simp only [accepted,bind,perform] at passed
      exact absurd passed (makeJson_stops world _ _ ()).1

theorem authorize_no_work (present : effect ∈ (authorize request config auth world).effects) :
    effect.isWork = false := by
  unfold authorize at present
  cases auth with
  | none =>
    dsimp only at present
    split at present
    · exact (makeJson_stops world _ _ ()).2 effect present
    · cases present
  | some manager =>
    dsimp only at present
    split at present
    · rcases List.mem_cons.mp present with rfl | later
      · rfl
      · split at later
        · cases later
        · exact (makeJson_stops world _ _ ()).2 effect later
    · cases present

theorem handle_work (present : effect ∈ (handle request config auth world).effects)
    (work : effect.isWork = true) : (authorize request config auth world).result = .ok () := by
  unfold handle at present
  simp only [bind] at present
  cases passed : (authorize request config auth world).result with
  | ok value => rfl
  | error stop =>
    rw [passed] at present
    rw [authorize_no_work present] at work
    cases work

end HandleTranscribe
end JotaTranscriber

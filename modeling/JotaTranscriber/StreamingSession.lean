import JotaTranscriber.StreamingWhisperEngine
import JotaTranscriber.HallucinationGuard
import JotaTranscriber.AuthManager
import JotaTranscriber.Messages

namespace JotaTranscriber
open StreamingWhisperEngine

-- A 32-bit signed int.
abbrev CInt := { n : Int // -2^31 ≤ n ∧ n < 2^31 }

-- What json::parse throws, with its what(): a parse_error for text that is not
-- JSON, an out_of_range for a number too large for a double.
inductive JsonException where
  | parseError (what : Text)
  | outOfRange (what : Text)
  deriving DecidableEq, Repr

-- The constructor's arguments that some modelled function reads, and the
-- third-party functions the session calls: json::parse, the what() of the
-- type_error a non-string value raises, and the value of four payload bytes
-- read as a float32.
structure SessionParams where
  sessionId : Text
  authManager : AuthManager
  whisperBeamSize : CInt
  sessionTimeoutSec : CInt
  flushMinNewAudioMs : CInt
  vadModelPath : Text
  vadSpeechPadMs : CInt
  parseJson : Text → Except JsonException Json
  typeErrorWhat : Json → Text
  float32 : UInt8 → UInt8 → UInt8 → UInt8 → Sample

-- engine_ is a unique_ptr; `id` tells one constructed engine from another.
structure OwnedEngine where
  id : Nat
  engine : StreamingWhisperEngine

structure StreamingSession where
  engine : Option OwnedEngine
  configured : Bool
  bufferOverflowed : Bool
  droppedChunks : Nat
  capacityDegraded : Bool
  lastTranscribedSize : Nat
  language : Text
  modelAcquired : Bool
  bytesReceivedInWindow : Nat
  rateLimitStart : Instant
  flushRunning : Bool
  lastAudioTime : Instant
  idleShutdownTriggered : Bool
  fullTranscription : Text
  rawTranscription : Text

-- The shared AuthManager as one config message meets it: other sessions may
-- have filled the cache in any way.
structure AuthView where
  cache : AuthCache
  exchange : ApiExchange

inductive CloseKind where
  | rejected   -- handleConfig, throwing overload
  | policy     -- handleBinaryMessage, error_code overload
  | final      -- handleEnd, under write_mutex_
  deriving DecidableEq, Repr

inductive AfterSend where
  | read
  | close (kind : CloseKind)
  deriving DecidableEq, Repr

-- Where the receive thread is: run(), the handlers it calls, the destructor.
inductive Receiver where
  | handshake
  | reading
  | sending (messages : List ServerMessage) (next : AfterSend)
  | closing (kind : CloseKind)
  | acquiring
  | configuring (ctx : Nat)
  | joining
  | finalizing
  | unwinding
  | returned
  | destroying
  | releasing
  | destroyed
  deriving DecidableEq, Repr

-- What flushLoop does once it holds state_mutex_ again after a send.
inductive Continuation where
  | skip
  | infer (cycleEngine currentSize : Nat)
  | resume (cycleEngine currentSize : Nat) (result : TranscribeResult)
  | clear (cycleEngine currentSize : Nat) (result : TranscribeResult)
  | finish
  deriving DecidableEq, Repr

-- `sending` and `relocking` are the two halves of an unlock/lock window. An
-- exception that leaves flushLoop ends the process (`crashed`), and so does a
-- dereference of a null engine_ (`faulted`).
inductive Flusher where
  | notStarted
  | waiting
  | awake
  | sending (message : ServerMessage) (next : Continuation)
  | relocking (next : Continuation)
  | exited
  | crashed (error : InferenceError)
  | faulted
  deriving DecidableEq, Repr

def Flusher.alive : Flusher → Bool
  | .crashed _ | .faulted => false
  | _ => true

-- What a run makes visible, in order. `dereferenced` pairs the engine whose
-- buffer size the flush cycle read with the one found behind the pointer.
inductive Event where
  | sent (message : ServerMessage)
  | acquired (ctx : Nat)
  | released
  | configured (engine : Nat)
  | dereferenced (cycleEngine : Nat) (found : Option Nat)
  | pass (result : TranscribeResult)
  | forced (text : Text)
  | finalFailed (error : InferenceError)
  deriving DecidableEq, Repr

namespace StreamingSession

def create (now : Instant) : StreamingSession :=
  { engine := none
    configured := false
    bufferOverflowed := false
    droppedChunks := 0
    capacityDegraded := false
    lastTranscribedSize := 0
    language := bytes "es"
    modelAcquired := false
    bytesReceivedInWindow := 0
    rateLimitStart := now
    flushRunning := false
    lastAudioTime := now
    idleShutdownTriggered := false
    fullTranscription := []
    rawTranscription := [] }

def warningIntervalChunks : Nat := 10
def minBufferSamples : Nat := 32000
def lowWaterMark : Nat := 16000 * 10
def maxFrameBytes : Nat := 1 * 1024 * 1024
def maxBytesPerWindow : Nat := 200 * 1024 * 3

def msToSamples16kHz (ms : CInt) : Nat := sizeT ms * 16 % 2^64

def bufferSize (session : StreamingSession) : Nat :=
  (session.engine.map fun owned => owned.engine.getBufferSize).getD 0

def sendThen (messages : List ServerMessage) (next : AfterSend) : Receiver :=
  match messages,next with
  | [],.read => .reading
  | [],.close kind => .closing kind
  | messages,next => .sending messages next

def sendError (message code : Text) : Receiver :=
  .sending [.error message code] .read

def notConfigured : Receiver :=
  sendError (bytes "Session not configured. Send 'config' first.") (bytes "NOT_CONFIGURED")

def configFailed (what : Text) : Receiver :=
  sendError (bytes "Configuration failed: " ++ what) (bytes "CONFIG_ERROR")

-- The locked part of processAudioChunk, and the messages it sends after it.
def processAudioChunk (session : StreamingSession) (now : Instant) (audio : List Sample) :
    StreamingSession × List ServerMessage :=
  match session.engine with
  | none => (session,[])
  | some owned =>
    if !session.configured then (session,[])
    else
      let (overflow,engine) := owned.engine.processAudioChunk audio
      let heard := { session with lastAudioTime := now, engine := some { owned with engine } }
      if overflow then
        let dropped := session.droppedChunks + 1
        ({ heard with bufferOverflowed := true, droppedChunks := dropped },
          (if session.bufferOverflowed then [] else [.flowControl .pause]) ++
            (if dropped % warningIntervalChunks = 0 then [.bufferFull dropped] else []))
      else (heard,[])

def float32Samples (float32 : UInt8 → UInt8 → UInt8 → UInt8 → Sample) : List UInt8 → List Sample
  | a :: b :: c :: d :: rest => float32 a b c d :: float32Samples float32 rest
  | _ => []

theorem length_float32Samples (float32 : UInt8 → UInt8 → UInt8 → UInt8 → Sample) :
    ∀ data : List UInt8, (float32Samples float32 data).length = data.length / 4
  | a :: b :: c :: d :: rest => by
    simp only [float32Samples,List.length_cons,length_float32Samples float32 rest]
    omega
  | [] | [_] | [_,_] | [_,_,_] => by simp [float32Samples]

def handleBinaryMessage (params : SessionParams) (session : StreamingSession) (now : Instant)
    (data : List UInt8) : StreamingSession × Receiver :=
  if data.length > maxFrameBytes then (session,.closing .policy)
  else if data.length < 4 then (session,.reading)
  else if !session.configured then (session,notConfigured)
  else if data.length % 4 ≠ 0 then (session,.reading)
  else
    let elapsed := (now - session.rateLimitStart).tdiv (seconds 1)
    let received := session.bytesReceivedInWindow + data.length
    let counted := { session with bytesReceivedInWindow := received }
    if elapsed ≥ 3 ∧ received > maxBytesPerWindow then (counted,.closing .policy)
    else
      let admitted := if elapsed ≥ 3 then
        { counted with rateLimitStart := now, bytesReceivedInWindow := 0 } else counted
      let (heard,messages) := admitted.processAudioChunk now (float32Samples params.float32 data)
      (heard,sendThen messages .read)

-- handleConfig up to the call of ModelCache::acquire. A non-string language
-- raises a type_error, which the handler's own catch turns into CONFIG_ERROR.
def handleConfig (params : SessionParams) (session : StreamingSession) (message : Json)
    (view : AuthView) : StreamingSession × Receiver :=
  let accepted : StreamingSession × Receiver :=
    match message.field? "language" with
    | none => (session,.acquiring)
    | some (.string language) => ({ session with language },.acquiring)
    | some other => (session,configFailed (params.typeErrorWhat other))
  if params.authManager.isAuthEnabled then
    match message.field? "token" with
    | some (.string token) =>
      let manager := { params.authManager with cache := view.cache }
      if (manager.validate token view.exchange).2 then accepted
      else (session,.sending [.error (bytes "Invalid token") (bytes "AUTH_FAILED")] (.close .rejected))
    | _ =>
      (session,.sending [.error (bytes "Missing or invalid 'token'") (bytes "AUTH_REQUIRED")]
        (.close .rejected))
  else accepted

-- stopFlushLoop up to the join.
def stopFlushLoop (session : StreamingSession) : StreamingSession :=
  { session with flushRunning := false }

-- Of the exceptions handleJsonMessage catches parse_error only: a number out of
-- range, or a `type` that is not a string, ends the read loop of run().
def handleJsonMessage (params : SessionParams) (session : StreamingSession) (payload : Text)
    (view : AuthView) : StreamingSession × Receiver :=
  match params.parseJson payload with
  | .error (.parseError what) =>
    (session,sendError (bytes "Invalid JSON: " ++ what) (bytes "PARSE_ERROR"))
  | .error (.outOfRange _) => (session,.unwinding)
  | .ok message =>
    match message.field? "type" with
    | none => (session,sendError (bytes "Missing 'type' field") (bytes "INVALID_MESSAGE"))
    | some (.string type) =>
      if type = bytes "config" then handleConfig params session message view
      else if !session.configured then (session,notConfigured)
      else if type = bytes "end" then (session.stopFlushLoop,.joining)
      else (session,sendError (bytes "Unknown message type: " ++ type) (bytes "UNKNOWN_TYPE"))
    | some _ => (session,.unwinding)

def makeEngine (params : SessionParams) (session : StreamingSession) : StreamingWhisperEngine :=
  .fresh (if params.vadModelPath.isEmpty then none else some (VadGate.create params.vadSpeechPadMs))
    session.language

-- The locked part of handleConfig when the engine is built, and when its
-- constructor throws: by then the reference is already marked as acquired.
def install (params : SessionParams) (session : StreamingSession) (now : Instant) (id : Nat) :
    StreamingSession :=
  { session with
    modelAcquired := true
    engine := some ⟨id,makeEngine params session⟩
    configured := true
    lastTranscribedSize := 0
    capacityDegraded := false
    bufferOverflowed := false
    droppedChunks := 0
    fullTranscription := []
    rawTranscription := []
    lastAudioTime := now }

def installFailed (session : StreamingSession) : StreamingSession :=
  { session with modelAcquired := true }

def readyMessage (params : SessionParams) (session : StreamingSession) : ServerMessage :=
  .ready params.sessionId session.language params.whisperBeamSize

def releaseModel (session : StreamingSession) : StreamingSession × List Event :=
  if session.modelAcquired then
    ({ session with engine := none, modelAcquired := false },[.released])
  else (session,[])

-- What most code leaves alone: which engine is installed, whether the session
-- is configured and whether it holds a model reference.
structure Framed (before after : StreamingSession) : Prop where
  engine : after.engine.map OwnedEngine.id = before.engine.map OwnedEngine.id
  configured : after.configured = before.configured
  modelAcquired : after.modelAcquired = before.modelAcquired

theorem Framed.refl (session : StreamingSession) : Framed session session := ⟨rfl,rfl,rfl⟩

theorem Framed.trans (first : Framed session middle) (second : Framed middle after) :
    Framed session after :=
  ⟨second.engine.trans first.engine,second.configured.trans first.configured,
    second.modelAcquired.trans first.modelAcquired⟩

theorem Framed.engine_none (frame : Framed before after) (missing : before.engine = none) :
    after.engine = none := by
  have same := frame.engine
  rw [missing] at same
  exact Option.map_eq_none_iff.mp same

-- What the two watch flags do meanwhile: the loop is neither started nor
-- stopped, and a socket that was shut down stays so.
structure Steady (before after : StreamingSession) : Prop where
  flushRunning : after.flushRunning = before.flushRunning
  shutDown : before.idleShutdownTriggered = true → after.idleShutdownTriggered = true

theorem Steady.refl (session : StreamingSession) : Steady session session :=
  ⟨rfl,fun shut => shut⟩

theorem Steady.trans (first : Steady session middle) (second : Steady middle after) :
    Steady session after :=
  ⟨second.flushRunning.trans first.flushRunning,fun shut => second.shutDown (first.shutDown shut)⟩

structure Received (before after : StreamingSession) : Prop where
  language : after.language = before.language
  lastAudioTime : after.lastAudioTime = before.lastAudioTime
  bytesReceivedInWindow : after.bytesReceivedInWindow = before.bytesReceivedInWindow
  rateLimitStart : after.rateLimitStart = before.rateLimitStart

theorem Received.refl (session : StreamingSession) : Received session session := ⟨rfl,rfl,rfl,rfl⟩

theorem Received.trans (first : Received session middle) (second : Received middle after) :
    Received session after :=
  ⟨second.language.trans first.language,second.lastAudioTime.trans first.lastAudioTime,
    second.bytesReceivedInWindow.trans first.bytesReceivedInWindow,
    second.rateLimitStart.trans first.rateLimitStart⟩

def transcripts (session : StreamingSession) : Text × Text :=
  (session.fullTranscription,session.rawTranscription)

theorem sendThen_cases (messages : List ServerMessage) (next : AfterSend) :
    (messages = [] ∧ (next = .read ∧ sendThen messages next = .reading ∨
      ∃ kind, next = .close kind ∧ sendThen messages next = .closing kind)) ∨
    messages ≠ [] ∧ sendThen messages next = .sending messages next := by
  cases messages with
  | nil =>
    cases next with
    | read => exact .inl ⟨rfl,.inl ⟨rfl,rfl⟩⟩
    | close kind => exact .inl ⟨rfl,.inr ⟨kind,rfl,rfl⟩⟩
  | cons => exact .inr ⟨List.cons_ne_nil _ _,rfl⟩

theorem processAudioChunk_cases (session : StreamingSession) (now : Instant) (audio : List Sample) :
    ((session.engine = none ∨ session.configured = false) ∧
      session.processAudioChunk now audio = (session,[])) ∨
    ∃ owned, session.engine = some owned ∧ session.configured = true ∧
      (owned.engine.getBufferSize ≥ highWaterMark ∧ session.processAudioChunk now audio =
          ({ session with
              lastAudioTime := now
              bufferOverflowed := true
              droppedChunks := session.droppedChunks + 1 },
            (if session.bufferOverflowed then [] else [.flowControl .pause]) ++
              (if (session.droppedChunks + 1) % warningIntervalChunks = 0 then
                [.bufferFull (session.droppedChunks + 1)] else [])) ∨
        owned.engine.getBufferSize < highWaterMark ∧ session.processAudioChunk now audio =
          ({ session with
              lastAudioTime := now
              engine := some ⟨owned.id,(owned.engine.processAudioChunk audio).2⟩ },[])) := by
  unfold StreamingSession.processAudioChunk
  cases owner : session.engine with
  | none => exact .inl ⟨.inl rfl,rfl⟩
  | some owned =>
    cases ready : session.configured with
    | false => exact .inl ⟨.inr rfl,rfl⟩
    | true =>
      refine .inr ⟨owned,rfl,rfl,?_⟩
      by_cases full : owned.engine.getBufferSize ≥ highWaterMark
      · exact .inl ⟨full,by simp [processAudioChunk_full full]⟩
      · have room := Nat.lt_of_not_le full
        have taken := processAudioChunk_room room audio
        refine .inr ⟨room,?_⟩
        rcases ran : owned.engine.processAudioChunk audio with ⟨overflow,engine⟩
        rw [ran] at taken
        cases taken
        simp [ran]

-- Nothing the chunk handler sends is a transcription; a pause opens an episode.
theorem processAudioChunk_messages (session : StreamingSession) (now : Instant)
    (audio : List Sample) (present : message ∈ (session.processAudioChunk now audio).2) :
    (message = .flowControl .pause ∧ session.bufferOverflowed = false) ∨
      ∃ dropped, message = .bufferFull dropped := by
  rcases session.processAudioChunk_cases now audio with
    ⟨_,unchanged⟩ | ⟨owned,_,_,⟨_,dropped⟩ | ⟨_,taken⟩⟩
  · rw [unchanged] at present; cases present
  · rw [dropped] at present
    rcases List.mem_append.mp present with pause | warning
    · split at pause
      · cases pause
      · rename_i calm
        exact .inl ⟨List.mem_singleton.mp pause,by simpa using calm⟩
    · split at warning
      · exact .inr ⟨_,List.mem_singleton.mp warning⟩
      · cases warning
  · rw [taken] at present; cases present

theorem processAudioChunk_framed (session : StreamingSession) (now : Instant) (audio : List Sample) :
    Framed session (session.processAudioChunk now audio).1 := by
  rcases session.processAudioChunk_cases now audio with
    ⟨_,unchanged⟩ | ⟨owned,present,_,⟨_,dropped⟩ | ⟨_,taken⟩⟩
  · rw [unchanged]; exact .refl session
  · rw [dropped]; exact ⟨rfl,rfl,rfl⟩
  · rw [taken]; exact ⟨by simp [present],rfl,rfl⟩

theorem processAudioChunk_steady (session : StreamingSession) (now : Instant) (audio : List Sample) :
    Steady session (session.processAudioChunk now audio).1 := by
  rcases session.processAudioChunk_cases now audio with
    ⟨_,unchanged⟩ | ⟨_,_,_,⟨_,dropped⟩ | ⟨_,taken⟩⟩
  · rw [unchanged]; exact .refl session
  · rw [dropped]; exact ⟨rfl,fun shut => shut⟩
  · rw [taken]; exact ⟨rfl,fun shut => shut⟩

theorem handleBinaryMessage_cases
    (ran : handleBinaryMessage params session now data = (after,next)) :
    ∃ received start, (session.configured = true ∨ received = session.bytesReceivedInWindow ∧
        start = session.rateLimitStart) ∧
      let counted := { session with bytesReceivedInWindow := received, rateLimitStart := start }
      (after = counted ∧ (next = .reading ∨ next = .closing .policy ∨
        next = notConfigured ∧ session.configured = false)) ∨
      session.configured = true ∧ ∃ audio messages,
        counted.processAudioChunk now audio = (after,messages) ∧ next = sendThen messages .read := by
  unfold handleBinaryMessage at ran
  dsimp only at ran
  split at ran
  · cases ran; exact ⟨_,_,.inr ⟨rfl,rfl⟩,.inl ⟨rfl,.inr (.inl rfl)⟩⟩
  split at ran
  · cases ran; exact ⟨_,_,.inr ⟨rfl,rfl⟩,.inl ⟨rfl,.inl rfl⟩⟩
  split at ran
  · rename_i unready
    cases ran; exact ⟨_,_,.inr ⟨rfl,rfl⟩,.inl ⟨rfl,.inr (.inr ⟨rfl,by simpa using unready⟩)⟩⟩
  rename_i configured
  have ready : session.configured = true := by simpa using configured
  split at ran
  · cases ran; exact ⟨_,_,.inl ready,.inl ⟨rfl,.inl rfl⟩⟩
  split at ran
  · cases ran; exact ⟨_,_,.inl ready,.inl ⟨rfl,.inr (.inl rfl)⟩⟩
  · cases ran
    split
    · exact ⟨0,now,.inl ready,.inr ⟨ready,_,_,rfl,rfl⟩⟩
    · exact ⟨_,_,.inl ready,.inr ⟨ready,_,_,rfl,rfl⟩⟩

theorem handleBinaryMessage_framed
    (ran : handleBinaryMessage params session now data = (after,next)) : Framed session after := by
  obtain ⟨received,start,_,⟨rfl,_⟩ | ⟨_,audio,messages,heard,_⟩⟩ := handleBinaryMessage_cases ran
  · exact ⟨rfl,rfl,rfl⟩
  · let counted := { session with bytesReceivedInWindow := received, rateLimitStart := start }
    have admitted : Framed session counted := ⟨rfl,rfl,rfl⟩
    have frame := counted.processAudioChunk_framed now audio
    rw [show counted.processAudioChunk now audio = _ from heard] at frame
    exact admitted.trans frame

theorem handleBinaryMessage_steady
    (ran : handleBinaryMessage params session now data = (after,next)) : Steady session after := by
  obtain ⟨received,start,_,⟨rfl,_⟩ | ⟨_,audio,messages,heard,_⟩⟩ := handleBinaryMessage_cases ran
  · exact ⟨rfl,fun shut => shut⟩
  · let counted := { session with bytesReceivedInWindow := received, rateLimitStart := start }
    have admitted : Steady session counted := ⟨rfl,fun shut => shut⟩
    have steady := counted.processAudioChunk_steady now audio
    rw [show counted.processAudioChunk now audio = _ from heard] at steady
    exact admitted.trans steady

theorem handleBinaryMessage_transcripts
    (ran : handleBinaryMessage params session now data = (after,next)) :
    after.transcripts = session.transcripts := by
  obtain ⟨received,start,_,⟨rfl,_⟩ | ⟨_,audio,messages,heard,_⟩⟩ := handleBinaryMessage_cases ran
  · rfl
  · rcases processAudioChunk_cases { session with
      bytesReceivedInWindow := received, rateLimitStart := start } now audio with
      ⟨_,unchanged⟩ | ⟨_,_,_,⟨_,dropped⟩ | ⟨_,taken⟩⟩
    · cases unchanged.symm.trans heard; rfl
    · cases dropped.symm.trans heard; rfl
    · cases taken.symm.trans heard; rfl

-- A config message the handler lets through to ModelCache::acquire: with auth
-- enabled it carries a string token that validate() accepted.
def Authorized (params : SessionParams) (payload : Text) (view : AuthView) : Prop :=
  ∃ message, params.parseJson payload = .ok message ∧
    message.field? "type" = some (.string (bytes "config")) ∧
    (params.authManager.isAuthEnabled = true → ∃ token,
      message.field? "token" = some (.string token) ∧
      ({ params.authManager with cache := view.cache }.validate token view.exchange).2 = true)

def Refusal (next : Receiver) : Prop :=
  ∃ message code after, next = .sending [.error message code] after ∧
    (after = .read ∨ after = .close .rejected)

theorem refusal_sendError (message code : Text) : Refusal (sendError message code) :=
  ⟨message,code,.read,rfl,.inl rfl⟩

def Accepted (session : StreamingSession) (message : Json) (result : StreamingSession × Receiver) : Prop :=
  (∃ what, result = (session,configFailed what)) ∨
  (message.field? "language" = none ∧ result = (session,.acquiring)) ∨
  ∃ language, message.field? "language" = some (.string language) ∧
    result = ({ session with language },.acquiring)

theorem accepted_cases (params : SessionParams) (session : StreamingSession) (message : Json) :
    ∀ result, (match message.field? "language" with
      | none => (session,Receiver.acquiring)
      | some (.string language) => ({ session with language },.acquiring)
      | some other => (session,configFailed (params.typeErrorWhat other))) = result →
      Accepted session message result := by
  rintro _ rfl
  split
  · rename_i absent
    exact .inr (.inl ⟨absent,rfl⟩)
  · rename_i language found
    exact .inr (.inr ⟨language,found,rfl⟩)
  · exact .inl ⟨_,rfl⟩

def namedLanguage (message : Json) : Option Text :=
  match message.field? "language" with
  | some (.string language) => some language
  | _ => none

theorem accepted_language (params : SessionParams) (session : StreamingSession) (message : Json) :
    ∀ result, (match message.field? "language" with
      | none => (session,Receiver.acquiring)
      | some (.string language) => ({ session with language },.acquiring)
      | some other => (session,configFailed (params.typeErrorWhat other))) = result →
      result.1.language = (namedLanguage message).getD session.language := by
  rintro _ rfl
  unfold namedLanguage
  split
  · rename_i absent
    rw [absent]
    rfl
  · rename_i language found
    rw [found]
    rfl
  · rename_i other mistyped found
    rw [found]
    cases other with
    | string language => exact absurd rfl (mistyped language)
    | _ => rfl

theorem handleConfig_cases (params : SessionParams) (session : StreamingSession) (message : Json)
    (view : AuthView) :
    (∃ next, handleConfig params session message view = (session,next) ∧ Refusal next) ∨
    (∃ language, handleConfig params session message view = ({ session with language },.acquiring)) ∧
      (params.authManager.isAuthEnabled = true → ∃ token,
        message.field? "token" = some (.string token) ∧
        ({ params.authManager with cache := view.cache }.validate token view.exchange).2 = true) := by
  have language {result : StreamingSession × Receiver} (accepted : Accepted session message result) :
      (∃ next, result = (session,next) ∧ Refusal next) ∨
        ∃ language, result = ({ session with language },.acquiring) := by
    rcases accepted with ⟨what,failed⟩ | ⟨_,kept⟩ | ⟨language,_,changed⟩
    · exact .inl ⟨_,failed,refusal_sendError _ _⟩
    · exact .inr ⟨session.language,kept⟩
    · exact .inr ⟨language,changed⟩
  unfold handleConfig
  dsimp only
  split
  · rename_i enabled
    split
    · rename_i token found
      split
      · rename_i valid
        rcases language (accepted_cases params session message _ rfl) with refused | accepted
        · exact .inl refused
        · exact .inr ⟨accepted,fun _ => ⟨token,found,valid⟩⟩
      · exact .inl ⟨_,rfl,_,_,_,rfl,.inr rfl⟩
    · exact .inl ⟨_,rfl,_,_,_,rfl,.inr rfl⟩
  · rename_i disabled
    rcases language (accepted_cases params session message _ rfl) with refused | accepted
    · exact .inl refused
    · exact .inr ⟨accepted,fun enabled => absurd enabled disabled⟩

theorem handleJsonMessage_cases
    (ran : handleJsonMessage params session payload view = (after,next)) :
    (after = session ∧ Refusal next) ∨
    (∃ language, after = { session with language } ∧ next = .acquiring ∧
      Authorized params payload view) ∨
    (after = session.stopFlushLoop ∧ next = .joining ∧ session.configured = true) ∨
    (after = session ∧ next = .unwinding) := by
  unfold handleJsonMessage at ran
  split at ran
  · cases ran; exact .inl ⟨rfl,refusal_sendError _ _⟩
  · cases ran; exact .inr (.inr (.inr ⟨rfl,rfl⟩))
  · rename_i message parsed
    split at ran
    · cases ran; exact .inl ⟨rfl,refusal_sendError _ _⟩
    · rename_i type typed
      split at ran
      · rename_i config
        rcases handleConfig_cases params session message view with ⟨_,result,refused⟩ | ⟨⟨_,result⟩,valid⟩
        · cases result.symm.trans ran; exact .inl ⟨rfl,refused⟩
        · cases result.symm.trans ran
          exact .inr (.inl ⟨_,rfl,rfl,message,parsed,by rw [typed,config],valid⟩)
      · split at ran
        · cases ran; exact .inl ⟨rfl,refusal_sendError _ _⟩
        · rename_i ready
          split at ran
          · cases ran; exact .inr (.inr (.inl ⟨rfl,rfl,by simpa using ready⟩))
          · cases ran; exact .inl ⟨rfl,refusal_sendError _ _⟩
    · cases ran; exact .inr (.inr (.inr ⟨rfl,rfl⟩))

theorem handleJsonMessage_framed
    (ran : handleJsonMessage params session payload view = (after,next)) : Framed session after := by
  rcases handleJsonMessage_cases ran with ⟨rfl,_⟩ | ⟨_,rfl,_⟩ | ⟨rfl,_⟩ | ⟨rfl,_⟩
  all_goals exact ⟨rfl,rfl,rfl⟩

theorem handleJsonMessage_transcripts
    (ran : handleJsonMessage params session payload view = (after,next)) :
    after.transcripts = session.transcripts := by
  rcases handleJsonMessage_cases ran with ⟨rfl,_⟩ | ⟨_,rfl,_⟩ | ⟨rfl,_⟩ | ⟨rfl,_⟩
  all_goals rfl

theorem releaseModel_cases (ran : StreamingSession.releaseModel session = (after,events)) :
    (session.modelAcquired = true ∧ events = [.released] ∧
      after = { session with engine := none, modelAcquired := false }) ∨
    session.modelAcquired = false ∧ events = [] ∧ after = session := by
  unfold releaseModel at ran
  split at ran
  · rename_i held
    cases ran
    exact .inl ⟨held,rfl,rfl⟩
  · rename_i none_held
    cases ran
    exact .inr ⟨by simpa using none_held,rfl,rfl⟩

theorem releaseModel_steady (ran : StreamingSession.releaseModel session = (after,events)) :
    Steady session after := by
  rcases releaseModel_cases ran with ⟨_,_,rfl⟩ | ⟨_,_,rfl⟩
  · exact ⟨rfl,fun shut => shut⟩
  · exact .refl _

theorem releaseModel_received (ran : StreamingSession.releaseModel session = (after,events)) :
    Received session after := by
  rcases releaseModel_cases ran with ⟨_,_,rfl⟩ | ⟨_,_,rfl⟩
  · exact ⟨rfl,rfl,rfl,rfl⟩
  · exact .refl _

theorem releaseModel_transcripts (ran : StreamingSession.releaseModel session = (after,events)) :
    after.transcripts = session.transcripts := by
  rcases releaseModel_cases ran with ⟨_,_,rfl⟩ | ⟨_,_,rfl⟩ <;> rfl

theorem releaseModel_events (ran : StreamingSession.releaseModel session = (after,events)) :
    events = [] ∨ events = [.released] := by
  rcases releaseModel_cases ran with ⟨_,released,_⟩ | ⟨_,nothing,_⟩
  · exact .inr released
  · exact .inl nothing

end StreamingSession
end JotaTranscriber

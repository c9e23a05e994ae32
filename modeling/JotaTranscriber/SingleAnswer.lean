import JotaTranscriber.HandleTranscribe
import JotaTranscriber.Utf8

namespace JotaTranscriber.SingleAnswer
open HandleTranscribe

-- What dump() does not throw on: every string in it is well formed. Keys are
-- literals of the program.
mutual
def utf8 : Json → Bool
  | .string value => Utf8.valid value
  | .array items => utf8Items items
  | .object fields => utf8Fields fields
  | _ => true

def utf8Items : List Json → Bool
  | [] => true
  | item :: rest => utf8 item && utf8Items rest

def utf8Fields : List (String × Json) → Bool
  | [] => true
  | field :: rest => utf8Field field && utf8Fields rest

def utf8Field : String × Json → Bool
  | (_,value) => utf8 value
end

def responses (effects : List HttpEffect) : List HttpResponse :=
  effects.filterMap fun
    | .send response => some response
    | _ => none

-- A stretch of the handler with everything but send() decided.
abbrev Stretch (α : Type) := (HttpResponse → Bool) → Handler α

structure AnswersOnce (handler : Stretch α) : Prop where
  atMostOnce : ∀ send, (responses (handler send).effects).length ≤ 1
  exactlyOnce : ∀ send, (∀ response, send response = true) →
    (responses (handler send).effects).length = 1 ∧ (handler send).result ≠ .error .threw

-- The three ways a stretch ends when nothing in it is caught.
inductive Ending (α : Type) where
  | passes (value : α)
  | answers (response : HttpResponse)
  | throws

def Ending.responses : Ending α → List HttpResponse
  | .answers response => [response]
  | _ => []

def Ending.result (send : HttpResponse → Bool) : Ending α → Except Stop α
  | .passes value => .ok value
  | .answers response => .error (if send response then .returned else .threw)
  | .throws => .error .threw

def Ends (handler : Stretch α) (ending : Ending α) : Prop :=
  ∀ send, responses (handler send).effects = ending.responses ∧
    (handler send).result = ending.result send

def Answers (handler : Stretch α) : Prop := ∃ response, Ends handler (.answers response)

-- It answers when its texts are clean, and throws otherwise.
def AnswersIf (clean : Bool) (handler : Stretch α) : Prop :=
  if clean then Answers handler else Ends handler .throws

section Stretches
variable {handler : Stretch α} {next : (HttpResponse → Bool) → α → Handler β} {value : α}
  {ending : Ending β}

theorem responses_append (first second : List HttpEffect) :
    responses (first ++ second) = responses first ++ responses second := List.filterMap_append

theorem bind_ok {first : Handler α} {rest : α → Handler β} (passed : first.result = .ok value) :
    first >>= rest = ⟨first.effects ++ (rest value).effects,(rest value).result⟩ := by
  simp only [Bind.bind,passed]

theorem bind_error {first : Handler α} {rest : α → Handler β} (stopped : first.result = .error stop) :
    first >>= rest = ⟨first.effects,.error stop⟩ := by
  simp only [Bind.bind,stopped]

theorem Ends.bind (first : Ends handler (.passes value)) (rest : Ends (fun send => next send value) ending) :
    Ends (fun send => handler send >>= next send) ending := by
  intro send
  obtain ⟨silent,passed⟩ := first send
  obtain ⟨told,result⟩ := rest send
  dsimp only
  rw [bind_ok passed,responses_append,silent,told]
  exact ⟨rfl,result⟩

theorem Ends.answers_bind (first : Ends handler (.answers response)) :
    Ends (fun send => handler send >>= next send) (.answers response) := by
  intro send
  obtain ⟨told,stopped⟩ := first send
  dsimp only
  rw [bind_error stopped]
  exact ⟨told,rfl⟩

theorem Ends.throws_bind (first : Ends handler .throws) :
    Ends (fun send => handler send >>= next send) .throws := by
  intro send
  obtain ⟨silent,stopped⟩ := first send
  dsimp only
  rw [bind_error stopped]
  exact ⟨silent,rfl⟩

theorem Answers.bind (first : Answers handler) : Answers (fun send => handler send >>= next send) := by
  obtain ⟨response,ends⟩ := first
  exact ⟨response,ends.answers_bind⟩

theorem ends_pure (value : α) : Ends (fun _ => pure value) (.passes value) := fun _ => ⟨rfl,rfl⟩

theorem ends_perform {effect : HttpEffect} (silent : responses [effect] = []) :
    Ends (fun _ => perform effect) (.passes ()) := fun _ => ⟨silent,rfl⟩

theorem Ends.behind {ending : Ending α} {effect : HttpEffect} (ends : Ends handler ending)
    (silent : responses [effect] = []) : Ends (fun send => do perform effect; handler send) ending :=
  Ends.bind (ends_perform silent) ends

theorem Ends.guarding {ending : Ending α} {effect : HttpEffect} (ends : Ends handler ending)
    (silent : responses [effect] = []) :
    Ends (fun send => HandleTranscribe.guarding effect (handler send)) ending := by
  intro send
  obtain ⟨told,result⟩ := ends send
  refine ⟨?_,result⟩
  have whole := responses_append (handler send).effects [effect]
  rw [told,silent,List.append_nil] at whole
  exact whole

theorem Answers.once (answers : Answers handler) : AnswersOnce handler := by
  obtain ⟨response,ends⟩ := answers
  constructor
  · intro send
    rw [(ends send).1]
    exact Nat.le_refl 1
  · intro send calm
    rw [(ends send).1,(ends send).2,Ending.result,if_pos (calm response)]
    exact ⟨rfl,nofun⟩

theorem Ends.never_once (ends : Ends handler .throws) : ¬ AnswersOnce handler := by
  intro once
  have sent := (once.exactlyOnce (fun _ => true) fun _ => rfl).1
  rw [(ends _).1] at sent
  cases sent

theorem AnswersIf.once (decided : AnswersIf clean handler) : AnswersOnce handler ↔ clean = true := by
  cases clean with
  | true => exact iff_of_true (Answers.once decided) rfl
  | false => exact iff_of_false (Ends.never_once decided) nofun

theorem AnswersIf.bind (decided : AnswersIf clean handler) :
    AnswersIf clean fun send => handler send >>= next send := by
  cases clean with
  | true => exact Answers.bind decided
  | false => exact Ends.throws_bind decided

theorem Answers.after (first : Ends handler (.passes value))
    (rest : Answers fun send => next send value) : Answers fun send => handler send >>= next send := by
  obtain ⟨response,ends⟩ := rest
  exact ⟨response,first.bind ends⟩

theorem AnswersIf.after (first : Ends handler (.passes value))
    (rest : AnswersIf clean fun send => next send value) :
    AnswersIf clean fun send => handler send >>= next send := by
  cases clean with
  | true => exact Answers.after first rest
  | false => exact Ends.bind first rest

theorem once_bind (first : Ends handler (.passes value)) :
    AnswersOnce (fun send => handler send >>= next send) ↔ AnswersOnce (fun send => next send value) := by
  have effects (send) : responses (handler send >>= next send).effects =
      responses (next send value).effects := by
    rw [bind_ok (first send).2,responses_append,(first send).1]
    rfl
  have result (send) : (handler send >>= next send).result = (next send value).result := by
    rw [bind_ok (first send).2]
  constructor
  · intro ⟨most,exactly⟩
    simp only [effects,result] at most exactly
    exact ⟨most,exactly⟩
  · intro ⟨most,exactly⟩
    refine ⟨?_,?_⟩
    · simpa only [effects] using most
    · simpa only [effects,result] using exactly

-- A stretch that goes on when its answer cannot be sent: what follows must not
-- answer as well, and so has to throw.
theorem once_told
    (tells : ∀ send, responses (handler send).effects = [response] ∧
      (handler send).result = if send response then .error .returned else .ok value)
    (rest : AnswersIf clean fun send => next send value) :
    AnswersOnce (fun send => handler send >>= next send) ↔ clean = false := by
  have unsent (send) (lost : send response = false) :
      responses (handler send >>= next send).effects =
        response :: responses (next send value).effects := by
    obtain ⟨told,goes⟩ := tells send
    rw [lost,if_neg nofun] at goes
    rw [bind_ok goes,responses_append,told]
    rfl
  have sent (send) (arrived : send response = true) :
      handler send >>= next send = ⟨(handler send).effects,.error .returned⟩ := by
    obtain ⟨_,stops⟩ := tells send
    rw [if_pos arrived] at stops
    exact bind_error stops
  cases clean with
  | true =>
    obtain ⟨second,ends⟩ := rest
    refine iff_of_false ?_ nofun
    intro once
    have most := once.atMostOnce fun _ => false
    rw [unsent _ (by rfl),(ends _).1] at most
    cases Nat.le_of_succ_le_succ most
  | false =>
    refine iff_of_true ⟨?_,?_⟩ (by rfl)
    · intro send
      cases arrived : send response with
      | true =>
        rw [sent send arrived,(tells send).1]
        exact Nat.le_refl 1
      | false =>
        have silent : responses (next send value).effects = [] := (rest send).1
        rw [unsent send arrived,silent]
        exact Nat.le_refl 1
    · intro send calm
      rw [sent send (calm response),(tells send).1]
      exact ⟨rfl,nofun⟩

end Stretches

-- An input of handle(), less send().
variable (request : HttpRequest) (config : ServerConfig) (auth : Option AuthManager) (world : HttpWorld)

def sending (send : HttpResponse → Bool) : HttpWorld := { world with send }

@[simp] theorem sending_loadModel (send : HttpResponse → Bool) :
    (sending world send).loadModel = world.loadModel := rfl

@[simp] theorem sending_slot (send : HttpResponse → Bool) : (sending world send).slot = world.slot := rfl

@[simp] theorem sending_initState (send : HttpResponse → Bool) :
    (sending world send).initState = world.initState := rfl

@[simp] theorem sending_whisper (send : HttpResponse → Bool) :
    (sending world send).whisper = world.whisper := rfl

-- nlohmann's dump() throws exactly on text that is not UTF-8.
def Dumps : Prop := ∀ json, (world.dump json).isSome = utf8 json

theorem valid_bytes (literal : String) : Utf8.valid (bytes literal) = true := Utf8.valid_toUTF8 literal

section Bodies
variable {world} (dumps : Dumps world)
include dumps

theorem makeJson_decided (json : Json) (status : HttpStatus) :
    AnswersIf (α := α) (utf8 json) fun send => makeJson (sending world send) status json := by
  have thrown := dumps json
  cases dumped : world.dump json with
  | some text =>
    rw [dumped] at thrown
    rw [← thrown]
    refine ⟨⟨status,bytes "application/json",text⟩,?_⟩
    intro send
    simp only [makeJson,sending,dumped]
    exact ⟨rfl,rfl⟩
  | none =>
    rw [dumped] at thrown
    rw [← thrown]
    intro send
    simp only [makeJson,sending,dumped]
    exact ⟨rfl,rfl⟩

theorem makeError_decided (message : Text) (status : HttpStatus) (type : String) :
    AnswersIf (α := α) (Utf8.valid message)
      fun send => makeError (sending world send) status message (bytes type) := by
  have clean : utf8 (.object [("error",.object [("message",.string message),
      ("type",.string (bytes type))])]) = Utf8.valid message := by
    simp only [utf8,utf8Fields,utf8Field,valid_bytes,Bool.and_true]
  rw [← clean]
  exact makeJson_decided dumps _ status

theorem makeError_answers {message : Text} (clean : Utf8.valid message = true) (status : HttpStatus)
    (type : String) :
    Answers (α := α) fun send => makeError (sending world send) status message (bytes type) := by
  have told := makeError_decided (α := α) dumps message status type
  rw [clean] at told
  exact told

-- The answers whose text is fixed.
theorem makeError_fixed (message : String) (status : HttpStatus) (type : String) :
    Answers (α := α) fun send => makeError (sending world send) status (bytes message) (bytes type) :=
  makeError_answers dumps (valid_bytes message) status type

end Bodies

-- Whether handle() goes on past the authorization.
def authorized : Bool :=
  match auth with
  | none => !authConfigured config
  | some manager =>
    !manager.isAuthEnabled || (manager.validate (bearerToken request) world.exchange).2

-- The form of a request that reaches the response format, with the format as
-- the client wrote it.
def form? : Option (MultipartParser.Parts × List UInt8 × Text) :=
  let boundary := MultipartParser.extractBoundary request.contentType
  if boundary.isEmpty then none
  else
    match MultipartParser.parse request.body boundary with
    | .error _ => none
    | .ok parts =>
      match field? parts "file" with
      | none => none
      | some file =>
        if (field? parts "model").isNone ∨ request.body.length > config.maxUploadBytes then none
        else some (parts,file,(field? parts "response_format").getD (bytes "json"))

def tooLong (pcm : List Sample) : Bool := (pcm.length : Rat) / 16000 > config.maxAudioDurationSec

def outOfRange (parts : MultipartParser.Parts) : Bool :=
  match (field? parts "temperature").bind world.stof with
  | none => false
  | some number => number < 0 || number > 1

-- The segment texts the answer is made of; none where the handler answers with
-- a fixed error instead.
def spoken : Option (List Text) :=
  match world.loadModel,world.slot && world.initState,world.whisper with
  | .ok _,true,.decoded segments => some (segments.filterMap HttpSegment.text)
  | _,_,_ => none

def heard (pcm : List Sample) : Option (List Text) :=
  if config.vadModelPath.isEmpty then spoken world
  else
    match ((VadGate.create config.vadSpeechPadMs).gate pcm world.vad).2 with
    | .error _ => none
    | .ok gated => if gated.hadSpeech then spoken world else some []

def printable (parts : MultipartParser.Parts) (format : ResponseFormat) (texts : List Text) : Bool :=
  match format with
  | .text => true
  | .json => Utf8.valid texts.flatten
  | .verboseJson => Utf8.valid ((field? parts "task").getD (bytes "transcribe")) &&
    Utf8.valid ((field? parts "language").getD (bytes "auto")) && texts.all Utf8.valid

def clean (parts : MultipartParser.Parts) (format : ResponseFormat) (pcm : List Sample) : Bool :=
  (heard config world pcm).all (printable parts format)

-- An unauthorized request and a malformed form are always answered once. Past
-- them every text that goes into a JSON answer has to be UTF-8, but for a
-- temperature out of range: its error is sent before, inside the catch-all, and
-- only a later answer that cannot be written does not follow it.
def answerable : Bool :=
  !authorized request config auth world ||
    match form? request config with
    | none => true
    | some (parts,file,name) =>
      match responseFormat? name with
      | none => Utf8.valid name
      | some format =>
        match world.decode file with
        | .error what => Utf8.valid what
        | .ok pcm => tooLong config pcm || (outOfRange world parts != clean config world parts format pcm)

-- The parser's own errors are fixed texts.
theorem parseParts_error (failed : MultipartParser.parseParts delimiter fuel rest parts = .error what) :
    Utf8.valid what = true := by
  induction fuel generalizing rest parts with
  | zero => cases failed
  | succ fuel ih =>
    unfold MultipartParser.parseParts at failed
    split at failed
    · cases failed
    · split at failed
      · cases failed
      · split at failed
        · cases failed
          exact valid_bytes _
        · split at failed
          · cases failed
            exact valid_bytes _
          · exact ih failed

theorem parse_error (failed : MultipartParser.parse body boundary = .error what) :
    Utf8.valid what = true := by
  unfold MultipartParser.parse at failed
  split at failed
  · cases failed
    exact valid_bytes _
  · exact parseParts_error failed

-- What handle() does past the temperature.
def finish (parts : MultipartParser.Parts) (format : ResponseFormat) (pcm : List Sample) : Handler Unit := do
  let (gate,hadSpeech) ← gateAudio config world pcm
  let (text,segments) ← if hadSpeech then transcribe world format gate else pure ([],[])
  respond parts world format text segments

section Stages
variable {request config auth world} (dumps : Dumps world)
include dumps

theorem authorize_answers (refused : authorized request config auth world = false) :
    Answers fun send => authorize request config auth (sending world send) := by
  unfold authorize
  cases auth with
  | none =>
    have configured : authConfigured config = true := by simpa [authorized] using refused
    simp only [configured,if_true]
    exact makeError_fixed dumps _ _ _
  | some manager =>
    obtain ⟨enabled,rejected⟩ : manager.isAuthEnabled = true ∧
        (manager.validate (bearerToken request) world.exchange).2 = false := by
      simpa [authorized] using refused
    simp only [enabled,if_true,sending,rejected]
    obtain ⟨response,ends⟩ := makeError_fixed (α := Unit) dumps
      "Invalid or missing authorization token" .unauthorized "invalid_request_error"
    exact ⟨response,ends.behind (by rfl)⟩

omit dumps in
theorem authorize_passes (allowed : authorized request config auth world = true) :
    Ends (fun send => authorize request config auth (sending world send)) (.passes ()) := by
  unfold authorize
  cases auth with
  | none =>
    have unconfigured : authConfigured config = false := by simpa [authorized] using allowed
    simp only [unconfigured]
    exact ends_pure ()
  | some manager =>
    cases enabled : manager.isAuthEnabled with
    | false =>
      simp only [enabled,Bool.false_eq_true,if_false]
      exact ends_pure ()
    | true =>
      have accepted : (manager.validate (bearerToken request) world.exchange).2 = true := by
        simpa [authorized,enabled] using allowed
      simp only [enabled,if_true,sending,accepted]
      exact (ends_pure ()).behind (by rfl)

theorem parseForm_answers
    (missing : (MultipartParser.extractBoundary request.contentType).isEmpty = true ∨ ∃ what,
      MultipartParser.parse request.body (MultipartParser.extractBoundary request.contentType) = .error what) :
    Answers fun send => parseForm request (sending world send) := by
  unfold parseForm
  cases empty : (MultipartParser.extractBoundary request.contentType).isEmpty with
  | true =>
    simp only [empty,if_true]
    exact makeError_fixed dumps _ _ _
  | false =>
    obtain ⟨what,failed⟩ := missing.resolve_left (by simp [empty])
    simp only [empty,Bool.false_eq_true,if_false,failed]
    apply makeError_answers dumps
    exact Utf8.valid_append (valid_bytes _) (parse_error failed)

variable (world) in
omit dumps in
theorem parseForm_passes
    (bounded : (MultipartParser.extractBoundary request.contentType).isEmpty = false)
    (parsed : MultipartParser.parse request.body (MultipartParser.extractBoundary request.contentType) =
      .ok parts) :
    Ends (fun send => parseForm request (sending world send)) (.passes parts) := by
  unfold parseForm
  simp only [bounded,Bool.false_eq_true,if_false,parsed]
  exact ends_pure parts

theorem readForm_answers (malformed : form? request config = none) :
    Answers fun send => readForm request config (sending world send) := by
  unfold readForm
  unfold form? at malformed
  dsimp only at malformed
  split at malformed
  · rename_i empty
    exact (parseForm_answers dumps (.inl empty)).bind
  · rename_i bounded
    split at malformed
    · rename_i failed
      exact (parseForm_answers dumps (.inr ⟨_,failed⟩)).bind
    · rename_i parts parsed
      have formed := parseForm_passes world (by simpa using bounded) parsed
      refine Answers.after formed ?_
      cases present : field? parts "file" with
      | none => exact makeError_fixed dumps _ _ _
      | some file =>
        rw [present] at malformed
        dsimp only at malformed
        split at malformed
        · rename_i refused
          dsimp only
          split
          · exact makeError_fixed dumps _ _ _
          · rename_i modelled
            simp only [refused.resolve_left modelled,if_true]
            exact makeError_fixed dumps _ _ _
        · cases malformed

omit dumps in
-- Past the required fields only the response format is left to check.
theorem readForm_formed (formed : form? request config = some (parts,file,name))
    (send : HttpResponse → Bool) :
    readForm request config (sending world send) =
      match responseFormat? name with
      | none =>
        makeError (sending world send) .badRequest (bytes "response_format '" ++ name ++
          bytes "' is not supported. Supported values: json, text, verbose_json") invalidRequest
      | some format => pure (parts,file,format) := by
  unfold form? at formed
  dsimp only at formed
  split at formed
  · cases formed
  · rename_i bounded
    split at formed
    · cases formed
    · rename_i found parsed
      split at formed
      · cases formed
      · rename_i present
        split at formed
        · cases formed
        · rename_i accepted
          cases formed
          obtain ⟨modelled,fits⟩ := not_or.mp accepted
          unfold readForm parseForm
          simp only [bounded,parsed]
          rw [bind_ok rfl]
          simp only [present,modelled,fits,if_false]
          rfl

theorem readForm_unsupported (formed : form? request config = some (parts,file,name))
    (unsupported : responseFormat? name = none) :
    AnswersIf (Utf8.valid name) fun send => readForm request config (sending world send) := by
  simp only [readForm_formed formed,unsupported]
  have same : Utf8.valid (bytes "response_format '" ++ name ++
      bytes "' is not supported. Supported values: json, text, verbose_json") = Utf8.valid name := by
    rw [Utf8.valid_append_right _ (valid_bytes _),Utf8.valid_append_left (valid_bytes _)]
  rw [← same]
  exact makeError_decided dumps _ _ _

omit dumps in
theorem readForm_passes (formed : form? request config = some (parts,file,name))
    (supported : responseFormat? name = some format) :
    Ends (fun send => readForm request config (sending world send)) (.passes (parts,file,format)) := by
  simp only [readForm_formed formed,supported]
  exact ends_pure _

theorem decodeAudio_failed (failed : world.decode file = .error what) :
    AnswersIf (Utf8.valid what) fun send => decodeAudio config (sending world send) file := by
  unfold decodeAudio
  simp only [sending,failed]
  rw [← Utf8.valid_append_left (valid_bytes "Failed to decode audio: ") what]
  exact (makeError_decided dumps _ .badRequest "invalid_request_error").after (ends_perform (by rfl))

theorem decodeAudio_answers (decoded : world.decode file = .ok pcm) (long : tooLong config pcm = true) :
    Answers fun send => decodeAudio config (sending world send) file := by
  unfold decodeAudio
  simp only [sending,decoded,if_pos (of_decide_eq_true long)]
  refine Answers.after (ends_perform (by rfl)) (makeError_answers dumps ?_ _ _)
  exact Utf8.valid_append (Utf8.valid_append (valid_bytes _) (valid_bytes _)) (valid_bytes _)

omit dumps in
theorem decodeAudio_passes (decoded : world.decode file = .ok pcm) (short : tooLong config pcm = false) :
    Ends (fun send => decodeAudio config (sending world send) file) (.passes pcm) := by
  unfold decodeAudio
  simp only [sending,decoded,if_neg (of_decide_eq_false short)]
  exact (ends_pure pcm).behind (by rfl)

omit dumps in
theorem catchAll_passes {handler : Stretch α} {fallback : α}
    (ends : Ends handler .throws ∨ ∃ value, Ends handler (.passes value)) :
    ∃ value, Ends (fun send => catchAll (handler send) fallback) (.passes value) := by
  rcases ends with threw | ⟨value,passed⟩
  · refine ⟨fallback,?_⟩
    intro send
    simp only [catchAll,(threw send).2,Ending.result]
    exact ⟨(threw send).1,trivial⟩
  · refine ⟨value,?_⟩
    intro send
    simp only [catchAll,(passed send).2,Ending.result]
    exact ⟨(passed send).1,trivial⟩

omit dumps in
theorem catchAll_answers {handler : Stretch α} {fallback : α} (ends : Ends handler (.answers response))
    (send : HttpResponse → Bool) : responses (catchAll (handler send) fallback).effects = [response] ∧
      (catchAll (handler send) fallback).result =
        if send response then .error .returned else .ok fallback := by
  obtain ⟨told,result⟩ := ends send
  unfold catchAll
  cases sent : send response with
  | true =>
    rw [Ending.result,sent,if_pos (by rfl)] at result
    simp only [result]
    exact ⟨told,rfl⟩
  | false =>
    rw [Ending.result,sent,if_neg nofun] at result
    simp only [result]
    exact ⟨told,rfl⟩

omit dumps in
theorem readTemperature_passes (inRange : outOfRange world parts = false) :
    ∃ value, Ends (fun send => readTemperature parts (sending world send)) (.passes value) := by
  unfold readTemperature
  unfold outOfRange at inRange
  cases given : field? parts "temperature" with
  | none => exact ⟨none,ends_pure none⟩
  | some value =>
    rw [given,Option.bind_some] at inRange
    apply catchAll_passes
    simp only [sending]
    cases read : world.stof value with
    | none => exact .inl fun _ => ⟨rfl,rfl⟩
    | some number =>
      rw [read] at inRange
      have bounded : ¬ (number < 0 ∨ number > 1) := by simpa using inRange
      simp only [bounded,if_false]
      exact .inr ⟨_,ends_pure _⟩

-- A temperature out of range is answered, and the handler goes on when that
-- answer cannot be sent.
theorem readTemperature_tells (bad : outOfRange world parts = true) : ∃ response, ∀ send,
    responses (readTemperature parts (sending world send)).effects = [response] ∧
    (readTemperature parts (sending world send)).result =
      if send response then .error .returned else .ok none := by
  unfold outOfRange at bad
  cases given : field? parts "temperature" with
  | none =>
    rw [given] at bad
    cases bad
  | some value =>
    rw [given,Option.bind_some] at bad
    cases read : world.stof value with
    | none =>
      rw [read] at bad
      cases bad
    | some number =>
      rw [read] at bad
      have outside : number < 0 ∨ number > 1 := by simpa using bad
      obtain ⟨response,ends⟩ := makeError_fixed (α := Option Rat) dumps
        "temperature must be between 0.0 and 1.0" .badRequest "invalid_request_error"
      refine ⟨response,?_⟩
      intro send
      simp only [readTemperature,given,sending,read,outside,if_true]
      exact catchAll_answers ends send

variable (config) in
theorem gateAudio_ends (pcm : List Sample) :
    (heard config world pcm = none ∧ Answers fun send => gateAudio config (sending world send) pcm) ∨
    ∃ gate hadSpeech,
      heard config world pcm = (if hadSpeech then spoken world else some []) ∧
      Ends (fun send => gateAudio config (sending world send) pcm) (.passes (gate,hadSpeech)) := by
  unfold gateAudio heard
  cases ungated : config.vadModelPath.isEmpty with
  | true => exact .inr ⟨none,true,rfl,ends_pure _⟩
  | false =>
    simp only [Bool.false_eq_true,if_false,sending]
    obtain ⟨gate,outcome⟩ := (VadGate.create config.vadSpeechPadMs).gate pcm world.vad
    cases outcome with
    | error what =>
      obtain ⟨response,ends⟩ := makeError_fixed (α := Option VadGate × Bool) dumps "VAD gating failed"
        .internalServerError "server_error"
      exact .inl ⟨rfl,response,ends.behind (by rfl)⟩
    | ok gated => exact .inr ⟨some gate,gated.hadSpeech,rfl,(ends_pure _).behind (by rfl)⟩

omit dumps in
theorem collect_text (format : ResponseFormat) (gate : Option VadGate) (segments : List HttpSegment) :
    (collect format gate segments).1 = (segments.filterMap HttpSegment.text).flatten := by
  simp only [collect,List.flatMap,List.map_filterMap,Option.map_map]
  congr 2
  funext segment
  exact Option.map_id'

omit dumps in
theorem collect_segments (gate : Option VadGate) (segments : List HttpSegment) :
    (collect .verboseJson gate segments).2.map TimedSegment.text = segments.filterMap HttpSegment.text := by
  simp only [collect,if_true,List.map_filterMap,Option.map_map]
  congr 1
  funext segment
  have kept (text : Text) : (timed gate segment text).text = text := by cases gate <;> rfl
  cases given : segment.text with
  | none => rfl
  | some text => exact congrArg some (kept text)

omit dumps in
theorem Ends.under {handler : Stretch α} {ending : Ending α} {take release : HttpEffect}
    (ends : Ends handler ending) (taken : responses [take] = []) (released : responses [release] = []) :
    Ends (fun send => do perform take; HandleTranscribe.guarding release (handler send)) ending :=
  (ends.guarding released).behind taken

theorem transcribe_ends (format : ResponseFormat) (gate : Option VadGate) :
    (spoken world = none ∧ Answers fun send => transcribe (sending world send) format gate) ∨
    ∃ texts segments, spoken world = some texts ∧
      (format = .verboseJson → segments.map TimedSegment.text = texts) ∧
      Ends (fun send => transcribe (sending world send) format gate) (.passes (texts.flatten,segments)) := by
  have told (status : HttpStatus) (message : String) :=
    makeError_fixed (α := Text × List TimedSegment) dumps message status "server_error"
  unfold transcribe
  simp only [sending_loadModel,sending_slot,sending_initState,sending_whisper]
  cases loaded : world.loadModel with
  | error what =>
    obtain ⟨response,ends⟩ := told .internalServerError "Failed to load model"
    refine .inl ⟨?_,response,ends.behind (by rfl)⟩
    simp only [spoken,loaded]
  | ok _ =>
    rcases Bool.eq_false_or_eq_true world.slot with slot | slot
    · simp only [spoken,loaded,slot,Bool.not_true,Bool.false_eq_true,if_false,Bool.true_and]
      rcases Bool.eq_false_or_eq_true world.initState with ready | failed
      · simp only [ready,Bool.not_true,Bool.false_eq_true,if_false]
        cases world.whisper with
        | failed code =>
          obtain ⟨response,ends⟩ := told .internalServerError "Whisper inference failed"
          have passed := ends.behind (by rfl : responses [.infer] = [])
          exact .inl ⟨rfl,response,(passed.under (by rfl) (by rfl)).under (by rfl) (by rfl)⟩
        | decoded segments =>
          have passed := (ends_pure (collect format gate segments)).behind (by rfl : responses [.infer] = [])
          refine .inr ⟨_,(collect format gate segments).2,rfl,?_,?_⟩
          · intro verbose
            rw [verbose]
            exact collect_segments gate segments
          · rw [← collect_text format gate]
            exact (passed.under (by rfl) (by rfl)).under (by rfl) (by rfl)
      · obtain ⟨response,ends⟩ := told .internalServerError "Failed to initialize whisper state"
        simp only [failed,Bool.not_false,if_true]
        exact .inl ⟨trivial,response,(ends.under (by rfl) (by rfl)).under (by rfl) (by rfl)⟩
    · obtain ⟨response,ends⟩ := told .serviceUnavailable
        "Server is at maximum inference capacity, try again later"
      simp only [spoken,loaded,slot,Bool.not_false,if_true,Bool.false_and]
      exact .inl ⟨trivial,response,(ends.under (by rfl) (by rfl))⟩

omit dumps in
theorem utf8_segments (segments : List TimedSegment) :
    utf8Items (segments.map fun segment =>
      .object [("start",.number segment.start),("end",.number segment.stop),
        ("text",.string segment.text),("no_speech_prob",.number segment.noSpeechProb)]) =
      (segments.map TimedSegment.text).all Utf8.valid := by
  induction segments with
  | nil => rfl
  | cons segment rest ih =>
    rw [List.map_cons,List.map_cons,List.all_cons,utf8Items,ih]
    simp only [utf8,utf8Fields,utf8Field,Bool.and_true,Bool.true_and]

theorem respond_decided (named : Utf8.valid world.id = true) (dated : Utf8.valid world.createdAt = true)
    (parts : MultipartParser.Parts) (format : ResponseFormat) (texts : List Text)
    (segments : List TimedSegment)
    (told : format = .verboseJson → segments.map TimedSegment.text = texts) :
    AnswersIf (printable parts format texts)
      fun send => respond parts (sending world send) format texts.flatten segments := by
  cases format with
  | text => exact ⟨_,fun _ => ⟨rfl,rfl⟩⟩
  | json =>
    have clean : utf8 (.object [("text",.string texts.flatten)]) = Utf8.valid texts.flatten := by
      simp only [utf8,utf8Fields,utf8Field,Bool.and_true]
    have decided := makeJson_decided (α := Unit) dumps (.object [("text",.string texts.flatten)]) .ok
    rw [clean] at decided
    exact decided
  | verboseJson =>
    have decided := makeJson_decided (α := Unit) dumps (.object [("id",.string world.id),
      ("created_at",.string world.createdAt),
      ("task",.string ((field? parts "task").getD (bytes "transcribe"))),
      ("language",.string ((field? parts "language").getD (bytes "auto"))),
      ("duration",.number ((segments.getLast?.map TimedSegment.stop).getD 0)),
      ("text",.string texts.flatten),
      ("segments",.array (segments.map fun segment =>
        .object [("start",.number segment.start),("end",.number segment.stop),
          ("text",.string segment.text),("no_speech_prob",.number segment.noSpeechProb)]))]) .ok
    simp only [utf8,utf8Fields,utf8Field,utf8_segments,told rfl,named,dated,Bool.and_true,
      Bool.true_and] at decided
    have whole : (Utf8.valid texts.flatten && texts.all Utf8.valid) = texts.all Utf8.valid := by
      cases each : texts.all Utf8.valid with
      | false => exact Bool.and_false _
      | true => rw [Utf8.valid_flatten (List.all_eq_true.mp each),Bool.true_and]
    rw [whole,← Bool.and_assoc] at decided
    exact decided

variable (config) in
theorem finish_decided (named : Utf8.valid world.id = true) (dated : Utf8.valid world.createdAt = true)
    (parts : MultipartParser.Parts) (format : ResponseFormat) (pcm : List Sample) :
    AnswersIf (clean config world parts format pcm)
      fun send => finish config (sending world send) parts format pcm := by
  have responded := respond_decided dumps named dated parts format
  unfold clean
  rcases gateAudio_ends config dumps pcm with
    ⟨silenced,answers⟩ | ⟨gate,hadSpeech,found,passes⟩
  · rw [silenced]
    exact answers.bind
  · rw [found]
    refine AnswersIf.after passes ?_
    cases hadSpeech with
    | false => exact AnswersIf.after (ends_pure ([],[])) (responded [] [] fun _ => rfl)
    | true =>
      rcases transcribe_ends dumps format gate with
        ⟨failed,answers⟩ | ⟨texts,segments,said,told,passes⟩
      · rw [if_pos (by rfl),failed]
        exact answers.bind
      · rw [if_pos (by rfl),said]
        exact AnswersIf.after passes (responded texts segments told)

variable (config) in
theorem tempered (named : Utf8.valid world.id = true) (dated : Utf8.valid world.createdAt = true)
    (parts : MultipartParser.Parts) (format : ResponseFormat) (pcm : List Sample) :
    AnswersOnce (fun send => do
      let _temperature ← readTemperature parts (sending world send)
      finish config (sending world send) parts format pcm) ↔
      (outOfRange world parts != clean config world parts format pcm) = true := by
  have finished := finish_decided config dumps named dated parts format pcm
  cases bad : outOfRange world parts with
  | false =>
    obtain ⟨value,passes⟩ := readTemperature_passes bad
    rw [once_bind passes,finished.once,Bool.false_bne]
  | true =>
    obtain ⟨response,tells⟩ := readTemperature_tells dumps bad
    rw [once_told tells finished,Bool.true_bne,Bool.not_eq_true']

end Stages

theorem answered_once_iff (dumps : Dumps world) (named : Utf8.valid world.id = true)
    (dated : Utf8.valid world.createdAt = true) :
    AnswersOnce (fun send => handle request config auth (sending world send)) ↔
      answerable request config auth world = true := by
  unfold handle answerable
  cases allowed : authorized request config auth world with
  | false => exact iff_of_true (authorize_answers dumps allowed).bind.once (by rfl)
  | true =>
    refine (once_bind (authorize_passes allowed)).trans ?_
    cases formed : form? request config with
    | none => exact iff_of_true (readForm_answers dumps formed).bind.once (by rfl)
    | some form =>
      obtain ⟨parts,file,name⟩ := form
      cases supported : responseFormat? name with
      | none =>
        have refused := readForm_unsupported dumps formed supported
        refine refused.bind.once.trans ?_
        simp only [supported,Bool.not_true,Bool.false_or]
      | some format =>
        refine (once_bind (readForm_passes formed supported)).trans ?_
        simp only [supported,Bool.not_true,Bool.false_or]
        cases decoded : world.decode file with
        | error what => exact (decodeAudio_failed dumps decoded).bind.once
        | ok pcm =>
          dsimp only
          cases long : tooLong config pcm with
          | true => exact iff_of_true (decodeAudio_answers dumps decoded long).bind.once (by rfl)
          | false =>
            refine (once_bind (decodeAudio_passes decoded long)).trans ?_
            rw [Bool.false_or]
            exact tempered config dumps named dated parts format pcm

-- dump() for the two shapes below and the error message of a session, whose texts
-- need no escapes. It writes the keys in order.
def plainDump (json : Json) : Option Text :=
  if utf8 json then
    match json with
    | .object [("text",.string text)] => some (bytes "\x7b\"text\":\"" ++ text ++ bytes "\"\x7d")
    | .object [("error",.object [("message",.string message),("type",.string type)])] =>
      some (bytes "\x7b\"error\":\x7b\"message\":\"" ++ message ++ bytes "\",\"type\":\"" ++ type ++
        bytes "\"\x7d\x7d")
    | .object [("type",.string type),("message",.string message),("code",.string code)] =>
      some (bytes "\x7b\"code\":\"" ++ code ++ bytes "\",\"message\":\"" ++ message ++
        bytes "\",\"type\":\"" ++ type ++ bytes "\"\x7d")
    | _ => some []
  else none

def openConfig : ServerConfig := ⟨[],[],25 * 1024 * 1024,600,[],400⟩

def plainWorld : HttpWorld where
  exchange := ⟨0,0,.denied⟩
  decode := fun _ => .ok [0,0]
  stof := fun value => if value = bytes "2" then some 2 else none
  vad := ⟨true,some []⟩
  loadModel := .ok ()
  slot := true
  initState := true
  whisper := .decoded [⟨some (bytes " hola"),0,100,0⟩]
  dump := plainDump
  send := fun _ => true
  id := bytes "transcribe-00000000deadbeef"
  createdAt := bytes "2024-01-01T00:00:00Z"

-- A form with one field beside the file and the model.
def formWith (field : String) (value : Text) : HttpRequest where
  authorization := []
  contentType := bytes "multipart/form-data; boundary=B"
  body := bytes ("--B\r\nContent-Disposition: form-data; name=\"file\"\r\n\r\nRIFF\r\n" ++
    "--B\r\nContent-Disposition: form-data; name=\"model\"\r\n\r\nsmall\r\n" ++
    "--B\r\nContent-Disposition: form-data; name=\"") ++ bytes field ++ bytes "\"\r\n\r\n" ++ value ++
    bytes "\r\n--B--\r\n"

theorem plainWorld_dumps : Dumps plainWorld := by
  intro json
  show (plainDump json).isSome = utf8 json
  unfold plainDump
  cases utf8 json with
  | false => rfl
  | true =>
    rw [if_pos (by rfl)]
    split <;> rfl

theorem answered_once_iff_spanish :
    AnswersOnce fun send => handle (formWith "language" (bytes "es")) openConfig none
      (sending plainWorld send) :=
  (answered_once_iff (formWith "language" (bytes "es")) openConfig none plainWorld plainWorld_dumps
    (by decide +kernel) (by decide +kernel)).mpr (by decide +kernel)

-- No answer: the error quotes a format that is not UTF-8. Two answers: the
-- error for a temperature of 2 cannot be sent, and the transcript follows it.
theorem never_or_twice_answered :
    Dumps plainWorld ∧
    (¬ AnswersOnce fun send => handle (formWith "response_format" [0xFF]) openConfig none
      (sending plainWorld send)) ∧
    ¬ AnswersOnce fun send => handle (formWith "temperature" (bytes "2")) openConfig none
      (sending plainWorld send) := by
  refine ⟨plainWorld_dumps,?_,?_⟩
  · intro once
    have answered := (once.exactlyOnce (fun _ => true) fun _ => rfl).1
    revert answered
    decide +kernel
  · intro once
    have most := once.atMostOnce fun _ => false
    revert most
    decide +kernel

end JotaTranscriber.SingleAnswer

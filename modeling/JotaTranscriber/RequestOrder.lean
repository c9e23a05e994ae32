import JotaTranscriber.HandlerTriples

-- The order in which a request is served, on every path through handle().
namespace JotaTranscriber.RequestOrder
open HandleTranscribe HandlerTriples Effects

-- `validated` is the verdict on the bearer token once there is one, `asked` a call
-- of ModelCache::acquire, `model` and `slot` what the request holds, `answered` a
-- response that went out.
structure Progress where
  validated : Option Bool
  decoded : Bool
  gated : Bool
  asked : Bool
  model : Bool
  slot : Bool
  inferred : Bool
  answered : Bool
  deriving DecidableEq, Repr

def start : Progress := ⟨none,false,false,false,false,false,false,false⟩

variable (request : HttpRequest) (config : ServerConfig) (auth : Option AuthManager) (world : HttpWorld)

-- What AuthManager says to the request's token, where it is asked.
def verdict : Option (Text × Bool) :=
  match auth with
  | some manager =>
    if manager.isAuthEnabled then
      some (bearerToken request,(manager.validate (bearerToken request) world.exchange).2)
    else none
  | none => none

def misconfigured : Bool := auth.isNone && authConfigured config

def authorized (p : Progress) : Bool :=
  !misconfigured config auth && ((verdict request auth world).isNone || p.validated == some true)

def upload : Option (List UInt8) :=
  match MultipartParser.parse request.body (MultipartParser.extractBoundary request.contentType) with
  | .ok parts => field? parts "file"
  | .error _ => none

def decodes : Bool :=
  match (upload request).map world.decode with
  | some (.ok _) => true
  | _ => false

def gates : Bool := !config.vadModelPath.isEmpty

def loads : Bool :=
  match world.loadModel with
  | .ok _ => true
  | .error _ => false

def hears : Bool :=
  match world.whisper with
  | .decoded _ => true
  | .failed _ => false

-- How far a request has come when it is answered with a status. A transcription
-- is sent when nothing is held any more, and without a pass only where the gate
-- was asked for speech.
def sendable (p : Progress) : HttpStatus → Bool
  | .unauthorized => p.validated == some false
  | .badRequest | .payloadTooLarge => authorized request config auth world p && !p.gated && !p.asked
  | .internalServerError =>
    misconfigured config auth && !p.decoded || p.gated && !p.asked || p.asked && !loads world ||
      p.slot && (if p.inferred then !hears world else !world.initState)
  | .serviceUnavailable => p.model && !p.slot && !p.inferred && !world.slot
  | .ok => p.decoded && decodes request world && p.gated == gates config && !p.model && !p.slot &&
      (if p.asked then p.inferred && hears world else p.gated)

def permit (p : Progress) : HttpEffect → Option Progress
  | .validate token accepted =>
    if decide (verdict request auth world = some (token,accepted)) && p.validated.isNone &&
        !p.decoded && !p.answered then
      some { p with validated := some accepted }
    else none
  | .decode =>
    if authorized request config auth world p && !p.decoded && !p.answered then
      some { p with decoded := true }
    else none
  | .vad =>
    if p.decoded && decodes request world && gates config && !p.gated && !p.asked && !p.answered then
      some { p with gated := true }
    else none
  | .acquireModel =>
    if p.decoded && decodes request world && p.gated == gates config && !p.asked && !p.answered then
      some { p with asked := true, model := loads world }
    else none
  | .takeSlot =>
    if p.model && !p.slot && !p.inferred && world.slot && !p.answered then some { p with slot := true }
    else none
  | .infer =>
    if p.model && p.slot && !p.inferred && !p.answered then some { p with inferred := true } else none
  | .releaseSlot => if p.slot then some { p with slot := false } else none
  | .releaseModel => if p.model && !p.slot then some { p with model := false } else none
  | .send response =>
    if !p.answered && sendable request config auth world p response.status then
      some { p with answered := world.send response }
    else none

def Freed (p : Progress) : Prop := p.model = false ∧ p.slot = false

abbrev Spec (P : Progress → Prop) (handler : Handler α) (Q : α → Progress → Prop)
    (E : Stop → Progress → Prop) : Prop :=
  HandlerTriples.Spec (permit request config auth world) P handler Q E

variable {request config auth world} {P : Progress → Prop} {Q : α → Progress → Prop}
  {E : Stop → Progress → Prop}

theorem sends_ready {p : Progress} {response : HttpResponse}
    (ready : p.answered = false ∧ sendable request config auth world p response.status = true)
    (told : E .returned { p with answered := true }) (thrown : E .threw p) : ∃ next, permit request config auth world p (.send response) = some next ∧
      E (if world.send response then .returned else .threw) next := by
  obtain ⟨silent,allowed⟩ := ready
  refine ⟨{ p with answered := world.send response },by simp [permit,silent,allowed],?_⟩
  cases world.send response with
  | true => exact told
  | false =>
    rw [show { p with answered := false } = p by rw [← silent]]
    exact thrown

theorem answer_spec {response : HttpResponse}
    (ready : ∀ p, P p → p.answered = false ∧ sendable request config auth world p response.status = true)
    (told : ∀ p, P p → E .returned { p with answered := true }) (thrown : ∀ p, P p → E .threw p) :
    Spec request config auth world P (answer world response) Q E :=
  spec_answer fun p before => sends_ready (ready p before) (told p before) (thrown p before)

theorem makeJson_spec {status : HttpStatus} {body : Json}
    (ready : ∀ p, P p → p.answered = false ∧ sendable request config auth world p status = true)
    (told : ∀ p, P p → E .returned { p with answered := true }) (thrown : ∀ p, P p → E .threw p) :
    Spec request config auth world P (makeJson world status body) Q E :=
  spec_makeJson thrown fun _ _ p before => sends_ready (ready p before) (told p before) (thrown p before)

-- The usual case: an error is answered, and what was held still is.
theorem makeError_spec {p : Progress} {status : HttpStatus} {message type : Text} {F : Progress → Prop}
    (ready : p.answered = false ∧ sendable request config auth world p status = true) (thrown : F p)
    (told : F { p with answered := true }) :
    Spec request config auth world (· = p) (makeError world status message type) Q fun _ => F := by
  refine makeJson_spec ?_ ?_ ?_
  · rintro _ rfl; exact ready
  · rintro _ rfl; exact told
  · rintro _ rfl; exact thrown

theorem spec_step {p : Progress} {effect : HttpEffect} (next : Progress)
    (permitted : permit request config auth world p effect = some next) :
    Spec request config auth world (· = p) (perform effect) (fun _ q => q = next) E := by
  refine spec_perform ?_
  rintro _ rfl
  exact ⟨next,permitted,rfl⟩

theorem spec_return (p : Progress) (value : α) :
    Spec request config auth world (· = p) (pure value) (fun _ q => q = p) E := spec_pure value fun _ same => same

def admittedProgress (request : HttpRequest) (auth : Option AuthManager) (world : HttpWorld) : Progress :=
  { start with validated := (verdict request auth world).map Prod.snd }

theorem authorize_spec : Spec request config auth world (· = start)
    (authorize request config auth world)
    (fun _ p => p = admittedProgress request auth world ∧
      authorized request config auth world (admittedProgress request auth world) = true)
    fun _ => Freed := by
  unfold authorize
  cases auth with
  | none =>
    dsimp only
    split
    · rename_i configured
      exact makeError_spec ⟨rfl,by simp [sendable,misconfigured,configured,start]⟩ ⟨rfl,rfl⟩ ⟨rfl,rfl⟩
    · rename_i unconfigured
      refine spec_pure () ?_
      rintro _ rfl
      exact ⟨rfl,by simp [authorized,misconfigured,unconfigured,verdict]⟩
  | some manager =>
    dsimp only
    split
    · rename_i enabled
      let said := (manager.validate (bearerToken request) world.exchange).2
      have asked : verdict request (some manager) world = some (bearerToken request,said) := if_pos enabled
      have validates : permit request config (some manager) world start
          (.validate (bearerToken request) said) = some { start with validated := some said } := by
        simp [permit,asked,start]
      refine spec_bind (spec_step _ validates) fun _ => ?_
      split
      · rename_i accepted
        refine spec_pure () ?_
        rintro _ rfl
        rw [admittedProgress,asked]
        exact ⟨rfl,by simp [authorized,misconfigured,said,accepted]⟩
      · rename_i denied
        have refused : said = false := by simpa using denied
        exact makeError_spec ⟨rfl,by simp [sendable,refused]⟩ ⟨rfl,rfl⟩ ⟨rfl,rfl⟩
    · rename_i disabled
      have unasked : verdict request (some manager) world = none := if_neg disabled
      refine spec_pure () ?_
      rintro _ rfl
      rw [admittedProgress,unasked]
      exact ⟨rfl,by simp [authorized,misconfigured,unasked]⟩

-- A client error is found before anything has been asked of the gate or the
-- model.
theorem refuses {p : Progress} (silent : p.answered = false) (early : p.gated = false ∧ p.asked = false)
    (allowed : authorized request config auth world p = true) {status : HttpStatus}
    (refusal : status = .badRequest ∨ status = .payloadTooLarge) :
    p.answered = false ∧ sendable request config auth world p status = true := by
  rcases refusal with rfl | rfl
  all_goals exact ⟨silent,by simp [sendable,allowed,early]⟩

theorem readForm_spec (allowed : authorized request config auth world
      (admittedProgress request auth world) = true) :
    Spec request config auth world (· = admittedProgress request auth world)
      (readForm request config world)
      (fun form p => p = admittedProgress request auth world ∧ upload request = some form.2.1)
      fun _ => Freed := by
  have refused {status : HttpStatus} (refusal : status = .badRequest ∨ status = .payloadTooLarge) :=
    refuses (p := admittedProgress request auth world) rfl ⟨rfl,rfl⟩ allowed refusal
  refine spec_bind (Q := fun parts p => p = admittedProgress request auth world ∧
    upload request = field? parts "file") ?_ fun parts => spec_given fun found => ?_
  · unfold parseForm
    dsimp only
    split
    · exact makeError_spec (refused (.inl rfl)) ⟨rfl,rfl⟩ ⟨rfl,rfl⟩
    · split
      · exact makeError_spec (refused (.inl rfl)) ⟨rfl,rfl⟩ ⟨rfl,rfl⟩
      · rename_i parsed
        refine spec_pure _ ?_
        rintro _ rfl
        exact ⟨rfl,by simp only [upload,parsed]⟩
  · split
    · exact makeError_spec (refused (.inl rfl)) ⟨rfl,rfl⟩ ⟨rfl,rfl⟩
    · rename_i file present
      split
      · exact makeError_spec (refused (.inl rfl)) ⟨rfl,rfl⟩ ⟨rfl,rfl⟩
      · split
        · exact makeError_spec (refused (.inr rfl)) ⟨rfl,rfl⟩ ⟨rfl,rfl⟩
        · dsimp only
          split
          · exact makeError_spec (refused (.inl rfl)) ⟨rfl,rfl⟩ ⟨rfl,rfl⟩
          · refine spec_pure _ ?_
            rintro _ rfl
            exact ⟨rfl,found.trans present⟩

def decodedProgress (request : HttpRequest) (auth : Option AuthManager) (world : HttpWorld) : Progress :=
  { admittedProgress request auth world with decoded := true }

theorem decodeAudio_spec (allowed : authorized request config auth world
      (admittedProgress request auth world) = true) (file : List UInt8) (found : upload request = some file) :
    Spec request config auth world (· = admittedProgress request auth world)
      (decodeAudio config world file)
      (fun _ p => p = decodedProgress request auth world ∧ decodes request world = true)
      fun _ => Freed := by
  have refused {status : HttpStatus} (refusal : status = .badRequest ∨ status = .payloadTooLarge) :=
    refuses (p := decodedProgress request auth world) rfl ⟨rfl,rfl⟩ allowed refusal
  have permitted : permit request config auth world (admittedProgress request auth world) .decode =
      some (decodedProgress request auth world) := by
    simp only [permit,allowed]
    rfl
  refine spec_bind (spec_step _ permitted) fun _ => ?_
  split
  · exact makeError_spec (refused (.inl rfl)) ⟨rfl,rfl⟩ ⟨rfl,rfl⟩
  · rename_i decoded
    split
    · exact makeError_spec (refused (.inr rfl)) ⟨rfl,rfl⟩ ⟨rfl,rfl⟩
    · refine spec_pure _ ?_
      rintro _ rfl
      exact ⟨rfl,by simp [decodes,found,decoded]⟩

-- A range error that could not be sent is forgotten, and the request goes on.
theorem readTemperature_spec (allowed : authorized request config auth world
      (admittedProgress request auth world) = true) (parts : MultipartParser.Parts) :
    Spec request config auth world (· = decodedProgress request auth world) (readTemperature parts world)
      (fun _ p => p = decodedProgress request auth world) fun _ => Freed := by
  unfold readTemperature
  split
  · exact spec_return _ none
  · refine spec_catchAll (fun stop p => (stop = .threw → p = decodedProgress request auth world) ∧ Freed p)
      ?_ (fun _ ended => ended.1 rfl) (fun _ ended => ended.2)
    split
    · refine Triple.raise ?_
      rintro _ rfl
      exact ⟨fun _ => rfl,rfl,rfl⟩
    · split
      · refine makeJson_spec ?_ ?_ ?_
        · rintro _ rfl; exact refuses rfl ⟨rfl,rfl⟩ allowed (.inl rfl)
        · rintro _ rfl; exact ⟨nofun,rfl,rfl⟩
        · rintro _ rfl; exact ⟨fun _ => rfl,rfl,rfl⟩
      · exact spec_return _ _

def gatedProgress (request : HttpRequest) (config : ServerConfig) (auth : Option AuthManager)
    (world : HttpWorld) : Progress :=
  { decodedProgress request auth world with gated := gates config }

theorem gateAudio_spec (decoded : decodes request world = true) (pcm : List Sample) :
    Spec request config auth world (· = decodedProgress request auth world) (gateAudio config world pcm)
      (fun outcome p => p = gatedProgress request config auth world ∧
        (outcome.2 = false → gates config = true)) fun _ => Freed := by
  unfold gateAudio gatedProgress
  split
  · rename_i ungated
    refine spec_pure _ ?_
    rintro _ rfl
    exact ⟨by simp [gates,ungated,decodedProgress,admittedProgress,start],nofun⟩
  · rename_i present
    have gated : gates config = true := by simpa [gates] using present
    have permitted : permit request config auth world (decodedProgress request auth world) .vad =
        some { decodedProgress request auth world with gated := true } := by
      simp [permit,decoded,gated,decodedProgress,admittedProgress,start]
    rw [gated]
    refine spec_bind (spec_step _ permitted) fun _ => ?_
    split
    · exact makeError_spec ⟨rfl,by simp [sendable,decodedProgress,admittedProgress,start]⟩ ⟨rfl,rfl⟩ ⟨rfl,rfl⟩
    · refine spec_pure _ ?_
      rintro _ rfl
      exact ⟨rfl,fun _ => rfl⟩

-- What may be answered 200 from: the audio has been decoded, and a model that
-- was asked for has been used and given back.
def Settled (request : HttpRequest) (config : ServerConfig) (auth : Option AuthManager) (world : HttpWorld)
    (p : Progress) : Prop :=
  p.answered = false ∧ sendable request config auth world p .ok = true

def askedProgress (request : HttpRequest) (config : ServerConfig) (auth : Option AuthManager)
    (world : HttpWorld) (model : Bool) : Progress :=
  { gatedProgress request config auth world with asked := true, model }

theorem transcribe_spec (decoded : decodes request world = true)
    (format : HandleTranscribe.ResponseFormat) (gate : Option VadGate) :
    Spec request config auth world (· = gatedProgress request config auth world)
      (transcribe world format gate) (fun _ => Settled request config auth world) fun _ => Freed := by
  let asked := askedProgress request config auth world
  have asks : permit request config auth world (gatedProgress request config auth world) .acquireModel =
      some (asked (loads world)) := by
    simp [permit,decoded,asked,gatedProgress,decodedProgress,admittedProgress,start,askedProgress]
  refine spec_bind (spec_step _ asks) fun _ => ?_
  cases loaded : world.loadModel with
  | error what =>
    have failed : loads world = false := by simp [loads,loaded]
    rw [failed]
    exact makeError_spec ⟨rfl,by simp [sendable,failed,asked,askedProgress]⟩ ⟨rfl,rfl⟩ ⟨rfl,rfl⟩
  | ok _ =>
    rw [show loads world = true by simp [loads,loaded]]
    let slotted : Progress := { asked true with slot := true }
    refine spec_guarding (fun _ p => p = { asked true with inferred := true } ∧ hears world = true)
      (fun _ p => p.model = true ∧ p.slot = false) ?_ ?_ ?_
    · split
      · rename_i full
        have unfree : world.slot = false := by simpa using full
        exact makeError_spec ⟨rfl,by simp [sendable,unfree,asked,askedProgress,gatedProgress,decodedProgress,
          admittedProgress,start]⟩ ⟨rfl,rfl⟩ ⟨rfl,rfl⟩
      · rename_i free
        have room : world.slot = true := by simpa using free
        have takes : permit request config auth world (asked true) .takeSlot = some slotted := by
          simp [permit,room,slotted,asked,askedProgress,gatedProgress,decodedProgress,admittedProgress,start]
        refine spec_bind (spec_step slotted takes) fun _ => ?_
        refine spec_guarding (fun _ p => p = { slotted with inferred := true } ∧ hears world = true)
          (fun _ p => p.model = true ∧ p.slot = true) ?_ ?_ ?_
        · split
          · rename_i stateless
            have unmade : world.initState = false := by simpa using stateless
            exact makeError_spec ⟨rfl,by simp [sendable,unmade,slotted,asked,askedProgress,gatedProgress,
              decodedProgress,admittedProgress,start]⟩ ⟨rfl,rfl⟩ ⟨rfl,rfl⟩
          · refine spec_bind (spec_step { slotted with inferred := true } rfl) fun _ => ?_
            split
            · rename_i failed
              have unheard : hears world = false := by simp [hears,failed]
              exact makeError_spec ⟨rfl,by simp [sendable,unheard,slotted]⟩ ⟨rfl,rfl⟩ ⟨rfl,rfl⟩
            · rename_i heard
              refine spec_pure _ ?_
              rintro _ rfl
              exact ⟨rfl,by simp [hears,heard]⟩
        · rintro _ _ ⟨rfl,heard⟩
          exact ⟨{ asked true with inferred := true },rfl,rfl,heard⟩
        · rintro _ p ⟨model,slot⟩
          exact ⟨{ p with slot := false },by simp [permit,slot],model,rfl⟩
    · rintro _ _ ⟨rfl,heard⟩
      refine ⟨{ asked false with inferred := true },rfl,rfl,?_⟩
      simp [sendable,decoded,heard,asked,askedProgress,gatedProgress,decodedProgress,admittedProgress,start]
    · rintro _ p ⟨model,slot⟩
      exact ⟨{ p with model := false },by simp [permit,model,slot],rfl,slot⟩

theorem settled_freed (p : Progress) (settled : Settled request config auth world p) : Freed p := by
  obtain ⟨_,ready⟩ := settled
  simp only [sendable,Bool.and_eq_true,Bool.not_eq_true'] at ready
  exact ⟨ready.1.1.2,ready.1.2⟩

theorem respond_spec (parts : MultipartParser.Parts) (format : HandleTranscribe.ResponseFormat)
    (text : Text) (segments : List TimedSegment) :
    Spec request config auth world (Settled request config auth world)
      (respond parts world format text segments) (fun _ => Freed) fun _ => Freed := by
  unfold respond
  cases format with
  | text => exact answer_spec (fun _ settled => settled) settled_freed settled_freed
  | json => exact makeJson_spec (fun _ settled => settled) settled_freed settled_freed
  | verboseJson => exact makeJson_spec (fun _ settled => settled) settled_freed settled_freed

theorem handle_spec (request : HttpRequest) (auth : Option AuthManager) :
    Spec request config auth world (· = start) (handle request config auth world) (fun _ => Freed)
      fun _ => Freed := by
  refine spec_bind authorize_spec fun _ => spec_given fun allowed => ?_
  refine spec_bind (readForm_spec allowed) fun form => spec_given fun found => ?_
  refine spec_bind (decodeAudio_spec allowed form.2.1 found) fun pcm => spec_given fun decoded => ?_
  refine spec_bind (readTemperature_spec allowed form.1) fun _ => ?_
  refine spec_bind (gateAudio_spec decoded pcm) fun gated => spec_given fun unheard => ?_
  obtain ⟨gate,hadSpeech⟩ := gated
  dsimp only
  split
  · exact spec_bind (transcribe_spec decoded form.2.2 gate) fun spoken => respond_spec form.1 form.2.2 _ _
  · rename_i silent
    have gated : gates config = true := unheard (by simpa using silent)
    refine spec_bind (Q := fun _ => Settled request config auth world) (spec_pure _ ?_) fun spoken =>
      respond_spec form.1 form.2.2 _ _
    rintro _ rfl
    exact ⟨rfl,by simp [sendable,decoded,gated,gatedProgress,decodedProgress,admittedProgress,start]⟩

-- However a request ends, what it did was permitted in its place, and nothing
-- is left held.
theorem request_in_order (request : HttpRequest) (config : ServerConfig) (auth : Option AuthManager)
    (world : HttpWorld) : ∃ done,
    follow (permit request config auth world) start (handle request config auth world).effects = some done ∧
      done.model = false ∧ done.slot = false := by
  obtain ⟨done,ran,ended⟩ := (handle_spec request auth : Spec request config auth world _ _ _ _) start rfl
  refine ⟨done,ran,?_⟩
  revert ended
  cases (handle request config auth world).result <;> exact id

end JotaTranscriber.RequestOrder

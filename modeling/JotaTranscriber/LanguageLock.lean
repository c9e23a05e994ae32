import JotaTranscriber.SessionRuns

-- The language whisper is asked to decode, over the configs and the passes of a
-- session.
namespace JotaTranscriber.LanguageLock
open SessionMachine StreamingSession StreamingWhisperEngine

def auto : Text := bytes "auto"

-- The engine that a step runs a pass on.
def passes (params : SessionParams) (s : State) : Action → Option (StreamingWhisperEngine × Outcome)
  | .cycle slot outcome =>
    if slot && FlushLoop.reaches params s.session s.clock && !s.session.capacityDegraded then
      s.session.engine.map fun owned => (owned.engine,outcome)
    else none
  | .relock outcome =>
    match s.flusher with
    | .relocking (.infer ..) => s.session.engine.map fun owned => (owned.engine,outcome)
    | _ => none
  | .finalPass slot outcome =>
    if slot then s.session.engine.map fun owned => (owned.engine,outcome) else none
  | _ => none

-- The gate leaves something for whisper.
def speaks (engine : StreamingWhisperEngine) (outcome : Outcome) : Bool :=
  match engine.vadGate with
  | none => true
  | some gate =>
    match (gate.gate engine.audioBuffer outcome.vad).2 with
    | .ok gated => gated.hadSpeech
    | .error _ => false

-- The language whisper names after a successful run.
def detects (engine : StreamingWhisperEngine) (outcome : Outcome) : Option Text :=
  match outcome.whisper with
  | .failed _ => none
  | .decoded _ detected =>
    if !engine.audioBuffer.isEmpty && speaks engine outcome then detected.filter (· != auto) else none

def passesToken (params : SessionParams) (message : Json) (view : AuthView) : Bool :=
  if params.authManager.isAuthEnabled then
    match message.field? "token" with
    | some (.string token) =>
      ({ params.authManager with cache := view.cache }.validate token view.exchange).2
    | _ => false
  else true

-- The language that a config frame names, if it passes the token check.
def names (params : SessionParams) (payload : Text) (view : AuthView) : Option Text :=
  match params.parseJson payload with
  | .error _ => none
  | .ok message =>
    match message.field? "type" with
    | some (.string type) =>
      if type = bytes "config" && passesToken params message view then namedLanguage message else none
    | _ => none

-- What is said about the language: by a config frame, by the config that takes
-- effect, and by a pass.
inductive Mention where
  | named (language : Text)
  | installed
  | detected (language : Text)
  deriving DecidableEq, Repr

def Mention.named? : Mention → Option Text
  | .named text => some text
  | _ => none

def Mention.detected? : Mention → Option Text
  | .detected text => some text
  | _ => none

def overheard (params : SessionParams) (s : State) (action : Action) : Option Text :=
  (passes params s action).bind fun pass => detects pass.1 pass.2

def mention (params : SessionParams) (s : State) : Action → Option Mention
  | .text payload view => (names params payload view).map .named
  | .install => some .installed
  | action => (overheard params s action).map .detected

def mentions (params : SessionParams) (trace : List (State × Action)) : List Mention :=
  trace.filterMap fun entry => mention params entry.1 entry.2

-- The language in force behind what has been said: the last one that a config
-- frame named, and before any did the one that every session starts with.
def asked (said : List Mention) : Text := (said.filterMap Mention.named?).getLast?.getD (bytes "es")

def found (said : List Mention) : List Text := said.filterMap Mention.detected?

-- The language after a config that asked for `language` and the detections since.
def locked (language : Text) (found : List Text) : Text :=
  if language = auto then found.head?.getD auto else language

theorem locked_nil (language : Text) : locked language [] = language := by
  by_cases automatic : language = auto
  · rw [locked,if_pos automatic]
    exact automatic.symm
  · exact if_neg automatic

theorem lockLanguage_filter (language : Text) (detected : Option Text) :
    lockLanguage language (detected.filter (· != auto)) = lockLanguage language detected := by
  cases detected with
  | none => rfl
  | some text =>
    by_cases same : text = auto
    · have dropped : (some text).filter (· != auto) = none := by simp [same]
      rw [dropped,same]
      exact (ite_congr rfl (fun _ => (if_pos rfl).symm) fun _ => rfl)
    · have kept : (some text).filter (· != auto) = some text := by simp [same]
      rw [kept]

-- A pass after other passes: what is locked in is not "auto" and stays.
theorem locked_append (language : Text) {found : List Text} {detected : Option Text}
    (old : ∀ text ∈ found, text ≠ auto) (new : ∀ text ∈ detected, text ≠ auto) :
    lockLanguage (locked language found) detected = locked language (found ++ detected.toList) := by
  by_cases automatic : language = auto
  · rw [locked,locked,if_pos automatic,if_pos automatic]
    cases found with
    | nil =>
      cases detected with
      | none => rfl
      | some text => exact (if_pos rfl).trans (if_neg (new text rfl))
    | cons first rest => exact if_neg (old first List.mem_cons_self)
  · rw [locked,locked,if_neg automatic,if_neg automatic]
    exact if_neg automatic

theorem detects_named {engine : StreamingWhisperEngine} {outcome : Outcome} {text : Text}
    (present : detects engine outcome = some text) : text ≠ auto := by
  unfold detects at present
  split at present
  · cases present
  · split at present
    · simpa using (Option.filter_eq_some_iff.mp present).2
    · cases present

@[simp] theorem lockLanguage_none (language : Text) : lockLanguage language none = language := by
  simp [lockLanguage]

theorem transcribe_language (engine : StreamingWhisperEngine) (force : Bool) (outcome : Outcome) :
    (engine.transcribeSlidingWindow force outcome).1.language =
      lockLanguage engine.language (detects engine outcome) := by
  unfold transcribeSlidingWindow detects speaks
  cases empty : engine.audioBuffer.isEmpty with
  | true => cases outcome.whisper <;> simp
  | false =>
    simp only [infer,Bool.false_eq_true,if_false,Bool.not_false,Bool.true_and]
    cases gated : engine.vadGate with
    | none =>
      cases outcome.whisper with
      | failed code => simp
      | decoded segments detected => simp [lockLanguage_filter]
    | some gate =>
      rcases ran : gate.gate engine.audioBuffer outcome.vad with ⟨after,answer⟩
      cases answer with
      | error error => cases outcome.whisper <;> simp [ran]
      | ok found =>
        cases speech : found.hadSpeech with
        | false => cases outcome.whisper <;> simp [ran,speech]
        | true =>
          cases outcome.whisper with
          | failed code => simp [ran,speech]
          | decoded segments detected => simp [ran,speech,lockLanguage_filter]

def language (session : StreamingSession) : Option Text :=
  session.engine.map fun owned => owned.engine.language

def heard (session : StreamingSession) (outcome : Outcome) : Option Text :=
  session.engine.bind fun owned => detects owned.engine outcome

theorem unheard_language (session : Option Text) : session.map (lockLanguage · none) = session := by
  simp

theorem inferPass_language (session : StreamingSession) (cycleEngine currentSize : Nat) (outcome : Outcome) :
    language (FlushLoop.inferPass session cycleEngine currentSize outcome).session =
      (language session).map (lockLanguage · (heard session outcome)) := by
  rcases FlushLoop.inferPass_cases session cycleEngine currentSize outcome with
    ⟨missing,faults⟩ | ⟨owned,used,present,answer⟩
  · rw [faults]
    simp [language,missing]
  · have after : (language session).map (lockLanguage · (heard session outcome)) =
        some (owned.engine.transcribeSlidingWindow false outcome).1.language := by
      simp [language,heard,present,transcribe_language]
    rw [after]
    rcases answer with ⟨error,ran,fails⟩ | ⟨result,ran,passed⟩
    · rw [fails,ran]
      rfl
    · rw [passed,ran]
      rcases FlushLoop.afterPass_cases { session with engine := some ⟨owned.id,used⟩ } ⟨owned.id,used⟩
          cycleEngine currentSize result with ⟨_,_,_,_,opened,_⟩ | ⟨_,_,_,direct⟩
      · rw [opened]
        rfl
      · rw [direct]
        rfl

theorem cycle_language (params : SessionParams) (s : State) (slot : Bool) (outcome : Outcome) :
    language (FlushLoop.cycle params s.session s.clock slot outcome).session =
      (language s.session).map
        (lockLanguage · (overheard params s (.cycle slot outcome))) := by
  have watched : (FlushLoop.watchdog params s.session s.clock).engine = s.session.engine :=
    FlushLoop.watchdog_engine _ _ _
  have same : language (FlushLoop.watchdog params s.session s.clock) = language s.session := by
    rw [language,watched]
    rfl
  rcases FlushLoop.cycle_cases params s.session s.clock slot outcome with
    ⟨quiet,idle⟩ | ⟨found,present,ready,due,kind⟩
  · have unheard : passes params s (.cycle slot outcome) = none := by
      refine if_neg ?_
      intro runs
      simp only [Bool.and_eq_true] at runs
      obtain ⟨⟨granted,asked⟩,_⟩ := runs
      unfold FlushLoop.reaches at asked
      split at asked
      · cases asked
      · rename_i found present
        obtain ⟨ready,due⟩ := Bool.and_eq_true_iff.mp asked
        rw [idle found (watched.trans present) (by simpa using ready) (by simpa using due)] at granted
        cases granted
    rw [quiet,overheard,unheard]
    exact same.trans (unheard_language _).symm
  · rw [watched] at present
    rw [FlushLoop.watchdog_configured] at ready
    rw [FlushLoop.triggered_watchdog] at due
    rw [FlushLoop.watchdog_capacityDegraded] at kind
    have reached : FlushLoop.reaches params s.session s.clock = true := by
      simp [FlushLoop.reaches,present,ready,due]
    rcases kind with ⟨rfl,_,busy⟩ | ⟨rfl,degraded,free⟩ | ⟨rfl,steady,direct⟩
    · rw [busy]
      exact same.trans (unheard_language _).symm
    · have unheard : passes params s (.cycle true outcome) = none := by simp [passes,degraded]
      rw [free,overheard,unheard]
      exact same.trans (unheard_language _).symm
    · have runs : passes params s (.cycle true outcome) = some (found.engine,outcome) := by
        simp [passes,reached,steady,present]
      rw [direct,inferPass_language,same,overheard,runs]
      simp [heard,present]

theorem relock_language (params : SessionParams) (s : State) (pc : s.flusher = .relocking continuation)
    (outcome : Outcome) :
    language (FlushLoop.relock s.session outcome continuation).session =
      (language s.session).map
        (lockLanguage · (overheard params s (.relock outcome))) := by
  cases continuation with
  | infer cycleEngine currentSize =>
    refine (inferPass_language s.session cycleEngine currentSize outcome).trans ?_
    cases present : s.session.engine <;> simp [overheard,passes,pc,heard,language,present]
  | skip | finish | resume | clear =>
    have unheard : passes params s (.relock outcome) = none := by simp [passes,pc]
    rw [overheard,unheard]
    exact (unheard_language _).symm

theorem handleEnd_language (params : SessionParams) (s : State) (slot : Bool) (outcome : Outcome) :
    language (s.session.handleEnd slot outcome).session =
      (language s.session).map
        (lockLanguage · (overheard params s (.finalPass slot outcome))) := by
  unfold StreamingSession.handleEnd
  cases present : s.session.engine with
  | none => simp [language,present,StreamingSession.finish]
  | some owned =>
    cases slot with
    | false => simp [language,present,overheard,passes,StreamingSession.finish]
    | true =>
      have after := transcribe_language owned.engine true outcome
      rcases ran : owned.engine.transcribeSlidingWindow true outcome with ⟨used,answer⟩
      rw [ran] at after
      cases answer <;> simpa [language,present,overheard,passes,ran,StreamingSession.finish] using after

theorem processAudioChunk_language (engine : StreamingWhisperEngine) (audio : List Sample) :
    (engine.processAudioChunk audio).2.language = engine.language := by
  unfold StreamingWhisperEngine.processAudioChunk
  split <;> rfl

theorem binary_language (ran : handleBinaryMessage params session now data = (after,next)) :
    language after = language session ∧ after.language = session.language := by
  obtain ⟨received,start,_,⟨rfl,_⟩ | ⟨_,audio,messages,taken,_⟩⟩ := handleBinaryMessage_cases ran
  · exact ⟨rfl,rfl⟩
  · have same : after = _ := (congrArg Prod.fst taken).symm
    rcases StreamingSession.processAudioChunk_cases _ now audio with
      ⟨_,unchanged⟩ | ⟨owned,present,_,⟨_,dropped⟩ | ⟨_,appended⟩⟩
    · rw [same,unchanged]
      exact ⟨rfl,rfl⟩
    · rw [same,dropped]
      exact ⟨rfl,rfl⟩
    · rw [same,appended]
      have before : session.engine = some owned := present
      exact ⟨by simp [language,before,processAudioChunk_language],rfl⟩

theorem language_step (move : Move params s action next) (other : action ≠ .install) :
    language next.session = none ∨ language next.session =
      (language s.session).map
        (lockLanguage · (overheard params s action)) := by
  have keeps {session : StreamingSession} (same : language session = language s.session) :
      language session = (language s.session).map (lockLanguage · none) :=
    same.trans (unheard_language _).symm
  cases move with
  | install => exact absurd rfl other
  | cycle pc ran =>
    have done := cycle_language params s ‹Bool› ‹Outcome›
    rw [ran] at done
    exact .inr done
  | relock pc ran =>
    have done := relock_language params s pc ‹Outcome›
    rw [ran] at done
    exact .inr done
  | finalPass pc ran =>
    have done := handleEnd_language params s ‹Bool› ‹Outcome›
    rw [ran] at done
    exact .inr done
  | text pc live ran =>
    refine .inr (keeps ?_)
    rcases handleJsonMessage_cases ran with ⟨rfl,_⟩ | ⟨_,rfl,_⟩ | ⟨rfl,_⟩ | ⟨rfl,_⟩
    all_goals rfl
  | binary pc live ran => exact .inr (keeps (binary_language ran).1)
  | release pc ran | destroyRelease pc ran =>
    rcases releaseModel_cases ran with ⟨_,_,rfl⟩ | ⟨_,_,rfl⟩
    · exact .inl rfl
    · exact .inr (keeps rfl)
  | tick | accept | acceptFails | readFails | send | close | acquire | acquireFails | installFails | join
  | destroy | destroyJoin | wake | exit | tryLockFails | flushSend => exact .inr (keeps rfl)

theorem handleConfig_language (ran : handleConfig params session message view = (after,next)) :
    after.language =
      if passesToken params message view then (namedLanguage message).getD session.language
      else session.language := by
  unfold handleConfig at ran
  unfold passesToken
  dsimp only at ran
  split at ran
  · rename_i enabled
    rw [if_pos enabled]
    cases carried : message.field? "token" with
    | none =>
      simp only [carried] at ran ⊢
      cases ran
      rfl
    | some value =>
      cases value with
      | string token =>
        simp only [carried] at ran ⊢
        split at ran
        · rename_i valid
          rw [if_pos valid]
          exact accepted_language params session message _ ran
        · rename_i invalid
          cases ran
          exact (if_neg invalid).symm
      | _ =>
        simp only [carried] at ran ⊢
        cases ran
        rfl
  · rename_i disabled
    rw [if_neg disabled]
    exact accepted_language params session message _ ran

theorem handleJsonMessage_language
    (ran : handleJsonMessage params session payload view = (after,next)) :
    after.language = (names params payload view).getD session.language := by
  unfold handleJsonMessage at ran
  unfold names
  split at ran
  · rename_i failed
    cases ran
    rw [failed]
    rfl
  · rename_i failed
    cases ran
    rw [failed]
    rfl
  · rename_i message parsed
    rw [parsed]
    dsimp only
    split at ran
    · rename_i untyped
      cases ran
      rw [untyped]
      rfl
    · rename_i type typed
      rw [typed]
      dsimp only
      split at ran
      · rename_i config
        rw [handleConfig_language ran]
        cases passesToken params message view with
        | false => simp
        | true => simp [config]
      · rename_i other
        have unnamed : (decide (type = bytes "config") && passesToken params message view) = false := by
          simp [other]
        rw [unnamed]
        split at ran
        · cases ran; rfl
        · split at ran <;> cases ran <;> rfl
    · rename_i other mistyped typed
      cases ran
      rw [typed]
      cases other with
      | string text => exact absurd rfl (mistyped text)
      | _ => rfl

-- What has been said about the engine there is: the config that built it asked for
-- one language, and its passes have named others.
def Said (said : List Mention) (text : Text) : Prop :=
  ∃ earlier later, said = earlier ++ .installed :: later ∧ .installed ∉ later ∧
    (∀ other ∈ found later, other ≠ auto) ∧ text = locked (asked earlier) (found later)

theorem found_append (said more : List Mention) : found (said ++ more) = found said ++ found more :=
  List.filterMap_append

theorem Said.append (already : Said said text) {heard : Option Mention} (other : heard ≠ some .installed)
    (named : ∀ language ∈ heard.bind Mention.detected?, language ≠ auto) :
    Said (said ++ heard.toList) (lockLanguage text (heard.bind Mention.detected?)) := by
  obtain ⟨earlier,later,rfl,last,old,rfl⟩ := already
  have grown : found (later ++ heard.toList) = found later ++ (heard.bind Mention.detected?).toList := by
    rw [found_append]
    cases heard with
    | none => rfl
    | some mention => cases mention <;> rfl
  refine ⟨earlier,later ++ heard.toList,by simp,?_,?_,?_⟩
  · intro present
    rcases List.mem_append.mp present with before | now
    · exact last before
    · exact other (Option.mem_toList.mp now)
  · rw [grown]
    intro language present
    rcases List.mem_append.mp present with before | now
    · exact old language before
    · exact named language (Option.mem_toList.mp now)
  · rw [grown]
    exact locked_append (asked earlier) old named

theorem mentions_concat (params : SessionParams) (past : List (State × Action)) (s : State) (action : Action) :
    mentions params (past ++ [(s,action)]) = mentions params past ++ (mention params s action).toList := by
  rw [mentions,List.filterMap_append]
  cases named : mention params s action <;> simp [mentions,named]

theorem asked_append (said : List Mention) (heard : Option Mention) :
    asked (said ++ heard.toList) = (heard.bind Mention.named?).getD (asked said) := by
  unfold asked
  rw [List.filterMap_append]
  cases heard with
  | none => simp
  | some mention => cases mention <;> simp [Mention.named?]

-- The session keeps the language for the next engine.
theorem asked_preserved (already : s.session.language = asked (mentions params past))
    (move : Move params s action next) :
    next.session.language = asked (mentions params (past ++ [(s,action)])) := by
  rw [mentions_concat,asked_append,← already]
  cases receiving : receives action with
  | false =>
    have unnamed : (mention params s action).bind Mention.named? = none := by
      cases action with
      | text | install => cases receiving
      | _ =>
        simp only [mention,Option.bind_map]
        exact Option.bind_eq_none_iff.mpr fun _ _ => rfl
    rw [unnamed]
    exact (received_step params move receiving).language
  | true =>
    cases move with
    | text pc live ran =>
      rw [handleJsonMessage_language ran,mention,Option.bind_map]
      exact congrArg (Option.getD · s.session.language) (Option.bind_fun_some _).symm
    | binary pc live ran =>
      have unnamed : (mention params s (.binary ‹List UInt8›)).bind Mention.named? = none := by
        simp only [mention,Option.bind_map]
        exact Option.bind_eq_none_iff.mpr fun _ _ => rfl
      rw [unnamed]
      exact (binary_language ran).2
    | install => rfl
    | _ => cases receiving

structure Spoken (params : SessionParams) (past : List (State × Action)) (s : State) : Prop where
  session : s.session.language = asked (mentions params past)
  engine : ∀ text, language s.session = some text → Said (mentions params past) text

theorem spoken_preserved (before : Spoken params past s) (move : Move params s action next) :
    Spoken params (past ++ [(s,action)]) next := by
  refine ⟨asked_preserved before.session move,fun text present => ?_⟩
  rw [mentions_concat]
  by_cases installs : action = .install
  · subst installs
    cases move
    cases present
    refine ⟨mentions params past,[],rfl,List.not_mem_nil,List.forall_mem_nil _,?_⟩
    exact before.session.trans (locked_nil _).symm
  · have told : (mention params s action).bind Mention.detected? = overheard params s action := by
      cases action with
      | install => exact absurd rfl installs
      | text payload view =>
        simp only [mention,Option.bind_map]
        exact Option.bind_eq_none_iff.mpr fun _ _ => rfl
      | _ =>
        simp only [mention,Option.bind_map]
        exact Option.bind_fun_some _
    have other : mention params s action ≠ some .installed := by
      cases action with
      | install => exact absurd rfl installs
      | _ => simp [mention]
    rcases language_step move installs with gone | same
    · rw [gone] at present
      cases present
    · rw [present] at same
      obtain ⟨before_step,owned,rfl⟩ := Option.map_eq_some_iff.mp same.symm
      rw [← told]
      refine (before.engine before_step owned).append other ?_
      rw [told]
      intro language named
      obtain ⟨pass,_,heard⟩ := Option.bind_eq_some_iff.mp named
      exact detects_named heard

-- Whisper decodes the language that the last installed config asked for, or under
-- "auto" the first one that a pass since then has named; later passes change
-- nothing.
theorem language_locked (path : Runs params (initial now) trace s) (owns : s.session.engine = some owned) :
    ∃ earlier later, mentions params trace = earlier ++ .installed :: later ∧ .installed ∉ later ∧
      (∀ other ∈ found later, other ≠ auto) ∧
      owned.engine.language =
        if asked earlier = auto then (found later).head?.getD auto else asked earlier := by
  have spoken := path.history (I := fun past s => Spoken params past s) (C := fun _ _ => True)
    (fun _ _ => trivial) ⟨rfl,nofun⟩ (fun _ before _ one => spoken_preserved before one.2)
  exact spoken.engine _ (by simp [language,owns])

-- A client that leaves the language open, and a pass that takes it for English.
def autoPayload : Text := bytes "\x7b\"type\":\"config\",\"language\":\"auto\"\x7d"

def autoMessage : Json := .object [("type",.string (bytes "config")),("language",.string auto)]

def autoParams : SessionParams :=
  { defaultParams with parseJson := fun payload =>
      if payload = autoPayload then .ok autoMessage else defaultParams.parseJson payload }

def heardEnglish : Outcome :=
  ⟨⟨true,some []⟩,.decoded [⟨some (bytes "hello"),10⟩] (some (bytes "en"))⟩

def autoSchedule : List Action := [.accept,.text autoPayload emptyView,.acquire 0,.install,.send]

def autoState : State :=
  { configuredState with
    session := { configuredState.session with
      language := auto, engine := some ⟨0,makeEngine autoParams { create 0 with language := auto }⟩ }
    log := [.acquired 0,.configured 0,.sent (readyMessage autoParams { create 0 with language := auto })] }

theorem split_single {named heard : Text}
    (same : [.named named,.installed,.detected heard] = earlier ++ Mention.installed :: later) :
    earlier = [.named named] ∧ later = [.detected heard] := by
  rcases earlier with _ | ⟨first,_ | ⟨second,_ | ⟨third,rest⟩⟩⟩ <;> simp_all

theorem language_locked_auto : ∃ trace s owned, Runs autoParams (initial 0) trace s ∧
    trace.map Prod.snd = autoSchedule ++ [.binary (frame 32000),.wake,.cycle true heardEnglish] ∧
    s.session.engine = some owned ∧ owned.engine.language = bytes "en" := by
  obtain ⟨same,path,_⟩ := runGuarded_visited autoParams
    (show runGuarded autoParams (fun _ _ => true) (initial 0) autoSchedule = some autoState from rfl)
  obtain ⟨longer,taken,ungated,size⟩ := frame_taken autoParams autoState
    32000 rfl rfl rfl rfl (by decide) (by decide) (by decide) (by decide)
  let awake : State := { autoState with
    flusher := .awake
    session := { autoState.session with
      bytesReceivedInWindow := 128000, lastAudioTime := 0, engine := some ⟨0,longer⟩ } }
  have long : longer.getBufferSize = 32000 := size.trans (by decide)
  rcases ran : FlushLoop.cycle autoParams awake.session awake.clock true heardEnglish with
    ⟨after,flusher,events⟩
  have cycled : Move autoParams awake (.cycle true heardEnglish) _ := .cycle rfl ran
  have framed := (FlushLoop.cycle_regular ran).frame.engine
  obtain ⟨owned,present,_⟩ := Option.map_eq_some_iff.mp (framed.trans (by rfl : _ = some 0))
  have opened := path.step ⟨rfl,taken⟩
  have waking := opened.step ⟨rfl,(.wake rfl rfl : Move autoParams _ .wake awake)⟩
  have whole := waking.step ⟨rfl,cycled⟩
  refine ⟨_,_,owned,whole,by simp [same],present,?_⟩
  have due : FlushLoop.reaches autoParams awake.session awake.clock = true := by
    change (true && FlushLoop.triggered autoParams awake.session longer.getBufferSize awake.clock) = true
    rw [long]
    rfl
  have nonempty : longer.audioBuffer.isEmpty = false := by
    rw [← Bool.not_eq_true,List.isEmpty_iff_length_eq_zero]
    exact fun empty => by rw [show longer.audioBuffer.length = 32000 from long] at empty; cases empty
  have heard : mention autoParams awake (.cycle true heardEnglish) = some (.detected (bytes "en")) := by
    have pass : passes autoParams awake (.cycle true heardEnglish) = some (longer,heardEnglish) := by
      simp only [passes,due]
      rfl
    have english : detects longer heardEnglish = some (bytes "en") := by
      simp only [detects,heardEnglish,nonempty,speaks,show longer.vadGate = none from ungated]
      rfl
    simp [mention,overheard,pass,english]
  obtain ⟨earlier,later,split,_,_,decodes⟩ := language_locked whole present
  rw [mentions_concat,mentions_concat,mentions_concat,heard] at split
  replace split : [.named auto,.installed,.detected (bytes "en")] = earlier ++ .installed :: later := split
  obtain ⟨rfl,rfl⟩ := split_single split
  exact decodes.trans rfl

end JotaTranscriber.LanguageLock

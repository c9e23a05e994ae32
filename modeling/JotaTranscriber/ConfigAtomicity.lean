import JotaTranscriber.ControlFrames
import JotaTranscriber.ModelReferences

-- What a config that ends in CONFIG_ERROR leaves behind.
namespace JotaTranscriber.ConfigAtomicity
open SessionMachine StreamingSession
open ControlFrames (hasType)
open ModelReferences (acquired released acquired_step released_step isAcquire touchesModel)

def held (log : List Event) : Int := acquired log - released log

def handling : Receiver → Bool
  | .acquiring | .configuring _ | .closing .rejected | .sending _ (.close .rejected) => true
  | _ => false

-- The language_ of the session once the message has been read.
def requested (params : SessionParams) (session : StreamingSession) (payload : Text) : Text :=
  match params.parseJson payload with
  | .ok message =>
    match message.field? "language" with
    | some (.string language) => language
    | _ => session.language
  | .error _ => session.language

-- What the flush thread works on meanwhile.
structure Untouched (before after : StreamingSession) : Prop where
  engine : after.engine = before.engine
  bufferOverflowed : after.bufferOverflowed = before.bufferOverflowed
  droppedChunks : after.droppedChunks = before.droppedChunks
  capacityDegraded : after.capacityDegraded = before.capacityDegraded
  lastTranscribedSize : after.lastTranscribedSize = before.lastTranscribedSize
  transcripts : after.transcripts = before.transcripts

-- From one end of the handling to the other nothing has changed of what only
-- the receive thread writes, and no step of its own touched the rest.
structure Atomic (params : SessionParams) (s e : State) (steps : List (State × Action)) : Prop where
  language : e.session.language = s.session.language
  framed : Framed s.session e.session
  references : held e.log = held s.log
  ownSteps : ∀ entry ∈ steps, flushes entry.2 = false → ∀ next, Step params entry.1 entry.2 next →
    Untouched entry.1.session next.session

-- The engine was not the one to throw, and if ModelCache::acquire was, the
-- message asked for no other language.
def Recovers (params : SessionParams) (s : State) (payload : Text) (trace : List (State × Action)) : Prop :=
  (∀ entry ∈ trace, ∀ what, entry.2 ≠ .installFails what) ∧
  ((∃ entry ∈ trace, ∃ what, entry.2 = .acquireFails what) →
    requested params s.session payload = s.session.language)

def settles : Action → Bool
  | .install | .installFails _ | .acquireFails _ => true
  | _ => false

-- How far the handling has come, with nothing decided yet.
structure Pending (params : SessionParams) (s : State) (payload : Text) (past : List (State × Action))
    (a : State) : Prop where
  quiet : ∀ entry ∈ past, settles entry.2 = false
  framed : Framed s.session a.session
  released : released a.log = released s.log
  stage : match a.receiver with
    | .acquiring => a.session.language = requested params s.session payload ∧
        acquired a.log = acquired s.log
    | .configuring _ => a.session.language = requested params s.session payload ∧
        acquired a.log = acquired s.log + 1
    | _ => a.session.language = s.session.language ∧ acquired a.log = acquired s.log

section Handling
variable {params : SessionParams} {s m a e next : State} {action : Action} {payload : Text}
  {view : AuthView} {past trace : List (State × Action)} {session after : StreamingSession}
  {receiver : Receiver}

theorem config_outcome (config : hasType params payload (bytes "config"))
    (ran : handleJsonMessage params session payload view = (after,receiver)) :
    (after = session ∧ ((∃ what, receiver = configFailed what) ∨
      ∃ text code, receiver = .sending [.error text code] (.close .rejected))) ∨
    after = { session with language := requested params session payload } ∧ receiver = .acquiring := by
  obtain ⟨message,parsed,typed⟩ := config
  simp only [handleJsonMessage,parsed,typed,if_true] at ran
  have accepted {result : StreamingSession × Receiver} (passed : Accepted session message result) :
      (result.1 = session ∧ ∃ what, result.2 = configFailed what) ∨
      result.1 = { session with language := requested params session payload } ∧
        result.2 = .acquiring := by
    rcases passed with ⟨what,rfl⟩ | ⟨absent,rfl⟩ | ⟨language,found,rfl⟩
    · exact .inl ⟨rfl,what,rfl⟩
    · exact .inr ⟨by simp [requested,parsed,absent],rfl⟩
    · exact .inr ⟨by simp [requested,parsed,found],rfl⟩
  unfold handleConfig at ran
  dsimp only at ran
  split at ran
  · split at ran
    · split at ran
      · rcases accepted (accepted_cases params session message _ ran) with ⟨same,failed⟩ | started
        · exact .inl ⟨same,.inl failed⟩
        · exact .inr started
      · cases ran
        exact .inl ⟨rfl,.inr ⟨_,_,rfl⟩⟩
    · cases ran
      exact .inl ⟨rfl,.inr ⟨_,_,rfl⟩⟩
  · rcases accepted (accepted_cases params session message _ ran) with ⟨same,failed⟩ | started
    · exact .inl ⟨same,.inl failed⟩
    · exact .inr started

theorem asked_pending (config : hasType params payload (bytes "config"))
    (asked : Move params s (.text payload view) m) (begun : handling m.receiver = true) :
    Pending params s payload [] m := by
  cases asked with
  | text pc live ran =>
    rcases config_outcome config ran with
      ⟨rfl,⟨what,rfl⟩ | ⟨text,code,rfl⟩⟩ | ⟨rfl,rfl⟩
    · cases begun
    · exact ⟨List.forall_mem_nil _,.refl _,rfl,rfl,rfl⟩
    · exact ⟨List.forall_mem_nil _,⟨rfl,rfl,rfl⟩,rfl,rfl,rfl⟩

theorem handling_cases (busy : handling a.receiver = true) (move : Move params a action next) :
    (next.receiver = a.receiver ∧ settles action = false ∧ touchesModel action = false ∧
      receives action = false) ∨
    (next.session = a.session ∧
      ((∃ failed, a.receiver = .closing .rejected ∧ action = .close failed ∧
          next.receiver = afterClose .rejected failed ∧ next.log = a.log) ∨
        (∃ message rest, a.receiver = .sending (message :: rest) (.close .rejected) ∧ action = .send ∧
          next.receiver = sendThen rest (.close .rejected) ∧ next.log = a.log ++ [.sent message]) ∨
        (∃ ctx, a.receiver = .acquiring ∧ action = .acquire ctx ∧ next.receiver = .configuring ctx ∧
          next.log = a.log ++ [.acquired ctx]) ∨
        (∃ what, a.receiver = .acquiring ∧ action = .acquireFails what ∧
          next.receiver = configFailed what ∧ next.log = a.log))) ∨
    (∃ ctx, a.receiver = .configuring ctx ∧ (action = .install ∧
          next.receiver = .sending [readyMessage params a.session] .read ∨
        ∃ what, action = .installFails what ∧ next.session = a.session.installFailed ∧
          next.receiver = configFailed what ∧ next.log = a.log)) := by
  cases move with
  | tick | wake | exit | tryLockFails | cycle | flushSend | relock => exact .inl ⟨rfl,rfl,rfl,rfl⟩
  | accept pc | acceptFails pc | text pc | binary pc | readFails pc | join pc | finalPass pc | release pc
  | destroy pc | destroyJoin pc | destroyRelease pc => rw [pc] at busy; cases busy
  | send pc =>
    rename_i rest onward message
    rw [pc] at busy
    cases onward with
    | read => cases busy
    | close kind =>
      cases kind with
      | rejected => exact .inr (.inl ⟨rfl,.inr (.inl ⟨_,_,pc,rfl,rfl,rfl⟩)⟩)
      | _ => cases busy
  | close pc =>
    rename_i kind
    rw [pc] at busy
    cases kind with
    | rejected => exact .inr (.inl ⟨rfl,.inl ⟨_,pc,rfl,rfl,rfl⟩⟩)
    | _ => cases busy
  | acquire pc => exact .inr (.inl ⟨rfl,.inr (.inr (.inl ⟨_,pc,rfl,rfl,rfl⟩))⟩)
  | acquireFails pc => exact .inr (.inl ⟨rfl,.inr (.inr (.inr ⟨_,pc,rfl,rfl,rfl⟩))⟩)
  | install pc => exact .inr (.inr ⟨_,pc,.inl ⟨rfl,rfl⟩⟩)
  | installFails pc => exact .inr (.inr ⟨_,pc,.inr ⟨_,rfl,rfl,rfl,rfl⟩⟩)

theorem pending_preserved (before : Pending params s payload past a)
    (busy : handling a.receiver = true) (still : handling next.receiver = true)
    (move : Move params a action next) : Pending params s payload (past ++ [(a,action)]) next := by
  obtain ⟨quiet,framed,none_released,stage⟩ := before
  have snoc (undecided : settles action = false) :
      ∀ entry ∈ past ++ [(a,action)], settles entry.2 = false := by
    rw [List.forall_mem_append,List.forall_mem_singleton]
    exact ⟨quiet,undecided⟩
  rcases handling_cases busy move with
    ⟨place,undecided,apart,unread⟩ | ⟨same,kind⟩ |
    ⟨_,_,⟨_,answers⟩ | ⟨_,_,_,answers,_⟩⟩
  · have language := (received_step params move unread).language
    have counted := acquired_step move
    have unasked : isAcquire action = false := by cases action <;> first | rfl | cases apart
    rw [unasked] at counted
    have kept : Framed a.session next.session := by
      rcases session_step params move with kept | ⟨rfl,_⟩ | ⟨⟨_,rfl⟩,_⟩ | ⟨_,⟨rfl,_⟩ | ⟨rfl,_⟩⟩
      · exact kept
      all_goals cases apart
    refine ⟨snoc undecided,framed.trans kept,(released_step move apart).trans none_released,?_⟩
    rw [place,language,show acquired next.log = acquired a.log from counted]
    exact stage
  · rw [← same] at framed
    rcases kind with ⟨failed,_,rfl,answers,_⟩ | ⟨message,rest,pc,rfl,answers,logged⟩ |
      ⟨ctx,pc,rfl,answers,logged⟩ | ⟨_,_,rfl,answers,_⟩
    · rw [answers] at still
      cases failed <;> cases still
    · rw [pc] at stage
      refine ⟨snoc rfl,framed,?_,?_⟩
      · rw [logged]
        simpa [released] using none_released
      · rw [answers,same,logged]
        have counted : acquired (a.log ++ [.sent message]) = acquired a.log := by
          simp [acquired,ModelReferences.isAcquired]
        rw [counted]
        cases rest <;> exact stage
    · rw [pc] at stage
      refine ⟨snoc rfl,framed,?_,?_⟩
      · rw [logged]
        simpa [released] using none_released
      · rw [answers,same,logged]
        have counted : acquired (a.log ++ [.acquired ctx]) = acquired a.log + 1 := by
          simp [acquired,ModelReferences.isAcquired]
        exact ⟨stage.1,by rw [counted,stage.2]⟩
    · rw [answers] at still
      cases still
  · rw [answers] at still
    cases still
  · rw [answers] at still
    cases still

theorem runs_pending (config : hasType params payload (bytes "config"))
    (asked : Step params s (.text payload view) m) (handled : Runs params m trace a)
    (within : ∀ entry ∈ trace, handling entry.1.receiver = true) (busy : handling a.receiver = true) :
    Pending params s payload trace a := by
  have begins : handling m.receiver = true → Pending params s payload [] m :=
    asked_pending config asked.2
  refine handled.history (I := fun past a => handling a.receiver = true → Pending params s payload past a)
    (C := fun a _ => handling a.receiver = true) within begins ?_ busy
  intro past a action next _ before inside one still
  exact pending_preserved (before inside) inside still one.2

theorem own_untouched (busy : handling a.receiver = true) (own : flushes action = false)
    (uninstalled : action ≠ .install) (move : Move params a action next) :
    Untouched a.session next.session := by
  cases move with
  | accept pc | acceptFails pc | text pc | binary pc | readFails pc | join pc | finalPass pc | release pc
  | destroy pc | destroyJoin pc | destroyRelease pc => rw [pc] at busy; cases busy
  | wake | exit | tryLockFails | cycle | flushSend | relock => cases own
  | install => exact absurd rfl uninstalled
  | _ => exact ⟨rfl,rfl,rfl,rfl,rfl,rfl⟩

theorem text_untouched (move : Move params a (.text payload view) next) :
    Untouched a.session next.session := by
  cases move with
  | text pc live ran =>
    rcases handleJsonMessage_cases ran with ⟨rfl,_⟩ | ⟨_,rfl,_⟩ | ⟨rfl,_⟩ | ⟨rfl,_⟩
    all_goals exact ⟨rfl,rfl,rfl,rfl,rfl,rfl⟩

theorem own_steps (within : ∀ entry ∈ trace, handling entry.1.receiver = true)
    (uninstalled : ∀ entry ∈ trace, entry.2 ≠ .install) :
    ∀ entry ∈ (s,Action.text payload view) :: trace, flushes entry.2 = false → ∀ next,
      Step params entry.1 entry.2 next → Untouched entry.1.session next.session := by
  intro entry present own next one
  rcases List.mem_cons.mp present with rfl | later
  · exact text_untouched one.2
  · exact own_untouched (within entry later) own (uninstalled entry later) one.2

theorem quiet_snoc (quiet : ∀ entry ∈ past, settles entry.2 = false)
    (decided : Action) (settled : settles decided = true) (other : action ≠ decided) :
    ∀ entry ∈ past ++ [(a,action)], entry.2 ≠ decided := by
  rw [List.forall_mem_append,List.forall_mem_singleton]
  refine ⟨?_,other⟩
  rintro entry present rfl
  rw [quiet entry present] at settled
  cases settled

-- The three ways a failed config ends: an exception of ws_.close after a refused
-- token, a model that cannot be loaded, and an engine that cannot be built.
theorem close_failed_iff (pending : Pending params s payload past a)
    (within : ∀ entry ∈ past ++ [(a,Action.close reason)], handling entry.1.receiver = true)
    (pc : a.receiver = .closing .rejected) (same : next.session = a.session) (logged : next.log = a.log) :
    Atomic params s next ((s,.text payload view) :: (past ++ [(a,.close reason)])) ↔
      Recovers params s payload (past ++ [(a,.close reason)]) := by
  obtain ⟨quiet,framed,none_released,stage⟩ := pending
  rw [pc] at stage
  have never (decided : Action) (settled : settles decided = true) (other : Action.close reason ≠ decided) :
      ∀ entry ∈ past ++ [(a,.close reason)], entry.2 ≠ decided := quiet_snoc quiet decided settled other
  refine iff_of_true
    ⟨?_,?_,?_,own_steps within (never .install rfl fun impossible => by cases impossible)⟩ ⟨?_,?_⟩
  · rw [same]
    exact stage.1
  · rw [same]
    exact framed
  · rw [held,held,logged,stage.2,none_released]
  · intro entry present why
    exact never (.installFails why) rfl (fun impossible => by cases impossible) entry present
  · rintro ⟨entry,present,why,thrown⟩
    exact absurd thrown
      (never (.acquireFails why) rfl (fun impossible => by cases impossible) entry present)

theorem acquire_failed_iff (pending : Pending params s payload past a)
    (within : ∀ entry ∈ past ++ [(a,Action.acquireFails why)], handling entry.1.receiver = true)
    (pc : a.receiver = .acquiring) (same : next.session = a.session) (logged : next.log = a.log) :
    Atomic params s next ((s,.text payload view) :: (past ++ [(a,.acquireFails why)])) ↔
      Recovers params s payload (past ++ [(a,.acquireFails why)]) := by
  obtain ⟨quiet,framed,none_released,stage⟩ := pending
  rw [pc] at stage
  have never (decided : Action) (settled : settles decided = true)
      (other : Action.acquireFails why ≠ decided) :
      ∀ entry ∈ past ++ [(a,.acquireFails why)], entry.2 ≠ decided := quiet_snoc quiet decided settled other
  constructor
  · intro atomic
    refine ⟨?_,fun _ => ?_⟩
    · intro entry present what
      exact never (.installFails what) rfl (fun impossible => by cases impossible) entry present
    · rw [← stage.1,← same]
      exact atomic.language
  · intro recovers
    have language := recovers.2 ⟨(a,.acquireFails why),by simp,why,rfl⟩
    refine ⟨?_,?_,?_,own_steps within (never .install rfl fun impossible => by cases impossible)⟩
    · rw [same,stage.1]
      exact language
    · rw [same]
      exact framed
    · rw [held,held,logged,stage.2,none_released]

theorem engine_failed_iff (pending : Pending params s payload past a)
    (pc : a.receiver = .configuring ctx) (logged : next.log = a.log) :
    Atomic params s next ((s,.text payload view) :: (past ++ [(a,.installFails why)])) ↔
      Recovers params s payload (past ++ [(a,.installFails why)]) := by
  obtain ⟨_,_,none_released,stage⟩ := pending
  rw [pc] at stage
  refine iff_of_false ?_ fun recovers => recovers.1 (a,.installFails why) (by simp) why rfl
  intro atomic
  have references := atomic.references
  rw [held,held,logged,stage.2,none_released] at references
  omega

theorem failed_config_atomic_iff (config : hasType params payload (bytes "config"))
    (asked : Step params s (.text payload view) m) (handled : Runs params m trace e)
    (within : ∀ entry ∈ trace, handling entry.1.receiver = true)
    (failed : e.receiver = configFailed what) :
    Atomic params s e ((s,.text payload view) :: trace) ↔ Recovers params s payload trace := by
  cases handled with
  | nil =>
    have unfailed : ¬ ∃ entry ∈ ([] : List (State × Action)), ∃ what, entry.2 = .acquireFails what := by
      rintro ⟨entry,absent,_⟩
      cases absent
    refine iff_of_true ?_ ⟨List.forall_mem_nil _,fun thrown => absurd thrown unfailed⟩
    cases asked.2 with
    | text pc live ran =>
      rcases config_outcome config ran with ⟨rfl,_⟩ | ⟨_,rfl⟩
      · exact ⟨rfl,.refl _,rfl,own_steps within (List.forall_mem_nil _)⟩
      · cases failed
  | @step past a action _ prior one =>
    have inside : handling a.receiver = true := within (a,action) (by simp)
    have before : ∀ entry ∈ past, handling entry.1.receiver = true :=
      fun entry present => within entry (List.mem_append_left _ present)
    have pending := runs_pending config asked prior before inside
    rcases handling_cases inside one.2 with
      ⟨place,_⟩ | ⟨same,⟨reason,pc,rfl,_,logged⟩ | ⟨_,rest,_,_,answers,_⟩ | ⟨_,_,_,answers,_⟩ |
        ⟨why,pc,rfl,_,logged⟩⟩ | ⟨_,pc,⟨_,answers⟩ | ⟨why,rfl,_,_,logged⟩⟩
    · rw [← place,failed] at inside
      cases inside
    · exact close_failed_iff pending within pc same logged
    · rw [failed] at answers
      cases rest <;> cases answers
    · rw [failed] at answers
      cases answers
    · exact acquire_failed_iff pending within pc same logged
    · rw [failed] at answers
      cases answers
    · exact engine_failed_iff pending pc logged

end Handling

-- A second config in a configured session: read, with the model, and failed.
def askedState : State := { configuredState with receiver := .acquiring }

def loadedState : State :=
  { configuredState with receiver := .configuring 0, log := configuredState.log ++ [.acquired 0] }

def missingModel : Text := bytes "[ModelCache] Failed to load whisper model: model.bin"
def noState : Text := bytes "[StreamingWhisperEngine] Failed to create whisper state"

theorem asked_again : Step defaultParams configuredState (.text configPayload emptyView) askedState :=
  (advance_exact defaultParams).mp rfl

theorem config_again : hasType defaultParams configPayload (bytes "config") := ⟨_,rfl,rfl⟩

theorem failed_config_atomic_iff_missing_model :
    Atomic defaultParams configuredState { askedState with receiver := configFailed missingModel }
      [(configuredState,.text configPayload emptyView),(askedState,.acquireFails missingModel)] := by
  have failing : Step defaultParams askedState (.acquireFails missingModel)
      { askedState with receiver := configFailed missingModel } := ⟨rfl,.acquireFails rfl⟩
  refine (failed_config_atomic_iff config_again asked_again (Machine.Runs.single failing) ?_ rfl).mpr
    ⟨?_,fun _ => rfl⟩
  · exact List.forall_mem_singleton.mpr rfl
  · exact List.forall_mem_singleton.mpr fun _ impossible => by cases impossible

-- The engine of the second config cannot be built: two references are held
-- from then on, and model_acquired_ stands for one.
theorem failed_engine_keeps_reference :
    (∃ past, Runs defaultParams (initial 0) past configuredState) ∧
    Step defaultParams configuredState (.text configPayload emptyView) askedState ∧
    ∃ e, Runs defaultParams askedState [(askedState,.acquire 0),(loadedState,.installFails noState)] e ∧
      e.receiver = configFailed noState ∧ held configuredState.log = 1 ∧ held e.log = 2 ∧
      ¬ Atomic defaultParams configuredState e [(configuredState,.text configPayload emptyView),
        (askedState,.acquire 0),(loadedState,.installFails noState)] := by
  have loaded : Step defaultParams askedState (.acquire 0) loadedState := ⟨rfl,.acquire rfl⟩
  have failing : Step defaultParams loadedState (.installFails noState) { loadedState with
      session := loadedState.session.installFailed, receiver := configFailed noState } :=
    ⟨rfl,.installFails rfl⟩
  refine ⟨⟨_,config_run.2⟩,asked_again,_,.step (.single loaded) failing,rfl,by decide,by decide,?_⟩
  intro atomic
  have references := atomic.references
  rw [show held configuredState.log = 1 by decide] at references
  revert references
  decide

end JotaTranscriber.ConfigAtomicity

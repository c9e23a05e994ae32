import JotaTranscriber.InferenceLimiter
import JotaTranscriber.HandleTranscribe
import JotaTranscriber.SessionRuns

namespace JotaTranscriber.InferenceSlots
open FlushLoop

-- The threads that infer: the two of a session, one for each HTTP request, and
-- callers of StreamingWhisperEngine::transcribe.
inductive Thread where
  | flush (session : Nat)
  | receive (session : Nat)
  | request (call : Nat)
  | direct (call : Nat)
  deriving DecidableEq, Repr

-- What a thread has to do with the limiter and with whisper. An inference is
-- two steps: whisper_full_with_state runs while `inferring` comes first.
inductive Work where
  | construct (kind : GuardKind) (acquired : Bool)
  | infer
  | inferring
  | destroy
  deriving DecidableEq, Repr

-- inf_guard lives to the end of the loop body.
def leave : Flusher → List Work
  | .waiting => [.destroy]
  | _ => []

-- A cycle that reported the end of a busy phase first has its pass still to come.
def resumed : Flusher → List Work
  | .relocking (.infer ..) => [.infer]
  | _ => []

-- What a step of a session owes to the limiter and to whisper, in order, with
-- the place in the cycle that it leads to. An exception that leaves flushLoop
-- ends the process with the slot still taken; one that leaves handleEnd destroys
-- its guard.
def sessionWork (params : SessionParams) (s : SessionMachine.State) (after : Flusher) :
    SessionMachine.Action → List Work
  | .cycle slot _ =>
    if reaches params s.session s.clock then
      .construct .tryGuard slot ::
        ((if slot && !s.session.capacityDegraded then [.infer] else []) ++ leave after)
    else []
  | .relock _ => resumed s.flusher ++ leave after
  | .finalPass slot _ =>
    if s.session.engine.isSome then
      .construct (.timedTryGuard !slot) slot :: ((if slot then [.infer] else []) ++ [.destroy])
    else []
  | _ => []

def effectWork : HttpEffect → Option Work
  | .takeSlot => some (.construct .tryGuard true)
  | .infer => some .infer
  | .releaseSlot => some .destroy
  | _ => none

def handlerWork (handler : Handler α) : List Work := handler.effects.filterMap effectWork

def directWork : List Work := [.construct .guard true,.infer,.destroy]

structure State where
  guards : Guards Thread
  pending : Thread → List Work
  sessions : Nat → SessionMachine.State

inductive Action where
  | session (i : Nat) (action : SessionMachine.Action)
  | request (call : Nat) (request : HttpRequest) (config : ServerConfig) (auth : Option AuthManager)
      (world : HttpWorld)
  | direct (call : Nat)
  | work (thread : Thread)
  | setMaxConcurrency (maxConcurrent : CInt)

def threadOf (i : Nat) (action : SessionMachine.Action) : Thread :=
  if SessionMachine.flushes action then .flush i else .receive i

def isTick : SessionMachine.Action → Bool
  | .tick _ => true
  | _ => false

variable (settings : Nat → SessionParams)

-- A session's step is taken with its effect on the session at once, and the
-- thread then does what it owes before its next one. In between it holds
-- state_mutex_; that other threads are not held up by it only adds runs.
inductive Step : State → Action → State → Prop where
  | session (ready : isTick action = true ∨ s.pending (threadOf i action) = [])
      (one : SessionMachine.Step (settings i) (s.sessions i) action next) :
      Step s (.session i action) { s with
        sessions := Function.update s.sessions i next
        pending := Function.update s.pending (threadOf i action) (s.pending (threadOf i action) ++
          sessionWork (settings i) (s.sessions i) next.flusher action) }
  | request (ready : s.pending (.request call) = []) :
      Step s (.request call request config auth world) { s with
        pending := Function.update s.pending (.request call)
          (handlerWork (HandleTranscribe.handle request config auth world)) }
  | direct (ready : s.pending (.direct call) = []) :
      Step s (.direct call) { s with pending := Function.update s.pending (.direct call) directWork }
  | construct (head : s.pending thread = .construct kind acquired :: rest)
      (ran : Guards.Step s.guards (.construct thread kind) guards)
      (answer : guards.live.lookup thread = some acquired) :
      Step s (.work thread) { s with guards, pending := Function.update s.pending thread rest }
  | begin (head : s.pending thread = .infer :: rest) :
      Step s (.work thread) { s with pending := Function.update s.pending thread (.inferring :: rest) }
  | finish (head : s.pending thread = .inferring :: rest) :
      Step s (.work thread) { s with pending := Function.update s.pending thread rest }
  | destroy (head : s.pending thread = .destroy :: rest)
      (ran : Guards.Step s.guards (.destroy thread) guards) :
      Step s (.work thread) { s with guards, pending := Function.update s.pending thread rest }
  | setMaxConcurrency (ran : Guards.Step s.guards (.setMaxConcurrency maxConcurrent) guards) :
      Step s (.setMaxConcurrency maxConcurrent) { s with guards }

abbrev Runs := Machine.Runs (Step settings)

def initial (limit : CInt) (now : Nat → Instant) : State :=
  ⟨⟨InferenceLimiter.create.setMaxConcurrency limit,∅⟩,fun _ => [],fun i => SessionMachine.initial (now i)⟩

def executing (s : State) (thread : Thread) : Prop := (s.pending thread).head? = some .inferring

-- The guard a thread is left with after its work, if the work is done in order:
-- a guard is constructed when there is none, and inferences run under one that
-- acquired a slot.
def settle : Option Bool → List Work → Option (Option Bool)
  | status,[] => some status
  | none,.construct _ acquired :: rest => settle (some acquired) rest
  | some true,.infer :: rest => settle (some true) rest
  | some true,.inferring :: rest => settle (some true) rest
  | some _,.destroy :: rest => settle none rest
  | _,_ => none

theorem settle_append (status : Option Bool) (first second : List Work) :
    settle status (first ++ second) = (settle status first).bind fun after => settle after second := by
  induction first generalizing status with
  | nil => cases status <;> rfl
  | cons work rest ih =>
    rcases status with _ | acquired
    · cases work <;> first | rfl | exact ih _
    · cases acquired <;> cases work <;> first | rfl | exact ih _

-- The guard of a flush thread, read off its place in the cycle.
def owned : Flusher → Option Bool
  | .sending _ .skip | .relocking .skip => some false
  | .sending .. | .relocking _ | .crashed _ | .faulted => some true
  | _ => none

-- Past a pass the cycle is over or the slot still taken.
def holding (flusher : Flusher) : Prop := flusher = .waiting ∨ leave flusher = [] ∧ owned flusher = some true

theorem settle_leave (holds : holding flusher) : settle (some true) (leave flusher) = some (owned flusher) := by
  rcases holds with rfl | ⟨stays,held⟩
  · rfl
  · rw [stays,held]
    rfl

theorem accumulate_holding (session : StreamingSession) (cycleEngine currentSize : Nat)
    (result : TranscribeResult) : holding (accumulate session cycleEngine currentSize result).next := by
  rcases accumulate_next session cycleEngine currentSize result with waits | ⟨faults,_⟩ | sends
  · exact .inl waits
  · rw [faults]; exact .inr ⟨rfl,rfl⟩
  · rw [sends]; exact .inr ⟨rfl,rfl⟩

theorem inferPass_holding (session : StreamingSession) (cycleEngine currentSize : Nat)
    (outcome : Outcome) : holding (inferPass session cycleEngine currentSize outcome).next := by
  rcases inferPass_cases session cycleEngine currentSize outcome with
    ⟨_,faults⟩ | ⟨found,used,_,⟨_,_,fails⟩ | ⟨result,_,passed⟩⟩
  · rw [faults]; exact .inr ⟨rfl,rfl⟩
  · rw [fails]; exact .inr ⟨rfl,rfl⟩
  · rw [passed]
    rcases afterPass_cases { session with engine := some ⟨found.id,used⟩ } ⟨found.id,used⟩
        cycleEngine currentSize result with
      ⟨_,_,_,_,opened,kind⟩ | ⟨_,_,_,direct⟩
    · rw [opened]
      rcases kind with ⟨rfl,rfl⟩ | ⟨rfl,rfl⟩
      all_goals exact .inr ⟨rfl,rfl⟩
    · rw [direct]
      exact accumulate_holding _ cycleEngine currentSize result

theorem cycle_settles (params : SessionParams) (s : SessionMachine.State)
    (ran : cycle params s.session s.clock slot outcome = ⟨after,flusher,events⟩) :
    settle none (sessionWork params s flusher (.cycle slot outcome)) = some (owned flusher) := by
  have watched : (watchdog params s.session s.clock).engine = s.session.engine := watchdog_engine _ _ _
  have reached (found : OwnedEngine) (present : s.session.engine = some found)
      (ready : s.session.configured = true)
      (due : triggered params s.session found.engine.getBufferSize s.clock = true) :
      reaches params s.session s.clock = true := by
    simp [reaches,present,ready,due]
  simp only [sessionWork]
  rcases cycle_cases params s.session s.clock slot outcome with
    ⟨quiet,idle⟩ | ⟨found,present,ready,due,kind⟩
  · cases quiet.symm.trans ran
    by_cases asked : reaches params s.session s.clock = true
    · have refused : slot = false := by
        unfold reaches at asked
        split at asked
        · cases asked
        · rename_i found present
          obtain ⟨ready,due⟩ := Bool.and_eq_true_iff.mp asked
          exact idle found (watched.trans present) (by simpa using ready) (by simpa using due)
      rw [if_pos asked,refused]
      rfl
    · rw [if_neg asked]
      rfl
  · rw [watched] at present
    rw [watchdog_configured] at ready
    rw [triggered_watchdog] at due
    rw [if_pos (reached found present ready due)]
    rw [watchdog_capacityDegraded] at kind
    rcases kind with ⟨rfl,_,busy⟩ | ⟨rfl,degraded,free⟩ | ⟨rfl,steady,direct⟩
    · cases busy.symm.trans ran; rfl
    · cases free.symm.trans ran
      rw [degraded]
      rfl
    · have held := inferPass_holding (watchdog params s.session s.clock) found.id
        found.engine.getBufferSize outcome
      rw [← direct,ran] at held
      rw [steady]
      exact settle_leave held

theorem relock_settles (ran : relock session outcome continuation = ⟨after,flusher,events⟩) :
    settle (owned (.relocking continuation)) (resumed (.relocking continuation) ++ leave flusher) =
      some (owned flusher) := by
  cases continuation with
  | skip | finish => cases ran; rfl
  | infer cycleEngine currentSize =>
    have held := inferPass_holding session cycleEngine currentSize outcome
    rw [show inferPass session cycleEngine currentSize outcome = _ from ran] at held
    exact settle_leave held
  | resume cycleEngine currentSize result => cases ran; rfl
  | clear cycleEngine currentSize result =>
    have held := accumulate_holding { session with bufferOverflowed := false, droppedChunks := 0 }
      cycleEngine currentSize result
    rw [show accumulate _ cycleEngine currentSize result = _ from ran] at held
    exact settle_leave held

theorem finalPass_settles (params : SessionParams) (s : SessionMachine.State) (flusher : Flusher)
    (slot : Bool) (outcome : Outcome) :
    settle none (sessionWork params s flusher (.finalPass slot outcome)) = some none := by
  simp only [sessionWork]
  split
  · cases slot <;> rfl
  · rfl

-- The flush thread's steps lead from the guard its place says to the guard its
-- next place says; the receive thread starts and ends with none.
theorem flush_settles (one : SessionMachine.Step params s action next)
    (flushes : SessionMachine.flushes action = true) :
    settle (owned s.flusher) (sessionWork params s next.flusher action) = some (owned next.flusher) := by
  cases one.2 with
  | wake pc | exit pc | tryLockFails pc => rw [pc]; rfl
  | flushSend pc =>
    rw [pc]
    cases ‹Continuation› <;> rfl
  | cycle pc ran =>
    rw [pc]
    exact cycle_settles params s ran
  | relock pc ran =>
    simp only [sessionWork]
    rw [pc]
    exact relock_settles ran
  | _ => cases flushes

theorem receive_settles (start : SessionMachine.Handshake s)
    (one : SessionMachine.Step params s action next) (other : SessionMachine.flushes action = false) :
    settle none (sessionWork params s next.flusher action) = some none ∧
      owned next.flusher = owned s.flusher := by
  cases one.2 with
  | accept pc =>
    rw [start pc]
    exact ⟨rfl,rfl⟩
  | finalPass pc ran => exact ⟨finalPass_settles params s _ _ _,rfl⟩
  | wake | exit | tryLockFails | flushSend | cycle | relock => cases other
  | _ => exact ⟨rfl,rfl⟩

section Handlers
open HandleTranscribe

theorem handlerWork_bind (first : Handler α) (rest : α → Handler β) :
    handlerWork (first >>= rest) = handlerWork first ++
      match first.result with
      | .ok value => handlerWork (rest value)
      | .error _ => [] := by
  simp only [handlerWork,bind]
  cases first.result with
  | error stop => simp
  | ok value => simp

def Balanced (handler : Handler α) : Prop := settle none (handlerWork handler) = some none

theorem balanced_bind {first : Handler α} {rest : α → Handler β} (before : Balanced first)
    (after : ∀ value, Balanced (rest value)) : Balanced (first >>= rest) := by
  rw [Balanced,handlerWork_bind,settle_append,before]
  cases first.result with
  | error stop => rfl
  | ok value => exact after value

theorem balanced_idle {handler : Handler α} (idle : handlerWork handler = []) : Balanced handler := by
  rw [Balanced,idle]
  rfl

@[simp] theorem idle_makeJson (world : HttpWorld) (status : HttpStatus) (body : Json) :
    handlerWork (makeJson world status body : Handler α) = [] := by
  unfold makeJson
  split <;> rfl

theorem makeError_balanced (world : HttpWorld) (status : HttpStatus) (message type : Text) :
    Balanced (makeError world status message type : Handler α) :=
  balanced_idle (idle_makeJson _ _ _)

theorem pure_balanced (value : α) : Balanced (pure value : Handler α) := rfl

theorem handlerWork_catchAll (body : Handler α) (fallback : α) :
    handlerWork (catchAll body fallback) = handlerWork body := by
  unfold catchAll
  split <;> rfl

theorem authorize_balanced (request : HttpRequest) (config : ServerConfig) (auth : Option AuthManager)
    (world : HttpWorld) : Balanced (authorize request config auth world) := by
  unfold authorize
  split
  · split
    · exact makeError_balanced _ _ _ _
    · exact pure_balanced _
  · split
    · refine balanced_bind (balanced_idle rfl) (fun _ => ?_)
      split
      · exact pure_balanced _
      · exact makeError_balanced _ _ _ _
    · exact pure_balanced _

theorem readForm_balanced (request : HttpRequest) (config : ServerConfig) (world : HttpWorld) :
    Balanced (readForm request config world) := by
  refine balanced_bind ?_ (fun parts => ?_)
  · unfold parseForm
    dsimp only
    split
    · exact makeError_balanced _ _ _ _
    · split
      · exact makeError_balanced _ _ _ _
      · exact pure_balanced _
  · split
    · exact makeError_balanced _ _ _ _
    · split
      · exact makeError_balanced _ _ _ _
      · split
        · exact makeError_balanced _ _ _ _
        · dsimp only
          split
          · exact makeError_balanced _ _ _ _
          · exact pure_balanced _

theorem readTemperature_balanced (parts : MultipartParser.Parts) (world : HttpWorld) :
    Balanced (readTemperature parts world) := by
  unfold readTemperature
  split
  · exact pure_balanced _
  · rw [Balanced,handlerWork_catchAll,← Balanced]
    split
    · rfl
    · split
      · exact makeError_balanced _ _ _ _
      · exact pure_balanced _

theorem decodeAudio_balanced (config : ServerConfig) (world : HttpWorld) (file : List UInt8) :
    Balanced (decodeAudio config world file) := by
  refine balanced_bind (balanced_idle rfl) (fun _ => ?_)
  split
  · exact makeError_balanced _ _ _ _
  · split
    · exact makeError_balanced _ _ _ _
    · exact pure_balanced _

theorem gateAudio_balanced (config : ServerConfig) (world : HttpWorld) (pcm : List Sample) :
    Balanced (gateAudio config world pcm) := by
  unfold gateAudio
  split
  · exact pure_balanced _
  · refine balanced_bind (balanced_idle rfl) (fun _ => ?_)
    split
    · exact makeError_balanced _ _ _ _
    · exact pure_balanced _

theorem handlerWork_guarding (release : HttpEffect) (body : Handler α) :
    handlerWork (guarding release body) = handlerWork body ++ (effectWork release).toList := by
  simp only [handlerWork,guarding,List.filterMap_append]
  cases kind : effectWork release <;> simp [kind]

theorem slot_balanced {body : Handler α}
    (inner : handlerWork body = [] ∨ handlerWork body = [.infer]) :
    Balanced (do perform .takeSlot; guarding .releaseSlot body) := by
  have outer : handlerWork (do perform .takeSlot; guarding .releaseSlot body) =
      .construct .tryGuard true :: (handlerWork body ++ [.destroy]) := by
    rw [handlerWork_bind]
    exact congrArg (Work.construct .tryGuard true :: ·) (handlerWork_guarding .releaseSlot body)
  rw [Balanced,outer]
  rcases inner with nothing | pass
  · rw [nothing]; rfl
  · rw [pass]; rfl

theorem transcribe_balanced (world : HttpWorld) (format : ResponseFormat) (gate : Option VadGate) :
    Balanced (transcribe world format gate) := by
  refine balanced_bind (balanced_idle rfl) (fun _ => ?_)
  split
  · exact makeError_balanced _ _ _ _
  · rw [Balanced,handlerWork_guarding,show (effectWork .releaseModel).toList = [] from rfl,
      List.append_nil]
    split
    · exact makeError_balanced _ _ _ _
    · refine slot_balanced ?_
      split
      · exact .inl (idle_makeJson _ _ _)
      · refine .inr ?_
        rw [handlerWork_bind]
        cases world.whisper with
        | failed code => exact congrArg (Work.infer :: ·) (idle_makeJson _ _ _)
        | decoded segments => rfl

theorem respond_balanced (parts : MultipartParser.Parts) (world : HttpWorld) (format : ResponseFormat)
    (text : Text) (segments : List TimedSegment) : Balanced (respond parts world format text segments) := by
  cases format with
  | text => rfl
  | json | verboseJson => exact balanced_idle (idle_makeJson _ _ _)

theorem handle_balanced (request : HttpRequest) (config : ServerConfig) (auth : Option AuthManager)
    (world : HttpWorld) : Balanced (handle request config auth world) := by
  refine balanced_bind (authorize_balanced request config auth world) (fun _ => ?_)
  refine balanced_bind (readForm_balanced request config world) (fun form => ?_)
  refine balanced_bind (decodeAudio_balanced config world form.2.1) (fun pcm => ?_)
  refine balanced_bind (readTemperature_balanced form.1 world) (fun _ => ?_)
  refine balanced_bind (gateAudio_balanced config world pcm) (fun gated => ?_)
  obtain ⟨gate,hadSpeech⟩ := gated
  have answered (told : Text × List TimedSegment) :
      Balanced (respond form.1 world form.2.2 told.1 told.2) := respond_balanced _ _ _ _ _
  dsimp only
  split
  · exact balanced_bind (transcribe_balanced world form.2.2 gate) answered
  · exact balanced_bind (pure_balanced _) answered

end Handlers

theorem settle_construct (settled : settle status (.construct kind acquired :: rest) = some after) :
    status = none ∧ settle (some acquired) rest = some after := by
  rcases status with _ | _ | _
  · exact ⟨rfl,settled⟩
  · cases settled
  · cases settled

theorem settle_inference (inference : work = .infer ∨ work = .inferring)
    (settled : settle status (work :: rest) = some after) :
    status = some true ∧ settle (some true) rest = some after := by
  rcases status with _ | _ | _
  · rcases inference with rfl | rfl <;> cases settled
  · rcases inference with rfl | rfl <;> cases settled
  · rcases inference with rfl | rfl
    all_goals exact ⟨rfl,settled⟩

theorem settle_destroy (settled : settle status (.destroy :: rest) = some after) :
    settle none rest = some after := by
  rcases status with _ | _ | _
  · cases settled
  · exact settled
  · exact settled

def expected (s : State) : Thread → Option Bool
  | .flush i => owned (s.sessions i).flusher
  | _ => none

structure Sound (s : State) : Prop where
  counted : s.guards.Counted
  started : ∀ i, SessionMachine.Handshake (s.sessions i)
  settled : ∀ thread, settle (s.guards.live.lookup thread) (s.pending thread) = some (expected s thread)

theorem initial_sound (limit : CInt) (now : Nat → Instant) : Sound (initial limit now) where
  counted := InferenceLimiter.create.setMaxConcurrency_activeCount limit
  started := fun _ _ => rfl
  settled := fun thread => by cases thread <;> rfl

theorem Sound.settled_at (valid : Sound s) (head : s.pending thread = work) :
    settle (s.guards.live.lookup thread) work = some (expected s thread) := by
  rw [← head]
  exact valid.settled thread

theorem Sound.lookup_idle (valid : Sound s) (ready : s.pending thread = []) :
    s.guards.live.lookup thread = expected s thread :=
  Option.some.inj (valid.settled_at ready)

theorem session_sound (valid : Sound s) (one : SessionMachine.Step (settings i) (s.sessions i) action next) :
    Sound { s with
      sessions := Function.update s.sessions i next
      pending := Function.update s.pending (threadOf i action) (s.pending (threadOf i action) ++
        sessionWork (settings i) (s.sessions i) next.flusher action) } := by
  refine ⟨valid.counted,?_,?_⟩
  · intro j
    by_cases same : j = i
    · subst same
      simp only [Function.update_self]
      exact SessionMachine.handshake_preserved _ (valid.started j) one.2
    · simp only [Function.update_of_ne same]
      exact valid.started j
  · have moved : expected { s with sessions := Function.update s.sessions i next } (.flush i) =
        owned next.flusher := by simp [expected]
    have other : ∀ thread, thread ≠ .flush i →
        expected { s with sessions := Function.update s.sessions i next } thread = expected s thread := by
      intro thread different
      cases thread with
      | flush j =>
        have apart : j ≠ i := fun same => different (congrArg Thread.flush same)
        simp [expected,Function.update_of_ne apart]
      | _ => rfl
    intro thread
    by_cases acting : thread = threadOf i action
    · subst acting
      simp only [Function.update_self]
      rw [settle_append,valid.settled,Option.bind_some]
      cases flushing : SessionMachine.flushes action with
      | true =>
        simp only [threadOf,flushing,if_true]
        exact (flush_settles one flushing).trans (congrArg some moved.symm)
      | false =>
        simp only [threadOf,flushing,Bool.false_eq_true,if_false]
        exact (receive_settles (valid.started i) one flushing).1
    · simp only [Function.update_of_ne acting]
      rw [valid.settled]
      by_cases flush : thread = .flush i
      · subst flush
        have receiving : SessionMachine.flushes action = false := by
          rw [← Bool.not_eq_true]
          intro flushing
          exact acting (by simp [threadOf,flushing])
        have kept := (receive_settles (valid.started i) one receiving).2
        exact congrArg some (kept.symm.trans moved.symm)
      · exact congrArg some (other thread flush).symm

theorem work_sound (valid : Sound s) (counted : guards.Counted)
    (others : ∀ other, other ≠ thread → guards.live.lookup other = s.guards.live.lookup other)
    (settled : settle (guards.live.lookup thread) rest = some (expected s thread)) :
    Sound { s with guards, pending := Function.update s.pending thread rest } := by
  refine ⟨counted,valid.started,?_⟩
  intro other
  by_cases same : other = thread
  · subst same
    simp only [Function.update_self]
    exact settled
  · simp only [Function.update_of_ne same,others other same]
    exact valid.settled other

theorem sound_preserved (valid : Sound s) (one : Step settings s action next) : Sound next := by
  cases one with
  | session ready one => exact session_sound settings valid one
  | request ready =>
    refine work_sound valid valid.counted (fun _ _ => rfl) ?_
    rw [valid.lookup_idle ready]
    exact handle_balanced _ _ _ _
  | direct ready =>
    refine work_sound valid valid.counted (fun _ _ => rfl) ?_
    rw [valid.lookup_idle ready]
    rfl
  | construct head ran answer =>
    have settled := valid.settled_at head
    refine work_sound valid (Guards.counted_step valid.counted ran).1 ?_ ?_
    · intro other different
      cases ran with
      | construct fresh ran => exact AList.lookup_insert_ne different
    · rw [answer]
      exact (settle_construct settled).2
  | begin head =>
    have settled := valid.settled_at head
    refine work_sound valid valid.counted (fun _ _ => rfl) ?_
    obtain ⟨held,rest⟩ := settle_inference (.inl rfl) settled
    rw [held]
    exact rest
  | finish head =>
    have settled := valid.settled_at head
    refine work_sound valid valid.counted (fun _ _ => rfl) ?_
    obtain ⟨held,rest⟩ := settle_inference (.inr rfl) settled
    rw [held]
    exact rest
  | destroy head ran =>
    have settled := valid.settled_at head
    refine work_sound valid (Guards.counted_step valid.counted ran).1 ?_ ?_
    · intro other different
      cases ran with
      | destroy present => exact AList.lookup_erase_ne different
    · cases ran with
      | destroy present =>
        rw [AList.lookup_erase]
        exact settle_destroy settled
  | setMaxConcurrency ran =>
    refine ⟨(Guards.counted_step valid.counted ran).1,valid.started,?_⟩
    cases ran with
    | setMaxConcurrency => exact valid.settled

theorem runs_sound (path : Runs settings (initial limit now) trace s) : Sound s :=
  path.invariant (initial_sound limit now) (fun valid one => sound_preserved settings valid one)

-- A thread in whisper_full_with_state has a slot, so there are at most as many
-- of them as slots are taken.
theorem executing_holds (valid : Sound s) (running : executing s thread) :
    s.guards.live.lookup thread = some true := by
  unfold executing at running
  cases work : s.pending thread with
  | nil => rw [work] at running; cases running
  | cons first rest =>
    rw [work] at running
    exact (settle_inference (.inr (Option.some.inj running)) (valid.settled_at work)).1

theorem executing_length {threads : List Thread} (valid : Sound s) (distinct : threads.Nodup)
    (running : ∀ thread ∈ threads, executing s thread) : threads.length ≤ s.guards.granted := by
  let guardOf (thread : Thread) : Sigma fun _ : Thread => Bool := ⟨thread,true⟩
  have apart : (threads.map guardOf).Nodup :=
    distinct.map (fun _ _ same => (Sigma.mk.inj same).1)
  have included : threads.map guardOf ⊆ s.guards.live.entries.filter Sigma.snd := by
    intro entry present
    obtain ⟨thread,member,rfl⟩ := List.mem_map.mp present
    have held := AList.mem_lookup_iff.mp (executing_holds valid (running thread member))
    exact List.mem_filter.mpr ⟨held,rfl⟩
  calc threads.length = (threads.map guardOf).length := List.length_map guardOf |>.symm
    _ ≤ (s.guards.live.entries.filter Sigma.snd).length := (List.subperm_of_subset apart included).length_le
    _ = s.guards.granted := List.countP_eq_length_filter.symm

theorem guards_step (one : Step settings s action next) :
    next.guards = s.guards ∨ ∃ taken, s.guards.Step taken next.guards := by
  cases one with
  | session | request | direct | begin | finish => exact .inl rfl
  | construct head ran answer => exact .inr ⟨_,ran⟩
  | destroy head ran => exact .inr ⟨_,ran⟩
  | setMaxConcurrency ran => exact .inr ⟨_,ran⟩

theorem limit_positive (path : Runs settings (initial limit now) trace s) :
    0 < s.guards.limiter.maxConcurrent.val := by
  refine path.invariant (I := fun s => 0 < s.guards.limiter.maxConcurrent.val)
    (InferenceLimiter.setMaxConcurrency_positive .create limit (by decide)) ?_
  intro s action next positive one
  rcases guards_step settings one with same | ⟨taken,ran⟩
  · rw [same]; exact positive
  · exact Guards.positive_step positive ran

theorem active_bounded (path : Runs settings (initial limit now) trace s) (positive : 0 ≤ bound)
    (constant : ∀ entry ∈ trace, entry.1.guards.limiter.maxConcurrent.val = bound) :
    s.guards.limiter.activeCount ≤ bound := by
  have within : s.guards.Counted ∧ s.guards.limiter.activeCount ≤ bound := by
    refine path.guarded (I := fun s => s.guards.Counted ∧ s.guards.limiter.activeCount ≤ bound)
      (C := fun s _ => s.guards.limiter.maxConcurrent.val = bound) constant ⟨?_,?_⟩ ?_
    · exact (initial_sound limit now).counted
    · rw [show (initial limit now).guards.limiter.activeCount = 0 from
        InferenceLimiter.create.setMaxConcurrency_activeCount limit]
      exact positive
    · intro s action next ⟨counted,below⟩ same one
      rcases guards_step settings one with kept | ⟨taken,ran⟩
      · rw [kept]; exact ⟨counted,below⟩
      · obtain ⟨still,lawful⟩ := Guards.counted_step counted ran
        rw [← same] at below ⊢
        exact ⟨still,Guards.bounded_step lawful below⟩
  exact within.2

-- A stretch of one session's run that owes nothing is a stretch of the whole
-- system's.
def plain : SessionMachine.Action → Bool
  | .cycle .. | .relock _ | .finalPass .. => false
  | _ => true

theorem plain_work (params : SessionParams) (s : SessionMachine.State) (flusher : Flusher)
    (owes : plain action = true) : sessionWork params s flusher action = [] := by
  cases action with
  | cycle | relock | finalPass => cases owes
  | _ => rfl

theorem lift_plain (path : SessionMachine.Runs (settings i) (s.sessions i) trace after)
    (quiet : ∀ entry ∈ trace, plain entry.2 = true) (idle : ∀ thread, s.pending thread = []) :
    ∃ lifted, Runs settings s lifted { s with sessions := Function.update s.sessions i after } ∧
      ∀ entry ∈ lifted, ∃ action, plain action = true ∧ entry.2 = .session i action := by
  generalize start : s.sessions i = origin at path
  induction path with
  | nil =>
    refine ⟨[],?_,List.forall_mem_nil _⟩
    rw [← start,Function.update_eq_self]
    exact .nil
  | @step trace middle action after prior one ih =>
    obtain ⟨lifted,reached,plainly⟩ :=
      ih (fun entry member => quiet entry (List.mem_append_left _ member))
    have owes : plain action = true := quiet (middle,action) (by simp)
    let before : State := { s with sessions := Function.update s.sessions i middle }
    have here : before.sessions i = middle := Function.update_self i middle s.sessions
    have taken : Step settings before (.session i action) _ :=
      .session (.inr (idle _)) (here.symm ▸ one)
    rw [plain_work _ _ _ owes,List.append_nil,Function.update_eq_self] at taken
    rw [show Function.update before.sessions i after = Function.update s.sessions i after from
      Function.update_idem middle after s.sessions] at taken
    refine ⟨_,reached.step taken,?_⟩
    intro entry present
    rcases List.mem_append.mp present with old | last
    · exact plainly entry old
    · cases List.mem_singleton.mp last
      exact ⟨action,owes,rfl⟩

theorem inference_slots :
    (∀ (Owner : Type) [DecidableEq Owner] trace (g : Guards Owner), Guards.Runs .initial trace g →
      g.limiter.activeCount = g.granted ∧
        ∀ action next, Guards.Step g action next → Guards.Lawful g next action) ∧
    ∀ settings limit now trace s, Runs settings (initial limit now) trace s →
      (∀ entry ∈ trace, entry.1.guards.limiter.maxConcurrent = s.guards.limiter.maxConcurrent) →
        ∀ threads : List Thread, threads.Nodup → (∀ thread ∈ threads, executing s thread) →
          (threads.length : Int) ≤ s.guards.limiter.maxConcurrent.val := by
  refine ⟨?_,?_⟩
  · intro Owner _ trace g path
    have counted := Guards.runs_counted path
    refine ⟨counted,?_⟩
    intro action next one
    exact (Guards.counted_step counted one).2
  · intro settings limit now trace s path constant threads distinct running
    have valid := runs_sound settings path
    have taken : threads.length ≤ s.guards.granted := executing_length valid distinct running
    have bounded : s.guards.limiter.activeCount ≤ s.guards.limiter.maxConcurrent.val :=
      active_bounded settings path (Int.le_of_lt (limit_positive settings path))
        (fun entry present => congrArg Subtype.val (constant entry present))
    have counted : s.guards.limiter.activeCount = s.guards.granted := valid.counted
    omega

theorem inference_slots_direct :
    (∃ trace, ∃ g : Guards Nat, Guards.Runs .initial trace g ∧ g.limiter.activeCount = 1 ∧
      g.limiter.activeCount = g.granted) ∧
    ∃ trace s, Runs (fun _ => SessionMachine.defaultParams) (initial ⟨1,by decide⟩ fun _ => 0) trace s ∧
      executing s (.direct 0) ∧
      ([Thread.direct 0].length : Int) ≤ s.guards.limiter.maxConcurrent.val := by
  refine ⟨?_,?_⟩
  · have one : Guards.Step (.initial : Guards Nat) (.construct 0 .guard) ⟨InferenceLimiter.create.claim,_⟩ :=
      .construct (AList.notMem_empty 0) (by rfl : _ = some (_,true))
    have path := Machine.Runs.single one
    exact ⟨_,_,path,rfl,(inference_slots.1 Nat _ _ path).1⟩
  · let start := initial ⟨1,by decide⟩ fun _ => 0
    let called : State := { start with pending := Function.update start.pending (.direct 0) directWork }
    let guards : Guards Thread := ⟨start.guards.limiter.claim,start.guards.live.insert (.direct 0) true⟩
    let granted : State := { called with
      guards, pending := Function.update called.pending (.direct 0) [.infer,.destroy] }
    let running : State := { granted with
      pending := Function.update granted.pending (.direct 0) [.inferring,.destroy] }
    have first : Step (fun _ => SessionMachine.defaultParams) start (.direct 0) called := .direct rfl
    have second : Step (fun _ => SessionMachine.defaultParams) called (.work (.direct 0)) granted :=
      .construct rfl (.construct (AList.notMem_empty _) rfl) (AList.lookup_insert _)
    have third : Step (fun _ => SessionMachine.defaultParams) granted (.work (.direct 0)) running :=
      .begin rfl
    have path : Runs (fun _ => SessionMachine.defaultParams) start _ running :=
      .step (.step (.step .nil first) second) third
    refine ⟨_,running,path,rfl,inference_slots.2 _ _ _ _ _ path ?_ _ (List.nodup_singleton _) ?_⟩
    · intro entry present
      simp only [List.nil_append,List.mem_append,List.mem_singleton] at present
      rcases present with (rfl | rfl) | rfl
      all_goals rfl
    · intro thread present
      cases List.mem_singleton.mp present
      rfl

end JotaTranscriber.InferenceSlots

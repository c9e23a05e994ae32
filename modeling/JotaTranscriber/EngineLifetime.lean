import JotaTranscriber.SessionRuns

namespace JotaTranscriber.EngineLifetime
open SessionMachine StreamingSession FlushLoop

-- The engine a cycle goes on to dereference once its window is over: always
-- for the pass itself, and after an ended episode if the pass committed text.
def expects : Continuation → Option Nat
  | .infer cycleEngine _ => some cycleEngine
  | .resume cycleEngine _ result | .clear cycleEngine _ result =>
    if result.committedText.isEmpty then none else some cycleEngine
  | .skip | .finish => none

def window : Flusher → Option Nat
  | .sending _ next | .relocking next => expects next
  | _ => none

-- The receive thread replaces or resets engine_: a config that goes through,
-- or run() giving the model back.
def disturbs (s : State) : Action → Bool
  | .install => true
  | .release | .destroyRelease => s.session.modelAcquired
  | _ => false

def undisturbed (s : State) (action : Action) : Bool :=
  (window s.flusher).isNone || !disturbs s action

def installed (session : StreamingSession) : Option Nat := session.engine.map OwnedEngine.id

theorem installed_some (present : StreamingSession.engine session = some owned) :
    installed session = some owned.id := by
  simp [installed,present]

def Reads (events : List Event) : Prop :=
  ∀ cycleEngine found, .dereferenced cycleEngine found ∈ events → found = some cycleEngine

structure Stable (done : Flushed) : Prop where
  reads : Reads done.events
  window : ∀ cycleEngine, window done.next = some cycleEngine → installed done.session = some cycleEngine

theorem reads_nil : Reads [] := fun _ _ present => by cases present

theorem reads_append (earlier : Reads log) (later : Reads new) : Reads (log ++ new) := by
  intro cycleEngine found present
  rcases List.mem_append.mp present with old | last
  · exact earlier cycleEngine found old
  · exact later cycleEngine found last

theorem reads_own (cycleEngine : Nat) : Reads [.dereferenced cycleEngine (some cycleEngine)] := by
  intro found_engine found present
  cases List.mem_singleton.mp present
  rfl

theorem accumulate_stable (session : StreamingSession) (cycleEngine currentSize : Nat)
    (result : TranscribeResult)
    (same : result.committedText.isEmpty = false → installed session = some cycleEngine) :
    Stable (accumulate session cycleEngine currentSize result) := by
  constructor
  · simp only [accumulate]
    split
    · rename_i committed
      rw [show session.engine.map OwnedEngine.id = _ from same (by simpa using committed)]
      exact reads_own cycleEngine
    · exact reads_nil
  · intro expected opened
    rcases accumulate_next session cycleEngine currentSize result with waits | ⟨faults,_⟩ | sends
    · rw [waits] at opened; cases opened
    · rw [faults] at opened; cases opened
    · rw [sends] at opened; cases opened

theorem afterPass_stable (session : StreamingSession) (owned : OwnedEngine) (currentSize : Nat)
    (result : TranscribeResult) (present : session.engine = some owned) :
    Stable (afterPass session owned owned.id currentSize result) := by
  have own := installed_some present
  rcases afterPass_cases session owned owned.id currentSize result with
    ⟨_,_,message,next,opened,kind⟩ | ⟨_,reads,kind,direct⟩
  · rw [opened]
    refine ⟨reads_own owned.id,?_⟩
    intro expected pending
    have asked : expects next = some expected := pending
    rcases kind with ⟨_,rfl⟩ | ⟨_,rfl⟩
    all_goals
      simp only [expects] at asked
      split at asked
      · cases asked
      · cases asked; exact own
  · rw [direct]
    obtain ⟨later,pending⟩ := accumulate_stable session owned.id currentSize result (fun _ => own)
    refine ⟨reads_append ?_ later,pending⟩
    rcases kind with rfl | rfl
    · exact reads_nil
    · exact reads_own owned.id

theorem inferPass_stable (session : StreamingSession) (cycleEngine currentSize : Nat)
    (outcome : Outcome) (same : installed session = some cycleEngine) :
    Stable (inferPass session cycleEngine currentSize outcome) := by
  rcases inferPass_cases session cycleEngine currentSize outcome with
    ⟨missing,_⟩ | ⟨owned,used,present,kind⟩
  · simp [installed,missing] at same
  · have own : owned.id = cycleEngine := by simpa [installed,present] using same
    subst own
    rcases kind with ⟨error,_,fails⟩ | ⟨result,_,passed⟩
    · rw [fails]
      exact ⟨reads_own owned.id,fun _ opened => by cases opened⟩
    · obtain ⟨later,pending⟩ := afterPass_stable
        { session with engine := some ⟨owned.id,used⟩ } ⟨owned.id,used⟩ currentSize result rfl
      rw [passed]
      refine ⟨reads_append ?_ later,pending⟩
      intro expected found present
      simp only [List.mem_cons,Event.dereferenced.injEq,reduceCtorEq,List.not_mem_nil,or_false] at present
      rw [present.1,present.2]

theorem cycle_stable (ran : cycle params session now slot outcome = done) : Stable done := by
  subst ran
  rcases cycle_cases params session now slot outcome with
    ⟨quiet,_⟩ | ⟨owned,present,_,_,⟨_,_,busy⟩ | ⟨_,_,free⟩ | ⟨_,_,direct⟩⟩
  · rw [quiet]; exact ⟨reads_nil,fun _ opened => by cases opened⟩
  · rw [busy]; exact ⟨reads_nil,fun _ opened => by cases opened⟩
  · rw [free]
    refine ⟨reads_nil,fun expected opened => ?_⟩
    cases opened
    exact installed_some (show (watchdog params session now).engine = some owned from present)
  · rw [direct]
    exact inferPass_stable _ _ _ _ (installed_some present)

theorem relock_stable (ran : relock session outcome next = done)
    (same : ∀ cycleEngine, expects next = some cycleEngine → installed session = some cycleEngine) :
    Stable done := by
  subst ran
  cases next with
  | skip => exact ⟨reads_nil,fun _ opened => by cases opened⟩
  | infer cycleEngine currentSize => exact inferPass_stable _ _ _ _ (same cycleEngine rfl)
  | resume cycleEngine currentSize result => exact ⟨reads_nil,same⟩
  | clear cycleEngine currentSize result =>
    apply accumulate_stable
    intro committed
    exact same cycleEngine (by simp [expects,committed])
  | finish => exact ⟨reads_nil,fun _ opened => by cases opened⟩

-- Every engine a window expects is still installed, and no dereference so far
-- found another.
structure Lifetime (s : State) : Prop where
  reads : Reads s.log
  window : ∀ cycleEngine, window s.flusher = some cycleEngine → installed s.session = some cycleEngine

theorem reads_step (move : Move params s action next)
    (cycles : ∀ slot outcome, action ≠ .cycle slot outcome)
    (relocks : ∀ outcome, action ≠ .relock outcome) :
    ∃ new, next.log = s.log ++ new ∧ Reads new := by
  obtain ⟨new,extended,logged⟩ := log_step params move
  refine ⟨new,extended,?_⟩
  intro cycleEngine found present
  have kind := logged _ present
  cases action <;> first | exact absurd rfl (cycles _ _) | exact absurd rfl (relocks _) | cases kind

theorem installed_step (allowed : undisturbed s action = true) (move : Move params s action next)
    (pending : window s.flusher = some cycleEngine) :
    installed next.session = installed s.session := by
  have calm : disturbs s action = false := by simpa [undisturbed,pending] using allowed
  rcases session_step params move with frame | ⟨rfl,_⟩ | ⟨_,failed,_⟩ | ⟨released,⟨rfl,_⟩ | ⟨rfl,_⟩⟩
  · exact frame.engine
  · cases calm
  · rw [failed]; rfl
  all_goals
    have nothing : s.session.releaseModel.1 = s.session := by
      simp [releaseModel,show s.session.modelAcquired = false from calm]
    rw [released,nothing]

theorem stays_or_rests (move : Move params s action next)
    (cycles : ∀ slot outcome, action ≠ .cycle slot outcome)
    (relocks : ∀ outcome, action ≠ .relock outcome) :
    window next.flusher = none ∨ window next.flusher = window s.flusher := by
  cases move with
  | cycle => exact absurd rfl (cycles _ _)
  | relock => exact absurd rfl (relocks _)
  | flushSend pc => exact .inr (by rw [pc]; rfl)
  | accept | wake | exit | tryLockFails => exact .inl rfl
  | _ => exact .inr rfl

theorem lifetime_preserved (lifetime : Lifetime s) (allowed : undisturbed s action = true)
    (move : Move params s action next) : Lifetime next := by
  by_cases cycles : ∃ slot outcome, action = .cycle slot outcome
  · obtain ⟨slot,outcome,rfl⟩ := cycles
    cases move with
    | cycle pc ran =>
      have stable := cycle_stable ran
      exact ⟨reads_append lifetime.reads stable.reads,stable.window⟩
  by_cases relocks : ∃ outcome, action = .relock outcome
  · obtain ⟨outcome,rfl⟩ := relocks
    cases move with
    | relock pc ran =>
      have stable := relock_stable ran (fun cycleEngine expected =>
        lifetime.window cycleEngine (by rw [pc]; exact expected))
      exact ⟨reads_append lifetime.reads stable.reads,stable.window⟩
  have no_cycle : ∀ slot outcome, action ≠ .cycle slot outcome :=
    fun slot outcome same => cycles ⟨slot,outcome,same⟩
  have no_relock : ∀ outcome, action ≠ .relock outcome := fun outcome same => relocks ⟨outcome,same⟩
  obtain ⟨new,extended,quiet⟩ := reads_step move no_cycle no_relock
  refine ⟨by rw [extended]; exact reads_append lifetime.reads quiet,?_⟩
  intro cycleEngine pending
  rcases stays_or_rests move no_cycle no_relock with rests | stays
  · rw [rests] at pending; cases pending
  · rw [stays] at pending
    rw [installed_step allowed move pending]
    exact lifetime.window cycleEngine pending

-- As long as the receive thread leaves engine_ alone while a window expects it,
-- every dereference finds the engine the cycle began with.
theorem flush_reads_cycle_engine (path : Runs params (initial now) trace s)
    (calm : ∀ entry ∈ trace, undisturbed entry.1 entry.2 = true) :
    ∀ cycleEngine found, .dereferenced cycleEngine found ∈ s.log → found = some cycleEngine := by
  have lifetime : Lifetime s := path.guarded (I := Lifetime) calm
    ⟨reads_nil,fun _ pending => by cases pending⟩
    (fun valid allowed one => lifetime_preserved valid allowed one.2)
  exact lifetime.reads

theorem flush_reads_cycle_engine_once : ∃ trace s, Runs defaultParams (initial 0) trace s ∧
    (∀ entry ∈ trace, undisturbed entry.1 entry.2 = true) ∧
    .dereferenced 0 (some 0) ∈ s.log ∧
    ∀ cycleEngine found, .dereferenced cycleEngine found ∈ s.log → found = some cycleEngine := by
  obtain ⟨longer,trace,size,_,_,path,calm⟩ := awake_run undisturbed rfl rfl (fun _ => rfl)
  let awake := awakeState longer
  rcases ran : cycle defaultParams awake.session awake.clock true silence with ⟨session,next,events⟩
  have passes : Step defaultParams awake (.cycle true silence) { awake with
      session := session, flusher := next, log := awake.log ++ events } := ⟨rfl,.cycle rfl ran⟩
  have all_calm : ∀ entry ∈ trace ++ [(awake,.cycle true silence)],
      undisturbed entry.1 entry.2 = true := by
    intro entry present
    rcases List.mem_append.mp present with before | last
    · exact calm entry before
    · cases List.mem_singleton.mp last; rfl
  have whole := path.step passes
  have read : .dereferenced 0 (some 0) ∈ events := by
    have passed := heard_pass longer size silence
    rw [show cycle defaultParams (heardState longer).session 0 true silence = _ from ran] at passed
    rw [show events = _ from congrArg Flushed.events passed]
    rcases inferPass_cases (heardState longer).session 0 longer.getBufferSize silence with
      ⟨missing,_⟩ | ⟨owned,used,present,⟨error,_,fails⟩ | ⟨result,_,passes⟩⟩
    · cases missing
    · cases present; rw [fails]; exact List.mem_singleton_self _
    · cases present; rw [passes]; exact List.mem_cons_self
  exact ⟨_,_,whole,all_calm,List.mem_append_right _ read,flush_reads_cycle_engine whole all_calm⟩

-- The client disconnects while flushLoop reports the end of a busy phase.
theorem disconnect_in_window_faults : ∃ trace s,
    trace.map Prod.snd = configSchedule ++ [.binary (frame 32000),.wake,.cycle false silence,.flushSend,
      .relock silence,.wake,.cycle true silence,.readFails,.release,.flushSend,.relock silence] ∧
    Runs defaultParams (initial 0) trace s ∧ s.flusher = .faulted ∧ .dereferenced 0 none ∈ s.log := by
  obtain ⟨longer,trace,size,_,heard,path,_⟩ := awake_run (fun _ _ => true) rfl rfl (fun _ => rfl)
  let busy : State := { heardState longer with
    session := { (heardState longer).session with capacityDegraded := true }
    flusher := .sending .statusBusy .skip
    log := (heardState longer).log ++ [] }
  let awake : State := { busy with flusher := .awake, log := busy.log ++ [.sent .statusBusy] ++ [] }
  let opened : State := { awake with
    session := (heardState longer).session
    flusher := .sending .statusOk (.infer 0 longer.getBufferSize)
    log := awake.log ++ [] }
  have first : Step defaultParams (awakeState longer) (.cycle false silence) busy :=
    ⟨rfl,.cycle rfl (heard_busy longer size silence)⟩
  obtain ⟨middle,actions,between⟩ := run_sound defaultParams
    (show run defaultParams busy [.flushSend,.relock silence,.wake] = some awake from rfl)
  have second : Step defaultParams awake (.cycle true silence) opened :=
    ⟨rfl,.cycle rfl (heard_free longer size silence)⟩
  obtain ⟨s,ran,faulted,read⟩ : ∃ s, run defaultParams opened
      [.readFails,.release,.flushSend,.relock silence] = some s ∧ s.flusher = .faulted ∧
      s.log = opened.log ++ [.released] ++ [.sent .statusOk] ++ [.dereferenced 0 none] :=
    ⟨_,rfl,rfl,rfl⟩
  obtain ⟨rest,later,last⟩ := run_sound defaultParams ran
  refine ⟨_,s,?_,((path.step first).append (.step between second)).append last,faulted,
    by rw [read]; simp⟩
  simp [heard,actions,later]

end JotaTranscriber.EngineLifetime

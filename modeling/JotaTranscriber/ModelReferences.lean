import JotaTranscriber.SessionRuns

namespace JotaTranscriber.ModelReferences
open SessionMachine StreamingSession

def isAcquired : Event → Bool
  | .acquired _ => true
  | _ => false

def acquired (log : List Event) : Nat := log.countP isAcquired
def released (log : List Event) : Nat := log.count .released

def isAcquire : Action → Bool
  | .acquire _ => true
  | _ => false

inductive Stage where
  | serving
  | configuring
  | gone

def stage : Receiver → Stage
  | .configuring _ => .configuring
  | .returned | .destroying | .releasing | .destroyed => .gone
  | _ => .serving

-- model_acquired_ stands for one reference however many were taken, and
-- run() gives that one back.
def Counted (s : State) : Prop :=
  match stage s.receiver with
  | .serving => released s.log = 0 ∧ (s.session.modelAcquired = true ↔ 1 ≤ acquired s.log)
  | .configuring => released s.log = 0 ∧ 1 ≤ acquired s.log
  | .gone => s.session.modelAcquired = false ∧ released s.log = min 1 (acquired s.log)

theorem stage_sendThen (messages : List ServerMessage) (next : AfterSend) :
    stage (sendThen messages next) = .serving := by
  rcases sendThen_cases messages next with ⟨_,⟨_,reads⟩ | ⟨_,_,closes⟩⟩ | ⟨_,sends⟩
  · rw [reads]; rfl
  · rw [closes]; rfl
  · rw [sends]; rfl

def touchesModel : Action → Bool
  | .acquire _ | .install | .installFails _ | .release | .destroyRelease => true
  | _ => false

theorem stage_preserved (move : Move params s action next) (other : touchesModel action = false) :
    stage next.receiver = stage s.receiver := by
  cases move with
  | text pc _ ran =>
    rw [pc]
    rcases handleJsonMessage_cases ran with
      ⟨_,_,_,_,rfl,_⟩ | ⟨_,_,rfl,_⟩ | ⟨_,rfl,_⟩ | ⟨_,rfl⟩ <;> rfl
  | binary pc _ ran =>
    rw [pc]
    obtain ⟨_,_,_,⟨_,rfl | rfl | ⟨rfl,_⟩⟩ | ⟨_,_,messages,_,rfl⟩⟩ := handleBinaryMessage_cases ran
    · rfl
    · rfl
    · rfl
    · exact stage_sendThen messages .read
  | send pc => rw [pc]; exact stage_sendThen _ _
  | @close _ failed kind pc => rw [pc]; cases kind <;> cases failed <;> rfl
  | finalPass pc ran =>
    rw [pc]
    rcases handleEnd_cases ran with ⟨_,rfl,_⟩ | ⟨_,_,_,_,_,_,rfl⟩ <;> rfl
  | accept pc | acceptFails pc | readFails pc | acquireFails pc | join pc | destroy pc
  | destroyJoin pc => rw [pc]; rfl
  | acquire | install | installFails | release | destroyRelease => cases other
  | tick | wake | exit | tryLockFails | cycle | flushSend | relock => rfl

theorem modelAcquired_preserved (move : Move params s action next)
    (other : touchesModel action = false) :
    next.session.modelAcquired = s.session.modelAcquired := by
  rcases session_step params move with frame | ⟨rfl,_⟩ | ⟨⟨_,rfl⟩,_⟩ | ⟨_,⟨rfl,_⟩ | ⟨rfl,_⟩⟩
  · exact frame.modelAcquired
  all_goals cases other

theorem acquired_step (move : Move params s action next) :
    acquired next.log = acquired s.log + if isAcquire action then 1 else 0 := by
  by_cases acquires : isAcquire action = true
  · cases move with
    | acquire pc => simp [acquired,isAcquired,isAcquire]
    | _ => cases acquires
  · rw [if_neg acquires,Nat.add_zero]
    refine countP_step params move isAcquired ?_
    intro event logged
    cases event with
    | acquired =>
      cases action with
      | acquire => exact absurd rfl acquires
      | _ => cases logged
    | _ => rfl

theorem released_step (move : Move params s action next) (other : touchesModel action = false) :
    released next.log = released s.log := by
  refine countP_step params move (· == .released) ?_
  intro event logged
  cases event with
  | released =>
    cases action with
    | release | destroyRelease => cases other
    | _ => cases logged
  | _ => rfl

theorem counted_preserved (counted : Counted s) (move : Move params s action next) : Counted next := by
  by_cases other : touchesModel action = false
  · have same := acquired_step move
    have kept : isAcquire action = false := by cases action <;> first | rfl | cases other
    rw [kept] at same
    unfold Counted
    rw [stage_preserved move other,modelAcquired_preserved move other,released_step move other,
      show acquired next.log = acquired s.log from same]
    exact counted
  · cases move with
    | acquire pc =>
      simp only [Counted,pc,stage] at counted
      simp [Counted,stage,released,acquired,isAcquired] at counted ⊢
      exact counted.1
    | install pc =>
      simp only [Counted,pc,stage] at counted
      simpa [Counted,stage,released,acquired,isAcquired,StreamingSession.install] using counted
    | installFails pc =>
      simp only [Counted,pc,stage] at counted
      simpa [Counted,stage,configFailed,sendError,installFailed] using counted
    | release pc ran =>
      simp only [Counted,pc,stage] at counted
      obtain ⟨none_yet,held⟩ := counted
      rcases releaseModel_cases ran with ⟨holds,rfl,rfl⟩ | ⟨holds,rfl,rfl⟩
      · have some_acquired := held.mp holds
        refine ⟨rfl,?_⟩
        simp only [released,acquired] at none_yet some_acquired ⊢
        simp [none_yet,isAcquired,some_acquired]
      · have none_acquired : ¬ 1 ≤ acquired s.log := fun some_acquired => by
          rw [held.mpr some_acquired] at holds
          cases holds
        refine ⟨holds,?_⟩
        simp only [List.append_nil,none_yet]
        omega
    | destroyRelease pc ran =>
      simp only [Counted,pc,stage] at counted
      rcases releaseModel_cases ran with ⟨holds,_,_⟩ | ⟨_,rfl,rfl⟩
      · rw [counted.1] at holds; cases holds
      · simpa [Counted,stage] using counted
    | _ => exact absurd rfl other

theorem runs_counted (path : Runs params (initial now) trace s) : Counted s :=
  path.invariant (by simp [Counted,initial,stage,released,acquired,create])
    (fun counted one => counted_preserved counted one.2)

theorem runs_acquired (path : Runs params (initial now) trace s) :
    acquired s.log = trace.countP (fun entry => isAcquire entry.2) :=
  path.history (I := fun trace s => acquired s.log = trace.countP fun entry => isAcquire entry.2)
    (C := fun _ _ => True) (fun _ _ => trivial) rfl
    (fun _ counted _ one => by
      rw [acquired_step one.2,counted,List.countP_append,List.countP_singleton])

-- run() gives back one reference: the balance is kept by sessions in which at
-- most one acquire succeeded, and by no others.
theorem references_balanced_iff (path : Runs params (initial now) trace s)
    (gone : s.receiver = .destroyed) :
    released s.log = acquired s.log ↔ trace.countP (fun entry => isAcquire entry.2) ≤ 1 := by
  have counted := runs_counted path
  simp only [Counted,gone,stage] at counted
  rw [← runs_acquired path]
  omega

def teardown : List Action :=
  [.readFails,.release,.destroy,.exit,.destroyJoin,.destroyRelease]

theorem references_balanced_single_config : ∃ trace s, Runs defaultParams (initial 0) trace s ∧
    s.receiver = .destroyed ∧ acquired s.log = 1 ∧
    (released s.log = acquired s.log ↔ trace.countP (fun entry => isAcquire entry.2) ≤ 1) := by
  obtain ⟨s,ran,gone,once⟩ : ∃ s, run defaultParams (initial 0) (configSchedule ++ teardown) = some s ∧
      s.receiver = .destroyed ∧ acquired s.log = 1 := ⟨_,rfl,rfl,rfl⟩
  obtain ⟨trace,_,path⟩ := run_sound defaultParams ran
  exact ⟨trace,s,path,gone,once,references_balanced_iff path gone⟩

-- A second config takes a second reference that nothing gives back.
theorem double_config_leaks : ∃ trace s,
    trace.map Prod.snd = configSchedule ++
      [.text configPayload emptyView,.acquire 0,.install,.send] ++ teardown ∧
    Runs defaultParams (initial 0) trace s ∧ s.receiver = .destroyed ∧
    acquired s.log = 2 ∧ released s.log = 1 := by
  obtain ⟨s,ran,gone,counts⟩ : ∃ s, run defaultParams (initial 0) (configSchedule ++
      [.text configPayload emptyView,.acquire 0,.install,.send] ++ teardown) = some s ∧
      s.receiver = .destroyed ∧ acquired s.log = 2 ∧ released s.log = 1 := ⟨_,rfl,rfl,rfl,rfl⟩
  obtain ⟨trace,same,path⟩ := run_sound defaultParams ran
  exact ⟨trace,s,same,path,gone,counts⟩

end JotaTranscriber.ModelReferences

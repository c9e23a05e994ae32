import JotaTranscriber.SessionRuns

-- When the idle watchdog shuts a session's socket down.
namespace JotaTranscriber.IdleWatchdog
open SessionMachine StreamingSession

variable (params : SessionParams)

-- A binary frame that gets as far as the engine.
def hears (session : StreamingSession) (now : Instant) (data : List UInt8) : Bool :=
  decide (data.length ≤ maxFrameBytes) && decide (4 ≤ data.length) && session.configured &&
    decide (data.length % 4 = 0) &&
    !(decide ((now - session.rateLimitStart).tdiv (seconds 1) ≥ 3) &&
      decide (session.bytesReceivedInWindow + data.length > maxBytesPerWindow)) &&
    session.engine.isSome

-- What counts as a sign of life: audio, even if it is dropped, and a config.
def lives (s : State) : Action → Bool
  | .binary payload => hears s.session s.clock payload
  | .install => true
  | _ => false

def lastLife (now : Instant) (trace : List (State × Action)) : Instant :=
  (((trace.filter fun entry => lives entry.1 entry.2).getLast?).map fun entry => entry.1.clock).getD now

def fires (s : State) : Action → Bool
  | .cycle _ _ => decide (0 < params.sessionTimeoutSec.val) &&
      decide (seconds params.sessionTimeoutSec.val ≤ s.clock - s.session.lastAudioTime)
  | _ => false

theorem processAudioChunk_life (session : StreamingSession) (now : Instant) (audio : List Sample) :
    (session.processAudioChunk now audio).1.lastAudioTime =
        (if session.configured && session.engine.isSome then now else session.lastAudioTime) ∧
      (session.processAudioChunk now audio).1.idleShutdownTriggered = session.idleShutdownTriggered := by
  rcases session.processAudioChunk_cases now audio with
    ⟨missing | unready,unchanged⟩ | ⟨owned,present,ready,⟨_,dropped⟩ | ⟨_,taken⟩⟩
  · rw [unchanged]; simp [missing]
  · rw [unchanged]; simp [unready]
  · rw [dropped]; simp [present,ready]
  · rw [taken]; simp [present,ready]

theorem handleBinaryMessage_life
    (ran : handleBinaryMessage params session now data = (after,next)) :
    after.lastAudioTime = (if hears session now data then now else session.lastAudioTime) ∧
      after.idleShutdownTriggered = session.idleShutdownTriggered := by
  unfold handleBinaryMessage at ran
  dsimp only at ran
  split at ran
  · rename_i long
    cases ran
    exact ⟨by simp [hears,long],rfl⟩
  split at ran
  · rename_i short
    cases ran
    exact ⟨by simp [hears,short],rfl⟩
  split at ran
  · rename_i unready
    cases ran
    have unset : session.configured = false := by simpa using unready
    exact ⟨by simp [hears,unset],rfl⟩
  split at ran
  · rename_i ragged
    cases ran
    exact ⟨by simp [hears,ragged],rfl⟩
  split at ran
  · rename_i flooded
    cases ran
    exact ⟨by simp [hears,flooded],rfl⟩
  · rename_i fits enough ready whole calm
    have configured : session.configured = true := by simpa using ready
    cases ran
    have heard : hears session now data = session.engine.isSome := by
      have admitted : (decide ((now - session.rateLimitStart).tdiv (seconds 1) ≥ 3) &&
          decide (session.bytesReceivedInWindow + data.length > maxBytesPerWindow)) = false := by
        rw [← Bool.decide_and]
        exact decide_eq_false calm
      simp [hears,admitted,configured,Nat.not_lt.mp fits,Nat.not_lt.mp enough,not_not.mp whole]
    have life (admitted : StreamingSession) (audio : List Sample) (same : admitted.lastAudioTime = session.lastAudioTime ∧
        admitted.idleShutdownTriggered = session.idleShutdownTriggered ∧ admitted.configured = session.configured ∧
        admitted.engine = session.engine) :
        (admitted.processAudioChunk now audio).1.lastAudioTime =
          (if hears session now data then now else session.lastAudioTime) ∧
        (admitted.processAudioChunk now audio).1.idleShutdownTriggered = session.idleShutdownTriggered := by
      obtain ⟨time,idle,set,engine⟩ := same
      have done := processAudioChunk_life admitted now audio
      rw [time,idle,set,engine,configured,Bool.true_and] at done
      rw [heard]
      exact done
    refine life _ _ ?_
    split <;> exact ⟨rfl,rfl,rfl,rfl⟩

theorem releaseModel_life (ran : StreamingSession.releaseModel session = (after,events)) :
    after.idleShutdownTriggered = session.idleShutdownTriggered := by
  unfold StreamingSession.releaseModel at ran
  split at ran <;> cases ran <;> rfl

theorem inferPass_life (session : StreamingSession) (cycleEngine currentSize : Nat) (outcome : Outcome) :
    (FlushLoop.inferPass session cycleEngine currentSize outcome).session.idleShutdownTriggered =
      session.idleShutdownTriggered := by
  rcases FlushLoop.inferPass_cases session cycleEngine currentSize outcome with
    ⟨_,faults⟩ | ⟨owned,used,_,⟨_,_,fails⟩ | ⟨result,_,passed⟩⟩
  · rw [faults]
  · rw [fails]
  · rw [passed]
    rcases FlushLoop.afterPass_cases { session with engine := some ⟨owned.id,used⟩ } ⟨owned.id,used⟩
        cycleEngine currentSize result with ⟨_,_,_,_,opened,_⟩ | ⟨_,_,_,direct⟩
    · rw [opened]; rfl
    · rw [direct]; rfl

theorem cycle_life (params : SessionParams) (session : StreamingSession) (now : Instant) (slot : Bool)
    (outcome : Outcome) :
    (FlushLoop.cycle params session now slot outcome).session.idleShutdownTriggered =
      (FlushLoop.watchdog params session now).idleShutdownTriggered := by
  rcases FlushLoop.cycle_cases params session now slot outcome with
    ⟨quiet,_⟩ | ⟨owned,_,_,_,⟨_,_,busy⟩ | ⟨_,_,free⟩ | ⟨_,_,direct⟩⟩
  · rw [quiet]
  · rw [busy]
  · rw [free]
  · rw [direct]; exact inferPass_life _ _ _ _

theorem relock_life (session : StreamingSession) (outcome : Outcome) (continuation : Continuation) :
    (FlushLoop.relock session outcome continuation).session.idleShutdownTriggered =
      session.idleShutdownTriggered := by
  cases continuation with
  | infer cycleEngine currentSize => exact inferPass_life _ _ _ _
  | _ => rfl

-- duration_cast rounds towards zero.
theorem seconds_reached {timeout elapsed : Int} (positive : 0 < timeout) :
    timeout ≤ elapsed.tdiv (seconds 1) ↔ seconds timeout ≤ elapsed := by
  constructor
  · intro reached
    by_contra short
    by_cases future : elapsed < 0
    · have none := Int.tdiv_le_tdiv (c := seconds 1) (by decide) (Int.le_of_lt future)
      rw [Int.zero_tdiv] at none
      omega
    · rw [Int.tdiv_eq_ediv_of_nonneg (by omega)] at reached
      simp only [seconds] at reached short
      omega
  · exact Int.le_tdiv_of_mul_le (by decide)

theorem watchdog_fires (s : State) (slot : Bool) (outcome : Outcome) :
    (FlushLoop.watchdog params s.session s.clock).idleShutdownTriggered =
      (s.session.idleShutdownTriggered || fires params s (.cycle slot outcome)) := by
  unfold FlushLoop.watchdog fires
  dsimp only
  by_cases positive : 0 < params.sessionTimeoutSec.val
  · cases shut : s.session.idleShutdownTriggered with
    | true => simp [shut]
    | false =>
      by_cases reached : seconds params.sessionTimeoutSec.val ≤ s.clock - s.session.lastAudioTime
      · simp [positive,reached,(seconds_reached positive).mpr reached]
      · rw [if_neg fun due => reached ((seconds_reached positive).mp due.2.2)]
        simp [reached,shut]
  · simp [positive]

-- One step: a sign of life sets the clock back, and only a cycle that finds the
-- session idle trips the watchdog.
theorem life_step {s next : State} (move : Move params s action next) :
    next.session.lastAudioTime = (if lives s action then s.clock else s.session.lastAudioTime) ∧
      next.session.idleShutdownTriggered = (s.session.idleShutdownTriggered || fires params s action) := by
  cases move with
  | text pc live ran =>
    rcases handleJsonMessage_cases ran with ⟨rfl,_⟩ | ⟨_,rfl,_⟩ | ⟨rfl,_⟩ | ⟨rfl,_⟩
    all_goals exact ⟨rfl,(Bool.or_false _).symm⟩
  | binary pc live ran =>
    obtain ⟨time,idle⟩ := handleBinaryMessage_life params ran
    exact ⟨time,idle.trans (Bool.or_false _).symm⟩
  | install => exact ⟨rfl,(Bool.or_false _).symm⟩
  | finalPass pc ran =>
    refine ⟨(received_step params (.finalPass pc ran) rfl).lastAudioTime,?_⟩
    rcases handleEnd_cases ran with ⟨_,_,_,_,_,_,_,_,rfl⟩ | ⟨_,_,_,_,_,rfl,_⟩
    all_goals exact (Bool.or_false _).symm
  | release pc ran =>
    exact ⟨(releaseModel_received ran).lastAudioTime,(releaseModel_life ran).trans (Bool.or_false _).symm⟩
  | destroyRelease pc ran =>
    exact ⟨(releaseModel_received ran).lastAudioTime,(releaseModel_life ran).trans (Bool.or_false _).symm⟩
  | cycle pc ran =>
    refine ⟨(FlushLoop.cycle_received ran).lastAudioTime,?_⟩
    rw [← watchdog_fires params s,← cycle_life,ran]
  | relock pc ran =>
    refine ⟨(FlushLoop.relock_received ran).lastAudioTime,?_⟩
    have same := congrArg (fun done => done.session.idleShutdownTriggered) ran
    exact same.symm.trans ((relock_life _ _ _).trans (Bool.or_false _).symm)
  | _ => exact ⟨rfl,(Bool.or_false _).symm⟩

theorem lastLife_append (now : Instant) (trace : List (State × Action)) (s : State) (action : Action) :
    lastLife now (trace ++ [(s,action)]) = if lives s action then s.clock else lastLife now trace := by
  cases alive : lives s action <;> simp [lastLife,List.filter_append,alive]

theorem runs_lastLife (path : Runs params (initial now) trace s) :
    s.session.lastAudioTime = lastLife now trace := by
  refine path.history (I := fun trace s => s.session.lastAudioTime = lastLife now trace)
    (C := fun _ _ => True) (fun _ _ => trivial) rfl ?_
  intro past s action next _ known _ one
  rw [lastLife_append,(life_step params one.2).1,known]

theorem runs_fired (path : Runs params (initial now) trace s) :
    s.session.idleShutdownTriggered = trace.any fun entry => fires params entry.1 entry.2 := by
  refine path.history (I := fun trace s => s.session.idleShutdownTriggered =
      trace.any fun entry => fires params entry.1 entry.2)
    (C := fun _ _ => True) (fun _ _ => trivial) rfl ?_
  intro past s action next _ known _ one
  rw [(life_step params one.2).2,known,List.any_append,List.any_cons,List.any_nil,Bool.or_false]

theorem fires_iff (middle : State) (action : Action) : fires params middle action = true ↔
    0 < params.sessionTimeoutSec.val ∧ (∃ slot outcome, action = .cycle slot outcome) ∧
      seconds params.sessionTimeoutSec.val ≤ middle.clock - middle.session.lastAudioTime := by
  cases action with
  | cycle => simp [fires]
  | _ => simp [fires]

-- The socket is shut down for idleness exactly when some cycle came a whole
-- timeout after the last frame that reached the engine, dropped there or not, the
-- last config or the start: no session with such a frame within every timeout is
-- cut off, and nothing else that a client sends keeps one alive.
theorem idle_shutdown_iff (path : Runs params (initial now) trace s) :
    s.session.idleShutdownTriggered = true ↔
      0 < params.sessionTimeoutSec.val ∧ ∃ before middle slot outcome after,
        trace = before ++ (middle,.cycle slot outcome) :: after ∧
        seconds params.sessionTimeoutSec.val ≤ middle.clock - lastLife now before := by
  rw [runs_fired params path,List.any_eq_true]
  constructor
  · rintro ⟨⟨middle,action⟩,present,fired⟩
    obtain ⟨positive,⟨slot,outcome,rfl⟩,idle⟩ := (fires_iff params middle action).mp fired
    obtain ⟨before,after,split⟩ := List.append_of_mem present
    rw [runs_lastLife params (path.split split).1] at idle
    exact ⟨positive,before,middle,slot,outcome,after,split,idle⟩
  · rintro ⟨positive,before,middle,slot,outcome,after,split,idle⟩
    rw [← runs_lastLife params (path.split split).1] at idle
    refine ⟨(middle,.cycle slot outcome),by rw [split]; simp,?_⟩
    exact (fires_iff params middle _).mpr ⟨positive,⟨slot,outcome,rfl⟩,idle⟩

def quietSchedule : List Action :=
  [.accept,.tick 30000000000,.wake,.cycle true silence]

theorem idle_shutdown_iff_quiet : ∃ trace s, Runs defaultParams (initial 0) trace s ∧
    trace.map Prod.snd = quietSchedule ∧ s.session.idleShutdownTriggered = true ∧
    ∃ before middle slot outcome after, trace = before ++ (middle,.cycle slot outcome) :: after ∧
      seconds defaultParams.sessionTimeoutSec.val ≤ middle.clock - lastLife 0 before := by
  obtain ⟨s,ran,shut⟩ : ∃ s, run defaultParams (initial 0) quietSchedule = some s ∧
      s.session.idleShutdownTriggered = true := ⟨_,rfl,rfl⟩
  obtain ⟨trace,same,path⟩ := run_sound defaultParams ran
  exact ⟨trace,s,path,same,shut,((idle_shutdown_iff defaultParams path).mp shut).2⟩

end JotaTranscriber.IdleWatchdog

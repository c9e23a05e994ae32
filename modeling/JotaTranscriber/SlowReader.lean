import JotaTranscriber.InferenceSlots

namespace JotaTranscriber.SlowReader
open InferenceSlots FlushLoop

-- A thread is in the ws_.write of a sendMessage call, with its work before it
-- done, and one that has a slot.
def writing (s : State) (thread : Thread) : Prop :=
  s.pending thread = [] ∧
    match thread with
    | .flush i => ∃ message next, (s.sessions i).flusher = .sending message next
    | .receive i => ∃ message rest next, (s.sessions i).receiver = .sending (message :: rest) next
    | _ => False

def owns (s : State) (thread : Thread) : Prop := s.guards.live.lookup thread = some true

-- The windows that flushLoop opens with inf_guard acquired: all but the report
-- that the GPU is busy.
def held : Flusher → Bool
  | .sending _ .skip | .relocking .skip => false
  | .sending .. | .relocking _ => true
  | _ => false

-- Which writes hold up a slot, exactly.
theorem writing_owns_iff (valid : Sound s) (write : writing s thread) :
    owns s thread ↔ ∃ i, thread = .flush i ∧ held (s.sessions i).flusher = true := by
  obtain ⟨ready,place⟩ := write
  rw [owns,valid.lookup_idle ready]
  cases thread with
  | flush i =>
    obtain ⟨message,next,pc⟩ := place
    cases next <;> simp [expected,pc,owned,held]
  | receive i => simp [expected]
  | request call => cases place
  | direct call => cases place

-- A cycle that gets a slot has nothing to send while it holds it.
def mute (settings : Nat → SessionParams) (s : State) : Action → Bool
  | .session i (.cycle slot outcome) =>
    let session := (s.sessions i).session
    !(slot && reaches (settings i) session (s.sessions i).clock) ||
      !session.capacityDegraded && silent session outcome
  | _ => true

theorem held_unheard (done : unheard flusher = true) : held flusher = false := by
  cases flusher <;> first | rfl | cases done

theorem cycle_released (params : SessionParams) (s : SessionMachine.State)
    (ran : cycle params s.session s.clock slot outcome = ⟨after,flusher,events⟩)
    (quiet : (slot && reaches params s.session s.clock) = true →
      s.session.capacityDegraded = false ∧ silent s.session outcome = true) : held flusher = false := by
  cases slot with
  | true =>
    have untold : tells params s.session s.clock true outcome = false := by
      cases reached : reaches params s.session s.clock with
      | false => simp [tells,reached]
      | true =>
        obtain ⟨steady,nothing⟩ := quiet (by rw [reached]; rfl)
        simp [tells,steady,nothing]
    have done := cycle_unheard params s.session s.clock untold
    rw [ran] at done
    exact held_unheard done
  | false =>
    rcases cycle_cases params s.session s.clock false outcome with
      ⟨idle,_⟩ | ⟨_,_,_,_,⟨_,_,busy⟩ | ⟨granted,_⟩ | ⟨granted,_⟩⟩
    · cases idle.symm.trans ran; rfl
    · cases busy.symm.trans ran; rfl
    · cases granted
    · cases granted

theorem released_step (before : held s.flusher = false)
    (quiet : ∀ slot outcome, action = .cycle slot outcome →
      (slot && reaches params s.session s.clock) = true →
        s.session.capacityDegraded = false ∧ silent s.session outcome = true)
    (one : SessionMachine.Step params s action next) : held next.flusher = false := by
  cases one.2 with
  | accept | wake | exit | tryLockFails => rfl
  | cycle pc ran => exact cycle_released params s ran (quiet _ _ rfl)
  | flushSend pc =>
    rw [pc] at before
    cases ‹Continuation› <;> first | rfl | cases before
  | relock pc ran =>
    rw [pc] at before
    cases ‹Continuation› <;> first | (cases ran; rfl) | cases before
  | _ => exact before

theorem session_released (released : ∀ i, held (s.sessions i).flusher = false)
    (permitted : mute settings s (.session i action) = true)
    (one : SessionMachine.Step (settings i) (s.sessions i) action next) (j : Nat) :
    held (Function.update s.sessions i next j).flusher = false := by
  by_cases same : j = i
  · subst same
    rw [Function.update_self]
    refine released_step (released j) ?_ one
    rintro slot outcome rfl reached
    simpa [mute,reached] using permitted
  · rw [Function.update_of_ne same]
    exact released j

theorem runs_released (path : Runs settings (initial limit now) trace s)
    (allowed : ∀ entry ∈ trace, mute settings entry.1 entry.2 = true) :
    ∀ i, held (s.sessions i).flusher = false := by
  refine path.guarded (I := fun s => ∀ i, held (s.sessions i).flusher = false)
    (C := fun s action => mute settings s action = true) allowed (fun _ => rfl) ?_
  intro s action next released permitted one j
  cases one with
  | session ready one => exact session_released released permitted one j
  | request | direct | construct | begin | finish | destroy | setMaxConcurrency => exact released j

theorem slow_reader_holds_no_slot (path : Runs settings (initial limit now) trace s)
    (allowed : ∀ entry ∈ trace, mute settings entry.1 entry.2 = true) (write : writing s thread) :
    ¬ owns s thread := by
  rw [writing_owns_iff (runs_sound settings path) write]
  rintro ⟨i,_,holds⟩
  rw [runs_released path allowed i] at holds
  cases holds

-- One slot, and a session that has taken two seconds of audio and is about to
-- run its cycle.
def lone : State := initial ⟨1,by decide⟩ fun _ => 0

def awake (longer : StreamingWhisperEngine) : State :=
  { lone with sessions := Function.update lone.sessions 0 (SessionMachine.awakeState longer) }

theorem lone_run : ∃ longer trace, longer.getBufferSize = 32000 ∧ longer.vadGate = none ∧
    Runs (fun _ => SessionMachine.defaultParams) lone trace (awake longer) ∧
    ∀ entry ∈ trace, mute (fun _ => SessionMachine.defaultParams) entry.1 entry.2 = true := by
  obtain ⟨longer,trace,size,ungated,_,path,plainly⟩ :=
    SessionMachine.awake_run (fun _ action => plain action) rfl rfl (fun _ => rfl)
  obtain ⟨lifted,reached,sessions⟩ := lift_plain (fun _ => SessionMachine.defaultParams)
    (s := lone) (i := 0) path plainly (fun _ => rfl)
  refine ⟨longer,lifted,size,ungated,reached,?_⟩
  rintro ⟨s,action⟩ present
  obtain ⟨action,owes,rfl⟩ := sessions _ present
  cases action <;> first | rfl | cases owes

theorem awake_work (longer : StreamingWhisperEngine) (size : longer.getBufferSize = 32000)
    (flusher : Flusher) (slot : Bool) (outcome : Outcome) :
    sessionWork SessionMachine.defaultParams (SessionMachine.awakeState longer) flusher (.cycle slot outcome) =
      .construct .tryGuard slot :: ((if slot then [.infer] else []) ++ leave flusher) := by
  have due : reaches SessionMachine.defaultParams (SessionMachine.awakeState longer).session
      (SessionMachine.awakeState longer).clock = true := SessionMachine.heard_due longer size
  simp only [sessionWork,if_pos due]
  cases slot <;> rfl

theorem awake_cycle (size : StreamingWhisperEngine.getBufferSize longer = 32000)
    (here : s.sessions 0 = SessionMachine.awakeState longer) (ready : s.pending (.flush 0) = [])
    (one : SessionMachine.Step SessionMachine.defaultParams (SessionMachine.awakeState longer)
      (.cycle slot outcome) told) :
    Step (fun _ => SessionMachine.defaultParams) s (.session 0 (.cycle slot outcome)) { s with
      sessions := Function.update s.sessions 0 told
      pending := Function.update s.pending (.flush 0)
        (.construct .tryGuard slot :: ((if slot then [.infer] else []) ++ leave told.flusher)) } := by
  have led : Step (fun _ => SessionMachine.defaultParams) s (.session 0 (.cycle slot outcome)) _ :=
    .session (.inr ready) (here.symm ▸ one)
  rwa [here,awake_work longer size,show threadOf 0 (.cycle slot outcome) = .flush 0 from rfl,ready,
    List.nil_append] at led

-- The report that the GPU is busy goes out without a slot: another thread has it.
theorem slow_reader_holds_no_slot_busy : ∃ trace s,
    Runs (fun _ => SessionMachine.defaultParams) lone trace s ∧ writing s (.flush 0) ∧
      ¬ owns s (.flush 0) := by
  obtain ⟨longer,trace,size,_,path,kept⟩ := lone_run
  let called : State := { awake longer with
    pending := Function.update lone.pending (.direct 0) directWork }
  let taken : State := { called with
    guards := ⟨lone.guards.limiter.claim,lone.guards.live.insert (.direct 0) true⟩
    pending := Function.update called.pending (.direct 0) [.infer,.destroy] }
  let told : SessionMachine.State := { SessionMachine.awakeState longer with
    session := { (SessionMachine.awakeState longer).session with capacityDegraded := true }
    flusher := .sending .statusBusy .skip
    log := (SessionMachine.awakeState longer).log ++ [] }
  have calls : Step (fun _ => SessionMachine.defaultParams) (awake longer) (.direct 0) called :=
    .direct rfl
  have takes : Step (fun _ => SessionMachine.defaultParams) called (.work (.direct 0)) taken :=
    .construct rfl (.construct (AList.notMem_empty _) rfl) (AList.lookup_insert _)
  have cycles : SessionMachine.Step SessionMachine.defaultParams (SessionMachine.awakeState longer)
      (.cycle false SessionMachine.silence) told :=
    ⟨rfl,.cycle rfl (SessionMachine.heard_busy longer size _)⟩
  let refused : State := { taken with
    sessions := Function.update taken.sessions 0 told
    pending := Function.update taken.pending (.flush 0) [.construct .tryGuard false] }
  have refuses : Step (fun _ => SessionMachine.defaultParams) taken
      (.session 0 (.cycle false SessionMachine.silence)) refused := awake_cycle size rfl rfl cycles
  let reports : State := { refused with
    guards := ⟨taken.guards.limiter,taken.guards.live.insert (.flush 0) false⟩
    pending := Function.update refused.pending (.flush 0) [] }
  have answers : Step (fun _ => SessionMachine.defaultParams) refused (.work (.flush 0)) reports :=
    .construct rfl (.construct (AList.lookup_eq_none.mp rfl) rfl) (AList.lookup_insert _)
  have write : writing reports (.flush 0) := ⟨rfl,_,_,rfl⟩
  have whole := (((path.step calls).step takes).step refuses).step answers
  refine ⟨_,reports,whole,write,slow_reader_holds_no_slot whole ?_ write⟩
  intro entry present
  simp only [List.append_assoc,List.cons_append,List.nil_append,List.mem_append,List.mem_cons,
    List.not_mem_nil,or_false] at present
  rcases present with before | rfl | rfl | rfl | rfl
  · exact kept entry before
  all_goals rfl

-- A client that hears its transcription holds the slot for as long as it does
-- not read it.
theorem transcription_sent_with_slot : ∃ trace s,
    Runs (fun _ => SessionMachine.defaultParams) lone trace s ∧ writing s (.flush 0) ∧
      owns s (.flush 0) := by
  obtain ⟨longer,trace,size,ungated,path,_⟩ := lone_run
  obtain ⟨session,events,ran,_⟩ := SessionMachine.heard_greeting longer size ungated
  let told : SessionMachine.State := { SessionMachine.awakeState longer with
    session
    flusher := .sending (.transcription (bytes "hola") false none) .finish
    log := (SessionMachine.awakeState longer).log ++ events }
  have cycles : SessionMachine.Step SessionMachine.defaultParams (SessionMachine.awakeState longer)
      (.cycle true SessionMachine.greeting) told := ⟨rfl,.cycle rfl ran⟩
  let passed : State := { awake longer with
    sessions := Function.update (awake longer).sessions 0 told
    pending := Function.update lone.pending (.flush 0) [.construct .tryGuard true,.infer] }
  have passes : Step (fun _ => SessionMachine.defaultParams) (awake longer)
      (.session 0 (.cycle true SessionMachine.greeting)) passed := awake_cycle size rfl rfl cycles
  let granted : State := { passed with
    guards := ⟨lone.guards.limiter.claim,lone.guards.live.insert (.flush 0) true⟩
    pending := Function.update passed.pending (.flush 0) [.infer] }
  let running : State := { granted with
    pending := Function.update granted.pending (.flush 0) [.inferring] }
  let done : State := { running with pending := Function.update running.pending (.flush 0) [] }
  have first : Step (fun _ => SessionMachine.defaultParams) passed (.work (.flush 0)) granted :=
    .construct rfl (.construct (AList.notMem_empty _) rfl) (AList.lookup_insert _)
  have second : Step (fun _ => SessionMachine.defaultParams) granted (.work (.flush 0)) running :=
    .begin rfl
  have third : Step (fun _ => SessionMachine.defaultParams) running (.work (.flush 0)) done :=
    .finish rfl
  exact ⟨_,done,(((path.step passes).step first).step second).step third,⟨rfl,_,_,rfl⟩,
    AList.lookup_insert _⟩

end JotaTranscriber.SlowReader

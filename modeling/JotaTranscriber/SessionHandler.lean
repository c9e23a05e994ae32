import JotaTranscriber.StreamCalls

namespace JotaTranscriber.SessionHandler
open SessionMachine StreamingSession

-- Where handleSession is. Only the TLS branch has a handshake before it reads
-- the request.
inductive Phase where
  | tlsHandshake
  | requestRead
  | dispatching
  | streaming (session : SessionMachine.State)
  | returned

-- A call of handleSession with its HandshakeWatchdog: the time since it was
-- constructed, whether it is armed and whether it has shut the socket down. A
-- client is stalled when it takes nothing more: a write to it does not return.
structure State where
  phase : Phase
  elapsed : Instant
  armed : Bool
  shut : Bool
  stalled : Bool

inductive Action where
  | wait (elapsed : Nat)
  | fire
  | stall (stalled : Bool)
  | handshake
  | request
  | upgrade (now : Instant)
  | leave
  | session (action : SessionMachine.Action)
  | finish

def initial (tls : Bool) : State :=
  ⟨if tls then .tlsHandshake else .requestRead,0,true,false,false⟩

-- forceSocketShutdown has been called, by either watchdog.
def socketShut (s : State) : Bool :=
  s.shut ||
    match s.phase with
    | .streaming session => session.session.idleShutdownTriggered
    | _ => false

def opening : Phase → Bool
  | .tlsHandshake | .requestRead | .dispatching => true
  | _ => false

variable (params : SessionParams) (handshakeTimeoutSec : CInt)

-- A request that is answered without an upgrade and an exception both leave
-- handleSession, whose watchdog is disarmed by its destructor at the latest.
inductive Step : State → Action → State → Prop where
  | wait : Step s (.wait elapsed) { s with elapsed := s.elapsed + elapsed }
  | fire (armed : s.armed = true) (due : seconds handshakeTimeoutSec.val ≤ s.elapsed) :
      Step s .fire { s with armed := false, shut := true }
  | stall : Step s (.stall stalled) { s with stalled }
  | handshake (pc : s.phase = .tlsHandshake) : Step s .handshake { s with phase := .requestRead }
  | request (pc : s.phase = .requestRead) :
      Step s .request { s with phase := .dispatching, armed := false }
  | upgrade (pc : s.phase = .dispatching) :
      Step s (.upgrade now) { s with phase := .streaming (SessionMachine.initial now) }
  | leave (pc : opening s.phase = true) : Step s .leave { s with phase := .returned, armed := false }
  | session (pc : s.phase = .streaming session)
      (returns : isSend action = true → s.stalled = false ∨ socketShut s = true)
      (one : SessionMachine.Step params session action next) :
      Step s (.session action) { s with phase := .streaming next }
  | finish (pc : s.phase = .streaming session) (ended : session.receiver = .destroyed) :
      Step s .finish { s with phase := .returned }

abbrev Runs := Machine.Runs (Step params handshakeTimeoutSec)

-- The session thread waits for bytes from the client. A read of a socket that
-- was shut down returns, and so does one after ws_.close.
def blocked (s : State) : Prop :=
  socketShut s = false ∧
    match s.phase with
    | .tlsHandshake | .requestRead => True
    | .streaming session => session.flusher.alive = true ∧
      (session.receiver = .reading ∧ session.closeCalled = false ∨
        ∃ kind, session.receiver = .closing kind)
    | _ => False

-- flushLoop can shut the socket down by itself: some run in which only it and
-- the clock move gets there.
def own : Action → Bool
  | .session (.tick _) => true
  | .session action => flushes action
  | _ => false

def able (s : State) : Prop :=
  ∃ trace after, Runs params handshakeTimeoutSec s trace after ∧
    (∀ entry ∈ trace, own entry.2 = true) ∧ socketShut after = true

-- A cycle that has, or may still have, a message to send.
def midway : Flusher → Bool
  | .sending .. | .relocking (.infer ..) | .relocking (.resume ..) | .relocking (.clear ..) => true
  | _ => false

-- The final pass throws, so that handleEnd does not get to its close.
def fails (session : StreamingSession) (slot : Bool) (outcome : Outcome) : Bool :=
  match session.engine with
  | none => false
  | some owned =>
    slot &&
      match owned.engine.transcribeSlidingWindow true outcome with
      | (_,.error _) => true
      | (_,.ok _) => false

-- While the socket is not shut down: no 'end' gets to its close, and the client
-- takes what a flush cycle has to tell it.
def attended (s : State) (action : Action) : Bool :=
  match s.phase,action with
  | .streaming session,.session (.finalPass slot outcome) =>
    socketShut s || fails session.session slot outcome
  | .streaming session,.stall true => socketShut s || !midway session.flusher
  | .streaming session,.session (.cycle slot outcome) =>
    s.shut || !s.stalled ||
      (FlushLoop.watchdog params session.session session.clock).idleShutdownTriggered ||
      !FlushLoop.tells params session.session session.clock slot outcome
  | _,_ => true

section Session
variable {s next : SessionMachine.State}

def serving (closeCalled : Bool) : Receiver → Bool
  | .reading => !closeCalled
  | .sending _ next => decide (next ≠ .close .final)
  | .closing kind => decide (kind ≠ .final)
  | .acquiring | .configuring _ => true
  | _ => false

def concludes : Receiver → Bool
  | .sending _ next => decide (next = .close .final)
  | .closing kind => decide (kind = .final)
  | _ => false

theorem serving_sendThen (serves : serving closeCalled (sendThen messages after) = true) :
    after ≠ .close .final := by
  rintro rfl
  cases messages <;> cases serves

theorem serving_afterClose (serves : serving true (afterClose kind failed) = true) : kind ≠ .final := by
  rintro rfl
  cases failed <;> cases serves

theorem concludes_sendThen (messages : List ServerMessage) (next : AfterSend) :
    concludes (sendThen messages next) = decide (next = .close .final) := by
  cases messages with
  | cons => rfl
  | nil => cases next <;> simp [sendThen,concludes]

theorem concludes_refusal (refusal : Refusal receiver) : concludes receiver = false := by
  obtain ⟨_,_,_,rfl,rfl | rfl⟩ := refusal <;> rfl

theorem serving_receive (serves : serving next.closeCalled next.receiver = true)
    (move : Move params s action next) (other : flushes action = false) :
    action = .accept ∨ serving s.closeCalled s.receiver = true := by
  cases move with
  | accept => exact .inl rfl
  | tick => exact .inr serves
  | text pc live | binary pc live => exact .inr (by simp [serving,pc,live])
  | acquire pc | acquireFails pc | install pc | installFails pc => exact .inr (by simp [serving,pc])
  | send pc => exact .inr (by simpa [serving,pc] using serving_sendThen serves)
  | close pc => exact .inr (by simpa [serving,pc] using serving_afterClose serves)
  | finalPass pc ran =>
    rcases handleEnd_cases ran with ⟨_,rfl,_⟩ | ⟨_,_,_,_,_,_,rfl⟩
    · cases serves
    · simp [serving] at serves
  | wake | exit | tryLockFails | cycle | flushSend | relock => cases other
  | acceptFails | readFails | join | release | destroy | destroyJoin | destroyRelease => cases serves

theorem serving_flush (move : Move params s action next) (flush : flushes action = true) :
    next.closeCalled = s.closeCalled ∧ next.receiver = s.receiver := by
  cases move with
  | wake | exit | tryLockFails | cycle | flushSend | relock => exact ⟨rfl,rfl⟩
  | _ => cases flush

def Attending (s : SessionMachine.State) : Prop :=
  serving s.closeCalled s.receiver = true →
    s.session.flushRunning = true ∧ joinable s.flusher = false

theorem started_step (running : s.session.flushRunning = true) (started : joinable s.flusher = false)
    (move : Move params s action next) : joinable next.flusher = false := by
  cases move with
  | accept | wake | tryLockFails | flushSend => rfl
  | exit pc stopped =>
    rw [running] at stopped
    cases stopped
  | cycle pc ran =>
    have parked := (FlushLoop.cycle_regular ran).next
    revert parked
    cases ‹Flusher› <;> first | exact fun _ => rfl | exact fun parked => parked.elim
  | relock pc ran =>
    have parked := (FlushLoop.relock_regular ran).next
    revert parked
    cases ‹Flusher› <;> first | exact fun _ => rfl | exact fun parked => parked.elim
  | _ => exact started

theorem attending_preserved (before : Attending s) (move : Move params s action next) :
    Attending next := by
  intro serves
  have origin : action = .accept ∨ serving s.closeCalled s.receiver = true := by
    cases flush : flushes action with
    | false => exact serving_receive params serves move flush
    | true =>
      obtain ⟨closed,same⟩ := serving_flush params move flush
      rw [closed,same] at serves
      exact .inr serves
  rcases origin with rfl | served
  · cases move
    exact ⟨rfl,rfl⟩
  · obtain ⟨running,started⟩ := before served
    refine ⟨?_,started_step params running started move⟩
    rcases (flags_step params move).2 with same | runs | joins | destroys
    · exact same.trans running
    · exact runs
    · rw [joins] at serves; cases serves
    · rw [destroys] at serves; cases serves

theorem runs_attending (path : SessionMachine.Runs params (SessionMachine.initial now) trace s) :
    Attending s :=
  path.invariant (I := Attending) (fun serves => by cases serves)
    (fun before one => attending_preserved params before one.2)

theorem handleEnd_fails (throws : fails session slot outcome = true) :
    (session.handleEnd slot outcome).next = .unwinding := by
  unfold fails at throws
  unfold StreamingSession.handleEnd
  cases owner : session.engine with
  | none => simp [owner] at throws
  | some owned =>
    simp only [owner,Bool.and_eq_true] at throws
    obtain ⟨rfl,throws⟩ := throws
    rcases ran : owned.engine.transcribeSlidingWindow true outcome with ⟨used,answer⟩
    cases answer with
    | error error => simp [ran]
    | ok result => simp [ran] at throws

theorem concludes_step (concluding : concludes next.receiver = true)
    (move : Move params s action next) :
    concludes s.receiver = true ∨
      ∃ slot outcome, action = .finalPass slot outcome ∧ fails s.session slot outcome = false := by
  cases move with
  | tick | wake | exit | tryLockFails | cycle | flushSend | relock => exact .inl concluding
  | text pc live ran =>
    rcases handleJsonMessage_cases ran with ⟨_,refusal⟩ | ⟨_,_,rfl,_⟩ | ⟨_,rfl,_⟩ | ⟨_,rfl⟩
    · rw [concludes_refusal refusal] at concluding
      cases concluding
    all_goals cases concluding
  | binary pc live ran =>
    obtain ⟨_,_,_,⟨_,rfl | rfl | ⟨rfl,_⟩⟩ | ⟨_,_,_,_,rfl⟩⟩ := handleBinaryMessage_cases ran
    · cases concluding
    · cases concluding
    · cases concluding
    · rw [concludes_sendThen] at concluding
      cases concluding
  | send pc =>
    rw [concludes_sendThen] at concluding
    exact .inl (by rw [pc]; exact concluding)
  | close pc =>
    rw [show concludes (afterClose _ _) = false by
      rename_i kind failed
      cases kind <;> cases failed <;> rfl] at concluding
    cases concluding
  | finalPass pc ran =>
    refine .inr ⟨_,_,rfl,?_⟩
    rw [← Bool.not_eq_true]
    intro throws
    have unwinds := handleEnd_fails throws
    rw [ran] at unwinds
    cases unwinds
    cases concluding
  | accept | acceptFails | readFails | acquire | acquireFails | install | installFails | join | release
  | destroy | destroyJoin | destroyRelease => cases concluding

theorem midway_unheard (done : FlushLoop.unheard flusher = true) : midway flusher = false := by
  cases flusher <;> first | rfl | cases done

theorem midway_step (busy : midway next.flusher = true) (move : Move params s action next) :
    midway s.flusher = true ∨ ∃ slot outcome, action = .cycle slot outcome ∧
      FlushLoop.tells params s.session s.clock slot outcome = true := by
  cases move with
  | accept | wake | exit | tryLockFails => cases busy
  | cycle pc ran =>
    refine .inr ⟨_,_,rfl,?_⟩
    rw [← Bool.not_eq_false]
    intro untold
    have done := FlushLoop.cycle_unheard params s.session s.clock untold
    rw [ran] at done
    rw [midway_unheard done] at busy
    cases busy
  | flushSend pc => exact .inl (by rw [pc]; rfl)
  | relock pc ran =>
    refine .inl ?_
    rw [pc]
    cases ‹Continuation› <;> first | rfl | (cases ran; cases busy)
  | _ => exact .inl busy

end Session

structure Kept (s : State) (session : SessionMachine.State) : Prop where
  reached : ∃ now trace, SessionMachine.Runs params (SessionMachine.initial now) trace session
  concluded : concludes session.receiver = true → socketShut s = true
  told : s.stalled = true → socketShut s = true ∨ midway session.flusher = false

def Watched (s : State) : Prop :=
  match s.phase with
  | .tlsHandshake | .requestRead => s.armed = true ∨ s.shut = true
  | .streaming session => Kept params s session
  | _ => True

theorem initial_watched (tls : Bool) : Watched params (initial tls) := by
  cases tls <;> exact .inl rfl

theorem Watched.opening {s : State} (watched : Watched params s)
    (pc : s.phase = .tlsHandshake ∨ s.phase = .requestRead) : s.armed = true ∨ s.shut = true := by
  unfold Watched at watched
  rcases pc with pc | pc
  all_goals
    rw [pc] at watched
    exact watched

theorem Watched.session {s : State} {session : SessionMachine.State} (watched : Watched params s)
    (pc : s.phase = .streaming session) :
    Kept params s session := by
  unfold Watched at watched
  rw [pc] at watched
  exact watched

theorem Watched.of_phase {s next : State} (watched : Watched params s) (same : next.phase = s.phase)
    (opening : s.armed = true ∨ s.shut = true → next.armed = true ∨ next.shut = true)
    (session : ∀ session, s.phase = .streaming session → Kept params s session → Kept params next session) :
    Watched params next := by
  unfold Watched at watched ⊢
  rw [same]
  cases pc : s.phase with
  | tlsHandshake | requestRead =>
    rw [pc] at watched
    exact opening watched
  | streaming reached =>
    rw [pc] at watched
    exact session reached pc watched
  | dispatching | returned => trivial

theorem Kept.shut {s next : State} (kept : Kept params s session) (shut : socketShut next = true) :
    Kept params next session :=
  ⟨kept.reached,fun _ => shut,fun _ => .inl shut⟩

theorem socketShut_session {s : State} (pc : s.phase = .streaming session)
    (one : SessionMachine.Step params session action next) (shut : socketShut s = true) :
    socketShut { s with phase := .streaming next } = true := by
  simp only [socketShut,pc,Bool.or_eq_true] at shut ⊢
  rcases shut with fired | idle
  · exact .inl fired
  · exact .inr ((flags_step params one.2).1 idle)

theorem session_kept {s : State} (kept : Kept params s session) (pc : s.phase = .streaming session)
    (permitted : attended params s (.session action) = true)
    (one : SessionMachine.Step params session action next) :
    Kept params { s with phase := .streaming next } next := by
  obtain ⟨now,trace,path⟩ := kept.reached
  have stays := socketShut_session params pc one
  refine ⟨⟨now,_,path.step one⟩,?_,?_⟩
  · intro concluding
    rcases concludes_step params concluding one.2 with before | ⟨slot,outcome,rfl,finishes⟩
    · exact stays (kept.concluded before)
    · simp only [attended,pc,finishes,Bool.or_false] at permitted
      exact stays permitted
  · intro stalled
    by_cases busy : midway next.flusher = true
    · refine .inl ?_
      rcases midway_step params busy one.2 with before | ⟨slot,outcome,rfl,tells⟩
      · rcases kept.told stalled with shut | resting
        · exact stays shut
        · rw [before] at resting
          cases resting
      · have waits : s.stalled = true := stalled
        simp only [attended,pc,waits,tells,Bool.not_true,Bool.or_false,Bool.or_eq_true] at permitted
        rcases permitted with fired | idle
        · simp [socketShut,fired]
        · obtain ⟨alive,move⟩ := one
          cases move with
          | cycle at_cycle ran =>
            have shut := (FlushLoop.cycle_watched params session.session session.clock slot outcome).shutDown idle
            rw [ran] at shut
            simpa [socketShut] using Or.inr shut
    · exact .inr (by simpa using busy)

theorem watched_preserved {s next : State} (watched : Watched params s)
    (permitted : attended params s action = true) (one : Step params handshakeTimeoutSec s action next) :
    Watched params next := by
  cases one with
  | wait =>
    refine watched.of_phase params rfl (fun opening => opening) ?_
    intro session pc kept
    exact ⟨kept.reached,kept.concluded,kept.told⟩
  | fire armed due =>
    refine watched.of_phase params rfl (fun _ => .inr rfl) ?_
    intro session pc kept
    exact kept.shut params rfl
  | stall =>
    refine watched.of_phase params rfl (fun opening => opening) ?_
    intro session pc kept
    refine ⟨kept.reached,kept.concluded,?_⟩
    rintro rfl
    have asked : (socketShut s || !midway session.flusher) = true := by
      simpa [attended,pc] using permitted
    simpa [socketShut] using asked
  | handshake pc => exact watched.opening params (.inl pc)
  | upgrade =>
    refine ⟨⟨_,[],.nil⟩,?_,fun _ => .inr rfl⟩
    intro concluding
    cases concluding
  | session pc returns one => exact session_kept params (watched.session params pc) pc permitted one
  | request | leave | finish => trivial

theorem runs_watched {s : State} (path : Runs params handshakeTimeoutSec (initial tls) trace s)
    (allowed : ∀ entry ∈ trace, attended params entry.1 entry.2 = true) : Watched params s :=
  path.guarded (I := Watched params) (C := fun s action => attended params s action = true) allowed
    (initial_watched params tls)
    (fun watched permitted one => watched_preserved params handshakeTimeoutSec watched permitted one)

theorem able_of_shut {s : State} (shut : socketShut s = true) : able params handshakeTimeoutSec s :=
  ⟨[],s,.nil,List.forall_mem_nil _,shut⟩

theorem able_step {s next : State} (one : Step params handshakeTimeoutSec s action next)
    (alone : own action = true) (rest : able params handshakeTimeoutSec next) :
    able params handshakeTimeoutSec s := by
  obtain ⟨trace,after,path,flush,shut⟩ := rest
  refine ⟨_,after,(Machine.Runs.single one).append path,?_,shut⟩
  intro entry present
  rcases List.mem_append.mp present with first | later
  · cases List.mem_singleton.mp first
    exact alone
  · exact flush entry later

section Alone
variable {s : State} {session : SessionMachine.State}

theorem watchdog_due (positive : 0 < params.sessionTimeoutSec.val) (session : StreamingSession)
    (now : Instant) : ∃ elapsed : Nat,
      (FlushLoop.watchdog params session (now + elapsed)).idleShutdownTriggered = true := by
  let timeout := seconds params.sessionTimeoutSec.val
  refine ⟨(session.lastAudioTime - now + timeout).toNat,?_⟩
  have late : timeout ≤ now + (session.lastAudioTime - now + timeout).toNat - session.lastAudioTime := by
    have bound := Int.self_le_toNat (session.lastAudioTime - now + timeout)
    simp only [Instant] at *
    omega
  have idle : params.sessionTimeoutSec.val ≤ (now + (session.lastAudioTime - now + timeout).toNat -
      session.lastAudioTime).tdiv (seconds 1) :=
    Int.le_tdiv_of_mul_le (by decide) late
  unfold FlushLoop.watchdog
  dsimp only
  split
  · rfl
  · rename_i waits
    cases shut : session.idleShutdownTriggered with
    | true => rfl
    | false => exact absurd ⟨positive,shut,idle⟩ waits

theorem able_awake (positive : 0 < params.sessionTimeoutSec.val) (pc : s.phase = .streaming session)
    (awake : session.flusher = .awake) : able params handshakeTimeoutSec s := by
  obtain ⟨elapsed,due⟩ := watchdog_due params positive session.session session.clock
  have alive : session.flusher.alive = true := by rw [awake]; rfl
  have ticks : SessionMachine.Step params session (.tick elapsed)
      { session with clock := session.clock + elapsed } := ⟨alive,.tick⟩
  rcases ran : FlushLoop.cycle params session.session (session.clock + elapsed) false silence with
    ⟨after,flusher,events⟩
  have shut := (FlushLoop.cycle_watched params session.session (session.clock + elapsed) false
    silence).shutDown due
  rw [ran] at shut
  have cycles : SessionMachine.Step params { session with clock := session.clock + elapsed }
      (.cycle false silence) { session with
        clock := session.clock + elapsed, session := after, flusher, log := session.log ++ events } :=
    ⟨alive,.cycle awake ran⟩
  refine able_step params handshakeTimeoutSec (.session pc (fun sends => by cases sends) ticks) rfl ?_
  refine able_step params handshakeTimeoutSec (.session rfl (fun sends => by cases sends) cycles) rfl ?_
  refine able_of_shut params handshakeTimeoutSec ?_
  simpa [socketShut] using Or.inr shut

theorem able_waiting (positive : 0 < params.sessionTimeoutSec.val) (pc : s.phase = .streaming session)
    (running : session.session.flushRunning = true) (waits : session.flusher = .waiting) :
    able params handshakeTimeoutSec s := by
  have wakes : SessionMachine.Step params session .wake { session with flusher := .awake } :=
    ⟨by rw [waits]; rfl,.wake waits running⟩
  exact able_step params handshakeTimeoutSec (.session pc (fun sends => by cases sends) wakes) rfl
    (able_awake params handshakeTimeoutSec positive rfl rfl)

-- A cycle whose client reads comes to its end: each message is sent and the
-- next stretch is one of fewer windows.
theorem able_sent (pc : s.phase = .streaming session) (free : s.stalled = false)
    (opened : session.flusher = .sending message next)
    (rest : able params handshakeTimeoutSec { s with phase := .streaming { session with
      flusher := .relocking next, log := session.log ++ [.sent message] } }) :
    able params handshakeTimeoutSec s := by
  have sends : SessionMachine.Step params session .flushSend { session with
      flusher := .relocking next, log := session.log ++ [.sent message] } :=
    ⟨by rw [opened]; rfl,.flushSend opened⟩
  exact able_step params handshakeTimeoutSec (.session pc (fun _ => .inl free) sends) rfl rest

theorem able_stretch (pc : s.phase = .streaming session) (opened : session.flusher = .relocking next)
    (ran : FlushLoop.relock session.session outcome next = ⟨after,flusher,events⟩)
    (rest : able params handshakeTimeoutSec { s with phase := .streaming { session with
      session := after, flusher, log := session.log ++ events } }) :
    able params handshakeTimeoutSec s := by
  have locks : SessionMachine.Step params session (.relock outcome) { session with
      session := after, flusher, log := session.log ++ events } :=
    ⟨by rw [opened]; rfl,.relock opened ran⟩
  exact able_step params handshakeTimeoutSec (.session pc (fun sends => by cases sends) locks) rfl rest

theorem able_done (positive : 0 < params.sessionTimeoutSec.val) (pc : s.phase = .streaming session)
    (running : session.session.flushRunning = true) (opened : session.flusher = .relocking next)
    (last : next = .skip ∨ next = .finish) : able params handshakeTimeoutSec s := by
  have ran : FlushLoop.relock session.session silence next = ⟨session.session,.waiting,[]⟩ := by
    rcases last with rfl | rfl <;> rfl
  exact able_stretch params handshakeTimeoutSec pc opened ran
    (able_waiting params handshakeTimeoutSec positive rfl running rfl)

theorem able_accumulated (positive : 0 < params.sessionTimeoutSec.val) (pc : s.phase = .streaming session)
    (free : s.stalled = false) (running : session.session.flushRunning = true)
    (parked : session.flusher = .waiting ∨ ∃ message, session.flusher = .sending message .finish) :
    able params handshakeTimeoutSec s := by
  rcases parked with waits | ⟨message,opened⟩
  · exact able_waiting params handshakeTimeoutSec positive pc running waits
  · exact able_sent params handshakeTimeoutSec pc free opened
      (able_done params handshakeTimeoutSec positive rfl running rfl (.inr rfl))

theorem accumulate_parked (session : StreamingSession) (cycleEngine currentSize : Nat)
    (result : TranscribeResult) (present : session.engine.isSome = true) :
    let done := FlushLoop.accumulate session cycleEngine currentSize result
    done.next = .waiting ∨ ∃ message, done.next = .sending message .finish := by
  rcases FlushLoop.accumulate_next session cycleEngine currentSize result with
    waits | ⟨_,missing,_⟩ | sends
  · exact .inl waits
  · rw [missing] at present
    cases present
  · exact .inr ⟨_,sends⟩

theorem able_clear (positive : 0 < params.sessionTimeoutSec.val) (pc : s.phase = .streaming session)
    (free : s.stalled = false) (running : session.session.flushRunning = true)
    (present : session.session.engine.isSome = true)
    (opened : session.flusher = .relocking (.clear cycleEngine currentSize result)) :
    able params handshakeTimeoutSec s := by
  rcases ran : FlushLoop.relock session.session silence (.clear cycleEngine currentSize result) with
    ⟨after,flusher,events⟩
  have still := (FlushLoop.relock_steady ran).flushRunning
  have parked := accumulate_parked { session.session with bufferOverflowed := false, droppedChunks := 0 }
    cycleEngine currentSize result present
  rw [show FlushLoop.accumulate _ cycleEngine currentSize result = _ from ran] at parked
  exact able_stretch params handshakeTimeoutSec pc opened ran
    (able_accumulated params handshakeTimeoutSec positive rfl free (still.trans running) parked)

theorem able_resume (positive : 0 < params.sessionTimeoutSec.val) (pc : s.phase = .streaming session)
    (free : s.stalled = false) (running : session.session.flushRunning = true)
    (present : session.session.engine.isSome = true)
    (opened : session.flusher = .relocking (.resume cycleEngine currentSize result)) :
    able params handshakeTimeoutSec s := by
  refine able_stretch params handshakeTimeoutSec pc opened
    (rfl : FlushLoop.relock session.session silence (.resume cycleEngine currentSize result) = _) ?_
  exact able_sent params handshakeTimeoutSec rfl free rfl
    (able_clear params handshakeTimeoutSec positive rfl free running present rfl)

-- Whisper and the VAD may always answer with nothing.
theorem silence_passes (engine : StreamingWhisperEngine) :
    ∃ used result, engine.transcribeSlidingWindow false silence = (used,.ok result) := by
  unfold StreamingWhisperEngine.transcribeSlidingWindow
  split
  · exact ⟨_,_,rfl⟩
  · rename_i filled
    have nonempty : engine.audioBuffer.isEmpty = false := by simpa using filled
    cases gated : engine.vadGate with
    | none => simp [StreamingWhisperEngine.infer,gated,silence]
    | some gate => simp [StreamingWhisperEngine.infer,gated,silence,VadGate.gate,nonempty]

theorem able_infer (positive : 0 < params.sessionTimeoutSec.val) (pc : s.phase = .streaming session)
    (free : s.stalled = false) (running : session.session.flushRunning = true)
    (present : session.session.engine.isSome = true)
    (opened : session.flusher = .relocking (.infer cycleEngine currentSize)) :
    able params handshakeTimeoutSec s := by
  rcases ran : FlushLoop.relock session.session silence (.infer cycleEngine currentSize) with
    ⟨after,flusher,events⟩
  have still := (FlushLoop.relock_steady ran).flushRunning.trans running
  refine able_stretch params handshakeTimeoutSec pc opened ran ?_
  have passes : FlushLoop.inferPass session.session cycleEngine currentSize silence =
    ⟨after,flusher,events⟩ := ran
  rcases FlushLoop.inferPass_cases session.session cycleEngine currentSize silence with
    ⟨missing,_⟩ | ⟨owned,used,_,⟨_,failed,_⟩ | ⟨result,_,passed⟩⟩
  · rw [missing] at present
    cases present
  · obtain ⟨_,_,heard⟩ := silence_passes owned.engine
    rw [heard] at failed
    cases failed
  · rw [passed] at passes
    rcases FlushLoop.afterPass_cases { session.session with engine := some ⟨owned.id,used⟩ }
        ⟨owned.id,used⟩ cycleEngine currentSize result with
      ⟨_,_,message,next,window,kind⟩ | ⟨_,reads,_,direct⟩
    · rw [window] at passes
      cases passes
      refine able_sent params handshakeTimeoutSec rfl free rfl ?_
      rcases kind with ⟨_,rfl⟩ | ⟨_,rfl⟩
      · exact able_resume params handshakeTimeoutSec positive rfl free still rfl rfl
      · exact able_clear params handshakeTimeoutSec positive rfl free still rfl rfl
    · have parked := accumulate_parked { session.session with engine := some ⟨owned.id,used⟩ }
        cycleEngine currentSize result rfl
      rw [direct] at passes
      cases passes
      exact able_accumulated params handshakeTimeoutSec positive rfl free still parked

theorem able_relocking (positive : 0 < params.sessionTimeoutSec.val) (pc : s.phase = .streaming session)
    (free : midway (.relocking next) = true → s.stalled = false)
    (running : session.session.flushRunning = true)
    (present : session.session.engine.isSome = true) (opened : session.flusher = .relocking next) :
    able params handshakeTimeoutSec s := by
  cases next with
  | skip => exact able_done params handshakeTimeoutSec positive pc running opened (.inl rfl)
  | finish => exact able_done params handshakeTimeoutSec positive pc running opened (.inr rfl)
  | infer => exact able_infer params handshakeTimeoutSec positive pc (free rfl) running present opened
  | resume => exact able_resume params handshakeTimeoutSec positive pc (free rfl) running present opened
  | clear => exact able_clear params handshakeTimeoutSec positive pc (free rfl) running present opened

theorem able_running (positive : 0 < params.sessionTimeoutSec.val) (pc : s.phase = .streaming session)
    (alive : session.flusher.alive = true) (running : session.session.flushRunning = true)
    (started : joinable session.flusher = false)
    (present : idle session.flusher = false → session.session.engine.isSome = true)
    (told : s.stalled = true → midway session.flusher = false) : able params handshakeTimeoutSec s := by
  have free (busy : midway session.flusher = true) : s.stalled = false := by
    rw [← Bool.not_eq_true]
    intro stalled
    rw [told stalled] at busy
    cases busy
  cases at_cycle : session.flusher with
  | notStarted | exited => rw [at_cycle] at started; cases started
  | crashed | faulted => rw [at_cycle] at alive; cases alive
  | waiting => exact able_waiting params handshakeTimeoutSec positive pc running at_cycle
  | awake => exact able_awake params handshakeTimeoutSec positive pc at_cycle
  | sending message next =>
    have reads := free (by rw [at_cycle]; rfl)
    refine able_sent params handshakeTimeoutSec pc reads at_cycle ?_
    exact able_relocking params handshakeTimeoutSec positive rfl (fun _ => reads) running
      (present (by rw [at_cycle]; rfl)) rfl
  | relocking next =>
    rw [at_cycle] at free
    exact able_relocking params handshakeTimeoutSec positive pc free running
      (present (by rw [at_cycle]; rfl)) at_cycle

end Alone

theorem slot_watched {s : State} (positive : 0 < params.sessionTimeoutSec.val)
    (path : Runs params handshakeTimeoutSec (initial tls) trace s)
    (allowed : ∀ entry ∈ trace, attended params entry.1 entry.2 = true) (waits : blocked s) :
    s.armed = true ∨ able params handshakeTimeoutSec s := by
  have watched := runs_watched params handshakeTimeoutSec path allowed
  obtain ⟨unshut,waits⟩ := waits
  have open_socket : socketShut s ≠ true := by simp [unshut]
  cases pc : s.phase with
  | tlsHandshake | requestRead =>
    rcases watched.opening params (by simp [pc]) with armed | fired
    · exact .inl armed
    · exact absurd (by simp [socketShut,fired]) open_socket
  | dispatching | returned => simp [pc] at waits
  | streaming session =>
    refine .inr ?_
    simp only [pc] at waits
    obtain ⟨alive,place⟩ := waits
    have kept := watched.session params pc
    obtain ⟨now,earlier,session_path⟩ := kept.reached
    have serves : serving session.closeCalled session.receiver = true := by
      rcases place with ⟨reads,live⟩ | ⟨kind,closing⟩
      · simp [serving,reads,live]
      · have ordinary : kind ≠ .final := by
          rintro rfl
          exact open_socket (kept.concluded (by rw [closing]; rfl))
        simpa [serving,closing] using ordinary
    obtain ⟨running,started⟩ := runs_attending params session_path serves
    have stays : leaving session.receiver = false := by
      rcases place with ⟨reads,_⟩ | ⟨kind,closing⟩
      · rw [reads]; rfl
      · rw [closing]; rfl
    refine able_running params handshakeTimeoutSec positive pc alive running started ?_ ?_
    · intro busy
      rcases runs_engine params session_path (runs_busy params session_path busy) with gone | present
      · rw [stays] at gone
        cases gone
      · exact present
    · intro stalled
      exact (kept.told stalled).resolve_left open_socket

-- An upgraded connection that waits for its first frame: the HandshakeWatchdog
-- is disarmed and flushLoop stands in for it.
theorem slot_watched_upgraded : ∃ trace s,
    Runs defaultParams ⟨10,by decide⟩ (initial true) trace s ∧ blocked s ∧
      (s.armed = true ∨ able defaultParams ⟨10,by decide⟩ s) := by
  let accepted : SessionMachine.State := { SessionMachine.initial 0 with
    session := { StreamingSession.create 0 with flushRunning := true }
    receiver := .reading
    flusher := .waiting }
  let waiting : State := ⟨.streaming accepted,0,false,false,false⟩
  have accepts : SessionMachine.Step defaultParams (SessionMachine.initial 0) .accept accepted :=
    ⟨rfl,.accept rfl⟩
  have path : Runs defaultParams ⟨10,by decide⟩ (initial true) _ waiting :=
    .step (.step (.step (.step .nil (.handshake rfl)) (.request rfl)) (.upgrade rfl))
      (.session rfl (fun sends => by cases sends) accepts)
  have waits : blocked waiting := ⟨rfl,rfl,.inl ⟨rfl,rfl⟩⟩
  refine ⟨_,waiting,path,waits,slot_watched defaultParams ⟨10,by decide⟩ (by decide) path ?_ waits⟩
  intro entry present
  simp only [List.nil_append,List.cons_append,List.mem_cons,List.not_mem_nil,or_false] at present
  rcases present with rfl | rfl | rfl | rfl
  all_goals rfl

-- flushLoop is of no use once it has been joined, nor inside a write to a
-- client that is stalled.
theorem unable_of_invariant {I : State → Prop} {s : State} (start : I s)
    (preserved : ∀ {s action next}, I s → own action = true →
      Step params handshakeTimeoutSec s action next → I next)
    (unshut : ∀ {s}, I s → socketShut s = false) : ¬ able params handshakeTimeoutSec s := by
  rintro ⟨trace,after,path,alone,shut⟩
  have holds : I after := path.guarded (C := fun _ action => own action = true) alone start preserved
  rw [unshut holds] at shut
  cases shut

def Stuck (s : State) : Prop :=
  socketShut s = false ∧ ∃ session, s.phase = .streaming session ∧
    (session.flusher = .exited ∨
      s.stalled = true ∧ ∃ message next, session.flusher = .sending message next)

theorem stuck_preserved {s next : State} (stuck : Stuck s) (alone : own action = true)
    (one : Step params handshakeTimeoutSec s action next) : Stuck next := by
  obtain ⟨unshut,session,pc,place⟩ := stuck
  cases one with
  | session at_session returns one =>
    rw [pc] at at_session
    cases at_session
    cases one.2 with
    | tick =>
      refine ⟨?_,_,rfl,place⟩
      simpa [socketShut,pc] using unshut
    | wake pc | exit pc | tryLockFails pc | cycle pc | relock pc =>
      rcases place with ended | ⟨_,message,next,opened⟩
      · rw [pc] at ended; cases ended
      · rw [pc] at opened; cases opened
    | flushSend pc =>
      rcases place with ended | ⟨stalled,_⟩
      · rw [pc] at ended; cases ended
      · rcases returns rfl with reads | shut
        · rw [stalled] at reads; cases reads
        · rw [unshut] at shut; cases shut
    | _ => cases alone
  | _ => cases alone

theorem stuck_unable {s : State} (stuck : Stuck s) : ¬ able params handshakeTimeoutSec s :=
  unable_of_invariant params handshakeTimeoutSec stuck (stuck_preserved params handshakeTimeoutSec)
    (fun stuck => stuck.1)

theorem runs_session {s : State} (path : SessionMachine.Runs params origin trace after)
    (pc : s.phase = .streaming origin) (free : s.stalled = false) :
    ∃ lifted, Runs params handshakeTimeoutSec s lifted { s with phase := .streaming after } := by
  induction path with
  | nil =>
    refine ⟨[],?_⟩
    rw [← pc]
    exact .nil
  | step prior one ih =>
    obtain ⟨lifted,reached⟩ := ih
    exact ⟨_,reached.step (.session rfl (fun _ => .inl free) one)⟩

theorem upgraded_run (path : SessionMachine.Runs params (SessionMachine.initial now) trace session)
    (tls : Bool) : ∃ lifted, Runs params handshakeTimeoutSec (initial tls) lifted
      ⟨.streaming session,0,false,false,false⟩ := by
  have opened : ∃ opening, Runs params handshakeTimeoutSec (initial tls) opening
      ⟨.streaming (SessionMachine.initial now),0,false,false,false⟩ := by
    cases tls with
    | true => exact ⟨_,.step (.step (.step .nil (.handshake rfl)) (.request rfl)) (.upgrade rfl)⟩
    | false => exact ⟨_,.step (.step .nil (.request rfl)) (.upgrade rfl)⟩
  obtain ⟨opening,reached⟩ := opened
  obtain ⟨lifted,streams⟩ := runs_session params handshakeTimeoutSec path
    (s := ⟨.streaming (SessionMachine.initial now),0,false,false,false⟩) rfl rfl
  exact ⟨_,reached.append streams⟩

-- A client that never answers the close of handleEnd, and one that takes nothing
-- while it is told a transcription.
theorem slot_unwatched :
    (∃ trace s, Runs defaultParams ⟨10,by decide⟩ (initial false) trace s ∧ blocked s ∧
      s.stalled = false ∧ s.armed = false ∧ ¬ able defaultParams ⟨10,by decide⟩ s) ∧
    ∃ trace s, Runs defaultParams ⟨10,by decide⟩ (initial false) trace s ∧ blocked s ∧
      s.armed = false ∧ ¬ able defaultParams ⟨10,by decide⟩ s := by
  constructor
  · obtain ⟨session,ran,alive,closing,ended,unshut⟩ : ∃ session,
        run defaultParams (SessionMachine.initial 0) (configSchedule ++
          [.text endPayload emptyView,.exit,.join,.finalPass true silence,.send]) = some session ∧
        session.flusher.alive = true ∧ session.receiver = .closing .final ∧ session.flusher = .exited ∧
        session.session.idleShutdownTriggered = false := ⟨_,rfl,rfl,rfl,rfl,rfl⟩
    obtain ⟨_,_,path⟩ := run_sound defaultParams ran
    obtain ⟨lifted,reached⟩ := upgraded_run defaultParams ⟨10,by decide⟩ path false
    refine ⟨lifted,_,reached,⟨unshut,alive,.inr ⟨.final,closing⟩⟩,rfl,rfl,?_⟩
    exact stuck_unable defaultParams _ ⟨unshut,session,rfl,.inl ended⟩
  · obtain ⟨_,session,path,_,reads,live,⟨message,next,opened⟩,alive,unshut⟩ := StreamCalls.transcription_run
    obtain ⟨lifted,reached⟩ := upgraded_run defaultParams ⟨10,by decide⟩ path false
    have stalls : Step defaultParams ⟨10,by decide⟩ ⟨.streaming session,0,false,false,false⟩ (.stall true)
      ⟨.streaming session,0,false,false,true⟩ := .stall
    refine ⟨_,_,reached.step stalls,⟨unshut,alive,.inl ⟨reads,live⟩⟩,rfl,?_⟩
    exact stuck_unable defaultParams _ ⟨unshut,session,rfl,.inr ⟨rfl,message,next,opened⟩⟩

end JotaTranscriber.SessionHandler

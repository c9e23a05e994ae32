import JotaTranscriber.Machine
import JotaTranscriber.FlushLoop

namespace JotaTranscriber.SessionMachine
open StreamingSession

-- One session with its two threads. `closeCalled` is set by every ws_.close,
-- whether it returned or threw. A stretch of code under state_mutex_ is one
-- step, and so is a sendMessage call (under write_mutex_): `log` therefore
-- lists the messages in the order in which they go to the wire.
structure State where
  session : StreamingSession
  receiver : Receiver
  flusher : Flusher
  clock : Instant
  closeCalled : Bool
  nextEngine : Nat
  log : List Event

inductive Action where
  | tick (elapsed : Nat)
  | accept
  | acceptFails
  | text (payload : Text) (view : AuthView)
  | binary (payload : List UInt8)
  | readFails
  | send
  | close (failed : Option Text)
  | acquire (ctx : Nat)
  | acquireFails (what : Text)
  | install
  | installFails (what : Text)
  | join
  | finalPass (slot : Bool) (outcome : Outcome)
  | release
  | destroy
  | destroyJoin
  | destroyRelease
  | wake
  | exit
  | tryLockFails
  | cycle (slot : Bool) (outcome : Outcome)
  | flushSend
  | relock (outcome : Outcome)

def initial (now : Instant) : State :=
  ⟨StreamingSession.create now,.handshake,.notStarted,now,false,0,[]⟩

-- After a close: only the throwing overload of handleConfig has a catch that
-- sends something; handleEnd logs the exception and returns.
def afterClose : CloseKind → Option Text → Receiver
  | .rejected,some what => configFailed what
  | _,_ => .reading

def joinable : Flusher → Bool
  | .exited | .notStarted => true
  | _ => false

variable (params : SessionParams)

-- Frames arrive only while ws_.close has not been called (`live`): Beast
-- delivers none afterwards. A read may fail at any moment.
inductive Move : State → Action → State → Prop where
  | tick : Move s (.tick elapsed) { s with clock := s.clock + elapsed }
  | accept (pc : s.receiver = .handshake) :
      Move s .accept { s with
        session := { s.session with flushRunning := true }, receiver := .reading, flusher := .waiting }
  | acceptFails (pc : s.receiver = .handshake) : Move s .acceptFails { s with receiver := .unwinding }
  | text (pc : s.receiver = .reading) (live : s.closeCalled = false)
      (ran : handleJsonMessage params s.session payload view = (after,next)) :
      Move s (.text payload view) { s with session := after, receiver := next }
  | binary (pc : s.receiver = .reading) (live : s.closeCalled = false)
      (ran : handleBinaryMessage params s.session s.clock payload = (after,next)) :
      Move s (.binary payload) { s with session := after, receiver := next }
  | readFails (pc : s.receiver = .reading) : Move s .readFails { s with receiver := .unwinding }
  | send (pc : s.receiver = .sending (message :: rest) next) :
      Move s .send { s with receiver := sendThen rest next, log := s.log ++ [.sent message] }
  | close (pc : s.receiver = .closing kind) :
      Move s (.close failed) { s with receiver := afterClose kind failed, closeCalled := true }
  | acquire (pc : s.receiver = .acquiring) :
      Move s (.acquire ctx) { s with receiver := .configuring ctx, log := s.log ++ [.acquired ctx] }
  | acquireFails (pc : s.receiver = .acquiring) :
      Move s (.acquireFails what) { s with receiver := configFailed what }
  | install (pc : s.receiver = .configuring ctx) :
      Move s .install { s with
        session := StreamingSession.install params s.session s.clock s.nextEngine
        receiver := .sending [readyMessage params s.session] .read
        nextEngine := s.nextEngine + 1
        log := s.log ++ [.configured s.nextEngine] }
  | installFails (pc : s.receiver = .configuring ctx) :
      Move s (.installFails what) { s with
        session := s.session.installFailed, receiver := configFailed what }
  | join (pc : s.receiver = .joining) (ended : s.flusher = .exited) :
      Move s .join { s with receiver := .finalizing }
  | finalPass (pc : s.receiver = .finalizing)
      (ran : s.session.handleEnd slot outcome = ⟨after,next,events⟩) :
      Move s (.finalPass slot outcome) { s with
        session := after, receiver := next, log := s.log ++ events }
  | release (pc : s.receiver = .unwinding) (ran : s.session.releaseModel = (after,events)) :
      Move s .release { s with session := after, receiver := .returned, log := s.log ++ events }
  | destroy (pc : s.receiver = .returned) :
      Move s .destroy { s with session := s.session.stopFlushLoop, receiver := .destroying }
  | destroyJoin (pc : s.receiver = .destroying) (ended : joinable s.flusher = true) :
      Move s .destroyJoin { s with receiver := .releasing }
  | destroyRelease (pc : s.receiver = .releasing) (ran : s.session.releaseModel = (after,events)) :
      Move s .destroyRelease { s with session := after, receiver := .destroyed, log := s.log ++ events }
  | wake (pc : s.flusher = .waiting) (running : s.session.flushRunning = true) :
      Move s .wake { s with flusher := .awake }
  | exit (pc : s.flusher = .waiting) (stopped : s.session.flushRunning = false) :
      Move s .exit { s with flusher := .exited }
  | tryLockFails (pc : s.flusher = .awake) : Move s .tryLockFails { s with flusher := .waiting }
  | cycle (pc : s.flusher = .awake)
      (ran : FlushLoop.cycle params s.session s.clock slot outcome = ⟨after,next,events⟩) :
      Move s (.cycle slot outcome) { s with
        session := after, flusher := next, log := s.log ++ events }
  | flushSend (pc : s.flusher = .sending message next) :
      Move s .flushSend { s with flusher := .relocking next, log := s.log ++ [.sent message] }
  | relock (pc : s.flusher = .relocking continuation)
      (ran : FlushLoop.relock s.session outcome continuation = ⟨after,next,events⟩) :
      Move s (.relock outcome) { s with
        session := after, flusher := next, log := s.log ++ events }

-- Nothing moves in a process that an exception or a null dereference ended.
def Step (s : State) (action : Action) (next : State) : Prop :=
  s.flusher.alive = true ∧ Move params s action next

abbrev Runs := Machine.Runs (Step params)

def unsent : Receiver → List ServerMessage
  | .sending messages _ => messages
  | _ => []

@[simp] theorem unsent_sendThen (messages : List ServerMessage) (next : AfterSend) :
    unsent (sendThen messages next) = messages := by
  cases messages <;> cases next <;> rfl

theorem unsent_refusal (refusal : Refusal next) (present : message ∈ unsent next) :
    ∃ text code, message = .error text code := by
  obtain ⟨text,code,after,rfl,_⟩ := refusal
  exact ⟨text,code,List.mem_singleton.mp present⟩

theorem unsent_afterClose (kind : CloseKind) (failed : Option Text)
    (present : message ∈ unsent (afterClose kind failed)) : ∃ text code, message = .error text code := by
  cases kind with
  | rejected =>
    cases failed with
    | none => cases present
    | some what => exact ⟨_,_,List.mem_singleton.mp present⟩
  | policy => cases present
  | final => cases present

-- One step, seen from what the two threads have to send: the receive thread
-- gets a transcription from the final pass only, the flush thread opens a
-- window for the message it carries, and a message is logged when it is sent.
theorem unsent_step (move : Move params s action next) (present : message ∈ unsent next.receiver) :
    message ∈ unsent s.receiver ∨ message.isTranscription = false ∨
      ∃ slot outcome, action = .finalPass slot outcome := by
  have error (refused : ∃ text code, message = .error text code) :
      message.isTranscription = false := by
    obtain ⟨text,code,rfl⟩ := refused
    rfl
  cases move with
  | text pc live ran =>
    rcases handleJsonMessage_cases ran with
      ⟨_,refusal⟩ | ⟨_,_,rfl,_⟩ | ⟨_,rfl,_⟩ | ⟨_,rfl⟩
    · exact .inr (.inl (error (unsent_refusal refusal present)))
    all_goals cases present
  | binary pc live ran =>
    obtain ⟨_,_,_,⟨_,rfl | rfl | ⟨rfl,_⟩⟩ | ⟨_,audio,messages,heard,rfl⟩⟩ :=
      handleBinaryMessage_cases ran
    · cases present
    · cases present
    · exact .inr (.inl (error (unsent_refusal (refusal_sendError _ _) present)))
    · replace present : message ∈ messages := by simpa using present
      rw [show messages = _ from (congrArg Prod.snd heard).symm] at present
      rcases processAudioChunk_messages _ _ _ present with ⟨rfl,_⟩ | ⟨_,rfl⟩
      · exact .inr (.inl rfl)
      · exact .inr (.inl rfl)
  | send pc =>
    rw [pc]
    exact .inl (List.mem_cons_of_mem _ (by simpa using present))
  | close pc => exact .inr (.inl (error (unsent_afterClose _ _ present)))
  | acquireFails pc => exact .inr (.inl (error (unsent_refusal (refusal_sendError _ _) present)))
  | install pc => cases List.mem_singleton.mp present; exact .inr (.inl rfl)
  | installFails pc => exact .inr (.inl (error (unsent_refusal (refusal_sendError _ _) present)))
  | finalPass pc ran =>
    rcases handleEnd_cases ran with ⟨_,rfl,_⟩ | ⟨_,_,reason,_,_,_,rfl⟩
    · cases present
    · exact .inr (.inr ⟨_,_,rfl⟩)
  | tick | wake | exit | tryLockFails | cycle | flushSend | relock => exact .inl present
  | accept | acceptFails | readFails | acquire | join | release | destroy | destroyJoin
  | destroyRelease => cases present

theorem window_step (move : Move params s action next)
    (opened : next.flusher = .sending message continuation) :
    s.flusher = .sending message continuation ∨ FlushLoop.carries message continuation := by
  cases move with
  | cycle pc ran =>
    cases opened
    exact .inr (FlushLoop.cycle_regular ran).next
  | relock pc ran =>
    cases opened
    exact .inr (FlushLoop.relock_regular ran).next
  | accept | wake | exit | tryLockFails | flushSend => cases opened
  | _ => exact .inl opened

theorem session_step (move : Move params s action next) :
    Framed s.session next.session ∨
    (action = .install ∧ next.session = StreamingSession.install params s.session s.clock s.nextEngine ∧
      ∃ ctx, s.receiver = .configuring ctx) ∨
    ((∃ what, action = .installFails what) ∧ next.session = s.session.installFailed ∧
      ∃ ctx, s.receiver = .configuring ctx) ∨
    next.session = s.session.releaseModel.1 ∧
      (action = .release ∧ s.receiver = .unwinding ∨
        action = .destroyRelease ∧ s.receiver = .releasing) := by
  cases move with
  | text pc live ran => exact .inl (handleJsonMessage_framed ran)
  | binary pc live ran => exact .inl (handleBinaryMessage_framed ran)
  | install pc => exact .inr (.inl ⟨rfl,rfl,_,pc⟩)
  | installFails pc => exact .inr (.inr (.inl ⟨⟨_,rfl⟩,rfl,_,pc⟩))
  | finalPass pc ran => exact .inl (handleEnd_framed ran)
  | release pc ran => exact .inr (.inr (.inr ⟨by rw [ran],.inl ⟨rfl,pc⟩⟩))
  | destroyRelease pc ran => exact .inr (.inr (.inr ⟨by rw [ran],.inr ⟨rfl,pc⟩⟩))
  | cycle pc ran => exact .inl (FlushLoop.cycle_regular ran).frame
  | relock pc ran => exact .inl (FlushLoop.relock_regular ran).frame
  | accept | destroy => exact .inl ⟨rfl,rfl,rfl⟩
  | _ => exact .inl (.refl s.session)

def logs : Event → Action → Bool
  | .sent _,.send | .sent _,.flushSend => true
  | .acquired _,.acquire _ => true
  | .released,.release | .released,.destroyRelease => true
  | .configured _,.install => true
  | .dereferenced ..,.cycle .. | .dereferenced ..,.relock _ => true
  | .pass _,.cycle .. | .pass _,.relock _ => true
  | .forced _,.finalPass .. | .finalFailed _,.finalPass .. => true
  | _,_ => false

theorem log_step (move : Move params s action next) :
    ∃ new, next.log = s.log ++ new ∧ ∀ event ∈ new, logs event action = true := by
  have one {event : Event} (kind : logs event action = true) :
      ∀ found ∈ [event], logs found action = true := by
    intro found present
    rw [List.mem_singleton.mp present]
    exact kind
  have released {session after : StreamingSession} {events : List Event}
      (ran : session.releaseModel = (after,events)) (kind : logs .released action = true) :
      ∀ event ∈ events, logs event action = true := by
    rcases releaseModel_events ran with rfl | rfl
    · exact List.forall_mem_nil _
    · exact one kind
  have regular {session : StreamingSession} {done : Flushed} (stretch : FlushLoop.Regular session done)
      (reads : ∀ cycleEngine found, logs (.dereferenced cycleEngine found) action = true)
      (passes : ∀ result, logs (.pass result) action = true) :
      ∀ event ∈ done.events, logs event action = true := by
    intro event present
    rcases stretch.events event present with ⟨_,_,rfl⟩ | ⟨_,rfl⟩
    · exact reads _ _
    · exact passes _
  cases move with
  | send | flushSend | acquire | install => exact ⟨_,rfl,one rfl⟩
  | finalPass pc ran =>
    refine ⟨_,rfl,?_⟩
    rcases handleEnd_cases ran with ⟨_,_,rfl,_⟩ | ⟨_,_,_,rfl,_⟩
    · exact one rfl
    · exact one rfl
  | release pc ran => exact ⟨_,rfl,released ran rfl⟩
  | destroyRelease pc ran => exact ⟨_,rfl,released ran rfl⟩
  | cycle pc ran => exact ⟨_,rfl,regular (FlushLoop.cycle_regular ran) (fun _ _ => rfl) (fun _ => rfl)⟩
  | relock pc ran => exact ⟨_,rfl,regular (FlushLoop.relock_regular ran) (fun _ _ => rfl) (fun _ => rfl)⟩
  | _ => exact ⟨[],(List.append_nil _).symm,List.forall_mem_nil _⟩

theorem countP_step (move : Move params s action next) (p : Event → Bool)
    (other : ∀ event, logs event action = true → p event = false) :
    next.log.countP p = s.log.countP p := by
  obtain ⟨new,extended,logged⟩ := log_step params move
  have nothing : new.countP p = 0 := by
    rw [List.countP_eq_zero]
    intro event present
    rw [other event (logged event present)]
    exact Bool.false_ne_true
  rw [extended,List.countP_append,nothing,Nat.add_zero]

def isFinalPass : Action → Bool
  | .finalPass .. => true
  | _ => false

def concluding : Event → Bool
  | .forced _ | .finalFailed _ => true
  | _ => false

theorem finalPass_of_concluding (concludes : concluding event = true) (logged : logs event action = true) :
    ∃ slot outcome, action = .finalPass slot outcome := by
  cases event with
  | forced | finalFailed => cases action <;> first | exact ⟨_,_,rfl⟩ | cases logged
  | _ => cases concludes

-- The receive thread is between two frames or has something to tell first, and
-- it is on its way out of run() or past it.
def answering : Receiver → Bool
  | .reading | .sending .. | .closing _ => true
  | _ => false

def leaving : Receiver → Bool
  | .unwinding | .returned | .destroying | .releasing | .destroyed => true
  | _ => false

theorem answering_sendThen (messages : List ServerMessage) (next : AfterSend) :
    answering (sendThen messages next) = true := by
  cases messages <;> cases next <;> rfl

theorem answering_refusal (refusal : Refusal next) : answering next = true := by
  obtain ⟨_,_,_,rfl,_⟩ := refusal
  rfl

theorem answering_afterClose (kind : CloseKind) (failed : Option Text) :
    answering (afterClose kind failed) = true := by
  cases kind <;> cases failed <;> rfl

-- Where a step leaves the receive thread: past the handlers' checks only by an
-- authorized config and by an 'end' in a configured session.
theorem receiver_step (move : Move params s action next) :
    next.receiver = s.receiver ∨ answering next.receiver = true ∨ leaving next.receiver = true ∨
    (next.receiver = .acquiring ∧
      ∃ payload view, action = .text payload view ∧ Authorized params payload view) ∨
    (next.receiver = .joining ∧ s.session.configured = true) ∨
    (s.receiver = .acquiring ∧ ∃ ctx, next.receiver = .configuring ctx) ∨
    s.receiver = .joining ∧ next.receiver = .finalizing ∧ next.flusher = .exited := by
  cases move with
  | tick | wake | exit | tryLockFails | cycle | flushSend | relock => exact .inl rfl
  | text _ _ ran =>
    rcases handleJsonMessage_cases ran with
      ⟨_,refusal⟩ | ⟨_,_,rfl,authorized⟩ | ⟨_,rfl,ready⟩ | ⟨_,rfl⟩
    · exact .inr (.inl (answering_refusal refusal))
    · exact .inr (.inr (.inr (.inl ⟨rfl,_,_,rfl,authorized⟩)))
    · exact .inr (.inr (.inr (.inr (.inl ⟨rfl,ready⟩))))
    · exact .inr (.inr (.inl rfl))
  | binary _ _ ran =>
    obtain ⟨_,_,_,⟨_,rfl | rfl | ⟨rfl,_⟩⟩ | ⟨_,_,_,_,rfl⟩⟩ := handleBinaryMessage_cases ran
    · exact .inr (.inl rfl)
    · exact .inr (.inl rfl)
    · exact .inr (.inl rfl)
    · exact .inr (.inl (answering_sendThen _ _))
  | send => exact .inr (.inl (answering_sendThen _ _))
  | close => exact .inr (.inl (answering_afterClose _ _))
  | accept | acquireFails | install | installFails => exact .inr (.inl rfl)
  | finalPass _ ran =>
    rcases handleEnd_cases ran with ⟨_,rfl,_⟩ | ⟨_,_,_,_,_,_,rfl⟩
    · exact .inr (.inr (.inl rfl))
    · exact .inr (.inl rfl)
  | acceptFails | readFails | release | destroy | destroyJoin | destroyRelease =>
    exact .inr (.inr (.inl rfl))
  | acquire pc => exact .inr (.inr (.inr (.inr (.inr (.inl ⟨pc,_,rfl⟩)))))
  | join pc ended => exact .inr (.inr (.inr (.inr (.inr (.inr ⟨pc,rfl,ended⟩)))))

def flushes : Action → Bool
  | .wake | .exit | .tryLockFails | .cycle .. | .flushSend | .relock _ => true
  | _ => false

theorem halted_step (halted : joinable s.flusher = true) (move : Move params s action next) :
    flushes action = false := by
  cases move with
  | wake pc | exit pc | tryLockFails pc | cycle pc | flushSend pc | relock pc => rw [pc] at halted; cases halted
  | _ => rfl

-- Outside a cycle: the flush thread holds nothing over from a pass.
def idle : Flusher → Bool
  | .notStarted | .waiting | .awake | .exited => true
  | _ => false

def Handshake (s : State) : Prop := s.receiver = .handshake → s.flusher = .notStarted

theorem handshake_preserved (before : Handshake s) (move : Move params s action next) :
    Handshake next := by
  intro pc
  have origin : s.receiver = .handshake := by
    rcases receiver_step params move with
      same | answers | leaves | ⟨other,_⟩ | ⟨other,_⟩ | ⟨_,_,other⟩ | ⟨_,other,_⟩
    · exact same.symm.trans pc
    · rw [pc] at answers; cases answers
    · rw [pc] at leaves; cases leaves
    all_goals rw [pc] at other; cases other
  have unstarted := before origin
  have still := halted_step params (by rw [unstarted]; rfl) move
  cases move with
  | accept => cases pc
  | wake | exit | tryLockFails | cycle | flushSend | relock => cases still
  | _ => exact unstarted

theorem runs_handshake (path : Runs params (initial now) trace s) : Handshake s :=
  path.invariant (fun _ => rfl) (fun before one => handshake_preserved params before one.2)

theorem configured_preserved (move : Move params s action next) (ready : s.session.configured = true) :
    next.session.configured = true := by
  rcases session_step params move with
    frame | ⟨_,installed,_⟩ | ⟨_,failed,_⟩ | ⟨released,_⟩
  · exact frame.configured.trans ready
  · rw [installed]; rfl
  · rw [failed]; exact ready
  · rcases emptied : s.session.releaseModel with ⟨after,events⟩
    rw [released,emptied]
    rcases releaseModel_cases emptied with ⟨_,_,rfl⟩ | ⟨_,_,rfl⟩
    all_goals exact ready

theorem busy_preserved (before : idle s.flusher = false → s.session.configured = true)
    (move : Move params s action next) :
    idle next.flusher = false → next.session.configured = true := by
  intro busy
  refine configured_preserved params move ?_
  cases move with
  | accept | wake | exit | tryLockFails => cases busy
  | cycle pc ran =>
    rcases FlushLoop.cycle_cases params s.session s.clock _ _ with ⟨quiet,_⟩ | ⟨_,_,ready,_⟩
    · cases quiet.symm.trans ran; cases busy
    · rwa [FlushLoop.watchdog_configured] at ready
  | flushSend pc | relock pc => exact before (by rw [pc]; rfl)
  | _ => exact before busy

theorem runs_busy (path : Runs params (initial now) trace s) :
    idle s.flusher = false → s.session.configured = true :=
  path.invariant (I := fun s => idle s.flusher = false → s.session.configured = true)
    (fun busy => by cases busy) (fun before one => busy_preserved params before one.2)

theorem leaving_preserved (gone : leaving s.receiver = true) (move : Move params s action next) :
    leaving next.receiver = true := by
  cases move with
  | tick | wake | exit | tryLockFails | cycle | flushSend | relock => exact gone
  | release | destroy | destroyJoin | destroyRelease => rfl
  | accept pc | acceptFails pc | text pc | binary pc | readFails pc | send pc | close pc | acquire pc
  | acquireFails pc | install pc | installFails pc | join pc | finalPass pc =>
    rw [pc] at gone
    cases gone

-- Until then a configured session has its engine.
theorem engine_preserved
    (before : s.session.configured = true → leaving s.receiver = true ∨ s.session.engine.isSome = true)
    (move : Move params s action next) :
    next.session.configured = true → leaving next.receiver = true ∨ next.session.engine.isSome = true := by
  intro ready
  rcases session_step params move with
    frame | ⟨_,installed,_⟩ | ⟨_,failed,_⟩ | ⟨_,⟨rfl,_⟩ | ⟨rfl,_⟩⟩
  · rcases before (frame.configured.symm.trans ready) with gone | present
    · exact .inl (leaving_preserved params gone move)
    · have same := congrArg Option.isSome frame.engine
      rw [Option.isSome_map,Option.isSome_map] at same
      exact .inr (same.trans present)
  · rw [installed]; exact .inr rfl
  · rw [failed] at ready ⊢
    rcases before ready with gone | present
    · exact .inl (leaving_preserved params gone move)
    · exact .inr present
  · cases move
    exact .inl rfl
  · cases move
    exact .inl rfl

theorem runs_engine (path : Runs params (initial now) trace s) :
    s.session.configured = true → leaving s.receiver = true ∨ s.session.engine.isSome = true :=
  path.invariant
    (I := fun s => s.session.configured = true → leaving s.receiver = true ∨ s.session.engine.isSome = true)
    (fun ready => by cases ready) (fun before one => engine_preserved params before one.2)

theorem flags_step (move : Move params s action next) :
    (s.session.idleShutdownTriggered = true → next.session.idleShutdownTriggered = true) ∧
    (next.session.flushRunning = s.session.flushRunning ∨ next.session.flushRunning = true ∨
      next.receiver = .joining ∨ next.receiver = .destroying) := by
  have steady (same : Steady s.session next.session) :
      (s.session.idleShutdownTriggered = true → next.session.idleShutdownTriggered = true) ∧
      (next.session.flushRunning = s.session.flushRunning ∨ next.session.flushRunning = true ∨
        next.receiver = .joining ∨ next.receiver = .destroying) :=
    ⟨same.shutDown,.inl same.flushRunning⟩
  cases move with
  | text pc live ran =>
    rcases handleJsonMessage_cases ran with ⟨rfl,_⟩ | ⟨_,rfl,_⟩ | ⟨rfl,rfl,_⟩ | ⟨rfl,_⟩
    · exact steady (.refl _)
    · exact steady ⟨rfl,fun shut => shut⟩
    · exact ⟨fun shut => shut,.inr (.inr (.inl rfl))⟩
    · exact steady (.refl _)
  | binary pc live ran => exact steady (handleBinaryMessage_steady ran)
  | finalPass pc ran => exact steady (handleEnd_steady ran)
  | release pc ran => exact steady (releaseModel_steady ran)
  | destroyRelease pc ran => exact steady (releaseModel_steady ran)
  | cycle pc ran => exact steady (FlushLoop.cycle_steady ran)
  | relock pc ran => exact steady (FlushLoop.relock_steady ran)
  | accept => exact ⟨fun shut => shut,.inr (.inl rfl)⟩
  | destroy => exact ⟨fun shut => shut,.inr (.inr (.inr rfl))⟩
  | _ => exact ⟨fun shut => shut,.inl rfl⟩

def receives : Action → Bool
  | .text .. | .binary _ | .install => true
  | _ => false

theorem received_step (move : Move params s action next) (other : receives action = false) :
    Received s.session next.session := by
  cases move with
  | text | binary | install => cases other
  | finalPass pc ran =>
    rcases handleEnd_cases ran with ⟨_,_,_,_,_,_,_,_,rfl⟩ | ⟨_,_,_,_,_,rfl,_⟩
    · exact ⟨rfl,rfl,rfl,rfl⟩
    · exact ⟨rfl,rfl,rfl,rfl⟩
  | release pc ran => exact releaseModel_received ran
  | destroyRelease pc ran => exact releaseModel_received ran
  | cycle pc ran => exact FlushLoop.cycle_received ran
  | relock pc ran => exact FlushLoop.relock_received ran
  | accept | destroy | installFails => exact ⟨rfl,rfl,rfl,rfl⟩
  | _ => exact .refl s.session

def sentMessages (log : List Event) : List ServerMessage :=
  log.filterMap fun
    | .sent message => some message
    | _ => none

@[simp] theorem sentMessages_append (log new : List Event) :
    sentMessages (log ++ new) = sentMessages log ++ sentMessages new := by
  simp [sentMessages]

@[simp] theorem mem_sentMessages : message ∈ sentMessages log ↔ .sent message ∈ log := by
  simp only [sentMessages,List.mem_filterMap]
  constructor
  · rintro ⟨event,present,found⟩
    cases event <;> cases found
    exact present
  · intro present
    exact ⟨_,present,rfl⟩

theorem sentMessages_eq_nil (silent : ∀ message, .sent message ∉ log) : sentMessages log = [] := by
  rw [List.eq_nil_iff_forall_not_mem]
  intro message present
  exact silent message (mem_sentMessages.mp present)

def isSend : Action → Bool
  | .send | .flushSend => true
  | _ => false

theorem sentMessages_step (move : Move params s action next) (quiet : isSend action = false) :
    sentMessages next.log = sentMessages s.log := by
  obtain ⟨new,extended,logged⟩ := log_step params move
  have silent : ∀ message, .sent message ∉ new := by
    intro message present
    have kind := logged _ present
    cases action with
    | send | flushSend => cases quiet
    | _ => cases kind
  rw [extended,sentMessages_append,sentMessages_eq_nil silent,List.append_nil]

theorem sent_cases (move : Move params s action next) :
    (∃ message, next.log = s.log ++ [.sent message] ∧
      ((∃ rest after, s.receiver = .sending (message :: rest) after) ∨
        ∃ continuation, s.flusher = .sending message continuation)) ∨
    sentMessages next.log = sentMessages s.log := by
  by_cases sends : isSend action = true
  · cases move with
    | send pc => exact .inl ⟨_,rfl,.inl ⟨_,_,pc⟩⟩
    | flushSend pc => exact .inl ⟨_,rfl,.inr ⟨_,pc⟩⟩
    | _ => cases sends
  · exact .inr (sentMessages_step params move (Bool.not_eq_true _ ▸ sends))

-- What is true of every message sent and waiting to be sent stays true of those
-- sent.
theorem sent_step {P : ServerMessage → Prop} (sent : ∀ message ∈ sentMessages s.log, P message)
    (waiting : ∀ message ∈ unsent s.receiver, P message)
    (window : ∀ message continuation, s.flusher = .sending message continuation → P message)
    (move : Move params s action next) : ∀ message ∈ sentMessages next.log, P message := by
  rcases sent_cases params move with ⟨message,extended,source⟩ | same
  · rw [extended,sentMessages_append]
    intro found present
    rcases List.mem_append.mp present with old | last
    · exact sent found old
    · cases List.mem_singleton.mp last
      rcases source with ⟨rest,after,pc⟩ | ⟨continuation,pc⟩
      · exact waiting message (by simp [pc,unsent])
      · exact window message continuation pc
  · rw [same]
    exact sent

def configPayload : Text := bytes "\x7b\"type\":\"config\"\x7d"
def endPayload : Text := bytes "\x7b\"type\":\"end\"\x7d"

-- The constructor's default arguments, without auth. Of json::parse they know
-- the two messages a minimal client sends.
def defaultParams : SessionParams where
  sessionId := bytes "session"
  authManager := AuthManager.create ⟨[],300,[]⟩
  whisperBeamSize := ⟨5,by decide⟩
  sessionTimeoutSec := ⟨30,by decide⟩
  flushMinNewAudioMs := ⟨500,by decide⟩
  vadModelPath := []
  vadSpeechPadMs := ⟨400,by decide⟩
  parseJson := fun payload =>
    if payload = configPayload then .ok (.object [("type",.string (bytes "config"))])
    else if payload = endPayload then .ok (.object [("type",.string (bytes "end"))])
    else .error (.parseError [])
  typeErrorWhat := fun _ => []
  float32 := fun _ _ _ _ => 0

end JotaTranscriber.SessionMachine

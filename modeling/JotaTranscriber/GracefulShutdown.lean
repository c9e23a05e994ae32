import JotaTranscriber.Machine

-- main, the thread of the io_context with the signal handler on it, and the
-- session threads with SessionTracker between them. The detached thread that
-- ends the process after shutdown_timeout_sec is not among them.
namespace JotaTranscriber.GracefulShutdown

-- `starting` is main before it launches ioc_thread, `registering` before
-- async_wait is called; `accepted` stands from a successful accept() to the
-- spawn, and `stopping` for ioc.stop() still to be called.
inductive MainThread where
  | starting
  | registering
  | checking
  | accepting
  | accepted
  | joining
  | stopping
  | joiningIo
  | returned
  deriving DecidableEq, Repr

-- `running` is inside ioc.run(), waiting for the signal; then come the three
-- lines of the handler. While it is in shutdownAll's loop it owns the mutex of
-- the tracker, and `rest` is what it has not visited.
inductive IoThread where
  | absent
  | launched
  | running
  | closingAcceptor
  | locking
  | passing (rest : List Nat)
  | finishing
  | returned
  deriving DecidableEq, Repr

-- handleSession before a StreamingSession exists, with one, and after it.
inductive SessionThread where
  | opening
  | serving
  | finished
  deriving DecidableEq, Repr

-- `tracker` is sessions_, by position in `sessions`. `concerned` are the sessions
-- that were registered when a signal was delivered or have registered since, and
-- `shut` those whose shutdown() has been called.
structure State where
  main : MainThread
  io : IoThread
  acceptorOpen : Bool
  waiting : Bool
  stopped : Bool
  signalled : Bool
  passed : Bool
  sessions : List SessionThread
  tracker : List Nat
  concerned : List Nat
  shut : List Nat

-- turnAway is a connection that the limiter refuses or that gets no thread, and
-- `leave` one that is answered, or fails, without a StreamingSession.
inductive Action where
  | launchIo
  | asyncWait
  | check
  | accept
  | acceptFails (leaves : Bool)
  | turnAway
  | spawn
  | joinSessions
  | stop
  | joinIo
  | ioRun
  | ioStops
  | deliver
  | closeAcceptor
  | lock (order : List Nat)
  | shutdown
  | unlock
  | finishHandler
  | signal
  | register (position : Nat)
  | leave (position : Nat)
  | unregister (position : Nat)
  deriving DecidableEq, Repr

def initial : State :=
  { main := .starting
    io := .absent
    acceptorOpen := true
    waiting := false
    stopped := false
    signalled := false
    passed := false
    sessions := []
    tracker := []
    concerned := []
    shut := [] }

def passing (s : State) : Bool :=
  match s.io with
  | .passing _ => true
  | _ => false

def concern (s : State) (position : Nat) : List Nat :=
  if s.signalled then position :: s.concerned else s.concerned

-- run() returns at once when nothing is outstanding: the wait of the signal set
-- is the only work there ever is. The set is visited in an unspecified order.
-- Signals count from the end of the start-up on.
inductive Step : State → Action → State → Prop where
  | launchIo (pc : s.main = .starting) (absent : s.io = .absent) :
      Step s .launchIo { s with main := .registering, io := .launched }
  | asyncWait (pc : s.main = .registering) :
      Step s .asyncWait { s with main := .checking, waiting := true }
  | check (pc : s.main = .checking) :
      Step s .check { s with main := if s.acceptorOpen then .accepting else .joining }
  | accept (pc : s.main = .accepting) (isOpen : s.acceptorOpen = true) :
      Step s .accept { s with main := .accepted }
  | acceptFails (pc : s.main = .accepting) :
      Step s (.acceptFails leaves) { s with main := if leaves then .joining else .checking }
  | turnAway (pc : s.main = .accepted) : Step s .turnAway { s with main := .checking }
  | spawn (pc : s.main = .accepted) :
      Step s .spawn { s with main := .checking, sessions := s.sessions ++ [.opening] }
  | joinSessions (pc : s.main = .joining) (finished : ∀ session ∈ s.sessions, session = .finished) :
      Step s .joinSessions { s with main := .stopping }
  | stop (pc : s.main = .stopping) : Step s .stop { s with main := .joiningIo, stopped := true }
  | joinIo (pc : s.main = .joiningIo) (ended : s.io = .returned) :
      Step s .joinIo { s with main := .returned }
  | ioRun (pc : s.io = .launched) :
      Step s .ioRun { s with io := if s.waiting && !s.stopped then .running else .returned }
  | ioStops (pc : s.io = .running) (halted : s.stopped = true) : Step s .ioStops { s with io := .returned }
  | deliver (pc : s.io = .running) (live : s.stopped = false) (signalled : s.signalled = true) :
      Step s .deliver { s with io := .closingAcceptor }
  | closeAcceptor (pc : s.io = .closingAcceptor) :
      Step s .closeAcceptor { s with io := .locking, acceptorOpen := false }
  | lock (pc : s.io = .locking) (all : order.Perm s.tracker) :
      Step s (.lock order) { s with io := .passing order }
  | shutdown (pc : s.io = .passing (position :: rest)) :
      Step s .shutdown { s with io := .passing rest, shut := position :: s.shut }
  | unlock (pc : s.io = .passing []) : Step s .unlock { s with io := .finishing, passed := true }
  | finishHandler (pc : s.io = .finishing) : Step s .finishHandler { s with io := .returned }
  | signal (started : s.waiting = true) :
      Step s .signal { s with signalled := true, concerned := s.tracker ++ s.concerned }
  | register (pc : s.sessions[position]? = some .opening) (free : passing s = false) :
      Step s (.register position) { s with
        sessions := s.sessions.set position .serving
        tracker := position :: s.tracker
        concerned := concern s position }
  | leave (pc : s.sessions[position]? = some .opening) :
      Step s (.leave position) { s with sessions := s.sessions.set position .finished }
  | unregister (pc : s.sessions[position]? = some .serving) (free : passing s = false) :
      Step s (.unregister position) { s with
        sessions := s.sessions.set position .finished
        tracker := s.tracker.erase position }

abbrev Runs := Machine.Runs Step

def advance (s : State) : Action → Option State
  | .launchIo =>
    if s.main = .starting ∧ s.io = .absent then some { s with main := .registering, io := .launched }
    else none
  | .asyncWait => if s.main = .registering then some { s with main := .checking, waiting := true } else none
  | .check =>
    if s.main = .checking then some { s with main := if s.acceptorOpen then .accepting else .joining }
    else none
  | .accept =>
    if s.main = .accepting ∧ s.acceptorOpen = true then some { s with main := .accepted } else none
  | .acceptFails leaves =>
    if s.main = .accepting then some { s with main := if leaves then .joining else .checking } else none
  | .turnAway => if s.main = .accepted then some { s with main := .checking } else none
  | .spawn =>
    if s.main = .accepted then some { s with main := .checking, sessions := s.sessions ++ [.opening] }
    else none
  | .joinSessions =>
    if s.main = .joining ∧ ∀ session ∈ s.sessions, session = .finished then some { s with main := .stopping }
    else none
  | .stop => if s.main = .stopping then some { s with main := .joiningIo, stopped := true } else none
  | .joinIo => if s.main = .joiningIo ∧ s.io = .returned then some { s with main := .returned } else none
  | .ioRun =>
    if s.io = .launched then
      some { s with io := if s.waiting && !s.stopped then .running else .returned }
    else none
  | .ioStops => if s.io = .running ∧ s.stopped = true then some { s with io := .returned } else none
  | .deliver =>
    if s.io = .running ∧ s.stopped = false ∧ s.signalled = true then some { s with io := .closingAcceptor }
    else none
  | .closeAcceptor =>
    if s.io = .closingAcceptor then some { s with io := .locking, acceptorOpen := false } else none
  | .lock order =>
    if s.io = .locking ∧ order.Perm s.tracker then some { s with io := .passing order } else none
  | .shutdown =>
    match s.io with
    | .passing (position :: rest) => some { s with io := .passing rest, shut := position :: s.shut }
    | _ => none
  | .unlock => if s.io = .passing [] then some { s with io := .finishing, passed := true } else none
  | .finishHandler => if s.io = .finishing then some { s with io := .returned } else none
  | .signal =>
    if s.waiting = true then some { s with signalled := true, concerned := s.tracker ++ s.concerned }
    else none
  | .register position =>
    if s.sessions[position]? = some .opening ∧ !passing s then
      some { s with
        sessions := s.sessions.set position .serving
        tracker := position :: s.tracker
        concerned := concern s position }
    else none
  | .leave position =>
    if s.sessions[position]? = some .opening then
      some { s with sessions := s.sessions.set position .finished }
    else none
  | .unregister position =>
    if s.sessions[position]? = some .serving ∧ !passing s then
      some { s with
        sessions := s.sessions.set position .finished
        tracker := s.tracker.erase position }
    else none

theorem taken {enabled : Prop} [Decidable enabled] {after : State}
    (ran : (if enabled then some after else none) = some next) : enabled ∧ after = next := by
  split at ran
  · rename_i met
    exact ⟨met,Option.some.inj ran⟩
  · cases ran

theorem advance_sound (ran : advance s action = some next) : Step s action next := by
  cases action with
  | launchIo => obtain ⟨⟨pc,absent⟩,rfl⟩ := taken ran; exact .launchIo pc absent
  | asyncWait => obtain ⟨pc,rfl⟩ := taken ran; exact .asyncWait pc
  | check => obtain ⟨pc,rfl⟩ := taken ran; exact .check pc
  | accept => obtain ⟨⟨pc,isOpen⟩,rfl⟩ := taken ran; exact .accept pc isOpen
  | acceptFails => obtain ⟨pc,rfl⟩ := taken ran; exact .acceptFails pc
  | turnAway => obtain ⟨pc,rfl⟩ := taken ran; exact .turnAway pc
  | spawn => obtain ⟨pc,rfl⟩ := taken ran; exact .spawn pc
  | joinSessions => obtain ⟨⟨pc,finished⟩,rfl⟩ := taken ran; exact .joinSessions pc finished
  | stop => obtain ⟨pc,rfl⟩ := taken ran; exact .stop pc
  | joinIo => obtain ⟨⟨pc,ended⟩,rfl⟩ := taken ran; exact .joinIo pc ended
  | ioRun => obtain ⟨pc,rfl⟩ := taken ran; exact .ioRun pc
  | ioStops => obtain ⟨⟨pc,halted⟩,rfl⟩ := taken ran; exact .ioStops pc halted
  | deliver => obtain ⟨⟨pc,live,signalled⟩,rfl⟩ := taken ran; exact .deliver pc live signalled
  | closeAcceptor => obtain ⟨pc,rfl⟩ := taken ran; exact .closeAcceptor pc
  | lock => obtain ⟨⟨pc,all⟩,rfl⟩ := taken ran; exact .lock pc all
  | shutdown =>
    simp only [advance] at ran
    split at ran
    · rename_i pc
      cases ran
      exact .shutdown pc
    · cases ran
  | unlock => obtain ⟨pc,rfl⟩ := taken ran; exact .unlock pc
  | finishHandler => obtain ⟨pc,rfl⟩ := taken ran; exact .finishHandler pc
  | signal => obtain ⟨started,rfl⟩ := taken ran; exact .signal started
  | register => obtain ⟨⟨pc,free⟩,rfl⟩ := taken ran; exact .register pc (by simpa using free)
  | leave => obtain ⟨pc,rfl⟩ := taken ran; exact .leave pc
  | unregister => obtain ⟨⟨pc,free⟩,rfl⟩ := taken ran; exact .unregister pc (by simpa using free)

-- run() finds the wait registered, no session registers after the pass, and none
-- that is concerned goes away before it.
def proper (s : State) : Action → Bool
  | .ioRun => s.waiting
  | .register _ => !s.passed
  | .unregister _ => !s.signalled || s.passed
  | _ => true

def ioStep : Action → Bool
  | .ioRun | .ioStops | .deliver | .closeAcceptor | .lock _ | .shutdown | .unlock | .finishHandler => true
  | _ => false

-- shutdown() has been called on every session that is concerned once the io
-- thread has nothing more to do, and until then it gets there by itself.
def Completes (s : State) : Prop :=
  ∃ later next, Runs s later next ∧ (∀ entry ∈ later, ioStep entry.2 = true) ∧
    ∀ position ∈ next.concerned, position ∈ next.shut

structure Reaches (s : State) : Prop where
  ended : s.io = .finishing ∨ s.io = .returned → ∀ position ∈ s.concerned, position ∈ s.shut
  completes : Completes s

variable {trace : List (State × Action)} {s next : State} {action : Action} {position : Nat}

def past : MainThread → Bool
  | .stopping | .joiningIo | .returned => true
  | _ => false

structure Orderly (s : State) : Prop where
  begun : s.io = .absent → s.main = .starting ∧ s.waiting = false
  called : s.signalled = true → s.waiting = true
  handled : s.io = .finishing → s.passed = true
  gone : s.io = .returned → s.passed = true ∨ s.stopped = true
  joined : past s.main = true → ∀ session ∈ s.sessions, session = .finished
  halted : s.stopped = true → past s.main = true

theorem initial_orderly : Orderly initial where
  begun := fun _ => ⟨rfl,rfl⟩
  called := nofun
  handled := nofun
  gone := nofun
  joined := nofun
  halted := nofun

theorem Orderly.unfinished (orderly : Orderly s) {session : SessionThread}
    (pc : s.sessions[position]? = some session) (busy : session ≠ .finished) : past s.main = false := by
  rw [← Bool.not_eq_true]
  intro behind
  exact busy (orderly.joined behind session (List.mem_of_getElem? pc))

theorem Orderly.launched (orderly : Orderly s) (underway : s.main ≠ .starting) : s.io ≠ .absent := by
  intro absent
  exact underway (orderly.begun absent).1

theorem Orderly.running (orderly : Orderly s) (before : past s.main = false) : s.stopped = false := by
  rw [← Bool.not_eq_true]
  intro halt
  have behind := orderly.halted halt
  rw [before] at behind
  cases behind

theorem Orderly.front (orderly : Orderly s) (underway : s.main ≠ .starting) (here : past s.main = false)
    (there : past main = false) (sessions : List SessionThread) : Orderly { s with main, sessions } where
  begun := fun absent => absurd absent (orderly.launched underway)
  called := orderly.called
  handled := orderly.handled
  gone := orderly.gone
  joined := fun behind => by rw [there] at behind; cases behind
  halted := fun halt => by rw [orderly.running here] at halt; cases halt

theorem Orderly.behind (orderly : Orderly s) (underway : s.main ≠ .starting) (there : past main = true)
    (finished : ∀ session ∈ s.sessions, session = .finished) : Orderly { s with main } where
  begun := fun absent => absurd absent (orderly.launched underway)
  called := orderly.called
  handled := orderly.handled
  gone := orderly.gone
  joined := fun _ => finished
  halted := fun _ => there

theorem orderly_preserved (orderly : Orderly s) (permitted : proper s action = true)
    (one : Step s action next) : Orderly next := by
  cases one with
  | launchIo pc =>
    have live := orderly.running (by rw [pc]; rfl)
    exact { orderly with begun := nofun, handled := nofun, gone := nofun, joined := nofun,
                         halted := fun halt => by rw [live] at halt; cases halt }
  | asyncWait pc =>
    have ahead := orderly.front (by rw [pc]; nofun) (by rw [pc]; rfl) (by rfl : past .checking = false) s.sessions
    exact { ahead with begun := fun absent => absurd absent (orderly.launched (by rw [pc]; nofun)),
                       called := fun _ => rfl }
  | check pc =>
    refine orderly.front (by rw [pc]; nofun) (by rw [pc]; rfl) ?_ s.sessions
    cases s.acceptorOpen <;> rfl
  | @acceptFails _ leaves pc =>
    refine orderly.front (by rw [pc]; nofun) (by rw [pc]; rfl) ?_ s.sessions
    cases leaves <;> rfl
  | accept pc | turnAway pc | spawn pc =>
    exact orderly.front (by rw [pc]; nofun) (by rw [pc]; rfl) (by rfl) _
  | joinSessions pc finished => exact orderly.behind (by rw [pc]; nofun) (by rfl) finished
  | stop pc =>
    have joined := orderly.joined (by rw [pc]; rfl)
    have ahead := orderly.behind (by rw [pc]; nofun) (by rfl : past .joiningIo = true) joined
    exact { ahead with halted := fun _ => rfl, gone := fun _ => .inr rfl }
  | joinIo pc =>
    exact orderly.behind (by rw [pc]; nofun) (by rfl) (orderly.joined (by rw [pc]; rfl))
  | ioRun =>
    have waits : s.waiting = true := permitted
    refine { orderly with begun := ?_, handled := ?_, gone := ?_ }
    · dsimp only
      split <;> exact nofun
    · dsimp only
      split <;> exact nofun
    · dsimp only
      rw [waits]
      cases s.stopped with
      | false => exact nofun
      | true => exact fun _ => .inr rfl
  | ioStops _ halted =>
    exact { orderly with begun := nofun, handled := nofun, gone := fun _ => .inr halted }
  | deliver | closeAcceptor | lock | shutdown =>
    exact { orderly with begun := nofun, handled := nofun, gone := nofun }
  | unlock => exact { orderly with begun := nofun, handled := fun _ => rfl, gone := nofun }
  | finishHandler pc =>
    exact { orderly with begun := nofun, handled := nofun, gone := fun _ => .inl (orderly.handled pc) }
  | signal started => exact { orderly with called := fun _ => started }
  | register pc | leave pc | unregister pc =>
    have front := orderly.unfinished pc nofun
    exact { orderly with joined := fun behind => by rw [front] at behind; cases behind }

-- What the pass has still to visit, as far as it is known.
def remaining (s : State) : List Nat :=
  match s.io with
  | .passing rest => rest
  | _ => s.tracker

def Due (s : State) (position : Nat) : Prop :=
  position ∈ s.shut ∨ s.passed = false ∧ position ∈ remaining s

structure Kept (s : State) : Prop where
  tracked : ∀ position ∈ s.tracker, s.sessions[position]? = some .serving
  distinct : s.tracker.Nodup
  due : ∀ position, position ∈ s.concerned ∨ position ∈ s.tracker → Due s position
  unconcerned : s.signalled = false → s.concerned = []

theorem initial_kept : Kept initial where
  tracked := List.forall_mem_nil _
  distinct := List.nodup_nil
  due := fun _ either => by rcases either with impossible | impossible <;> cases impossible
  unconcerned := fun _ => rfl

theorem remaining_unlocked (free : passing s = false) : remaining s = s.tracker := by
  unfold remaining
  unfold passing at free
  cases pc : s.io with
  | passing rest =>
    rw [pc] at free
    cases free
  | _ => rfl

theorem Kept.unchanged (kept : Kept s) (sessions : next.sessions = s.sessions)
    (tracker : next.tracker = s.tracker) (concerned : next.concerned = s.concerned)
    (shut : next.shut = s.shut) (passed : next.passed = s.passed) (signalled : next.signalled = s.signalled)
    (left : remaining next = remaining s) : Kept next := by
  obtain ⟨tracked,distinct,due,unconcerned⟩ := kept
  refine ⟨?_,by rwa [tracker],?_,by rwa [signalled,concerned]⟩
  · rwa [tracker,sessions]
  · intro position either
    rw [concerned,tracker] at either
    unfold Due
    rw [shut,passed,left]
    exact due position either

theorem Kept.elsewhere (kept : Kept s) {session : SessionThread}
    (pc : s.sessions[position]? = some session) (other : session ≠ .serving) (after : SessionThread) :
    ∀ held ∈ s.tracker, (s.sessions.set position after)[held]? = some .serving := by
  intro held member
  have serves := kept.tracked held member
  rw [List.getElem?_set_ne]
  · exact serves
  · rintro rfl
    rw [pc] at serves
    exact other (Option.some.inj serves)

theorem lock_kept (kept : Kept s) (pc : s.io = .locking) (all : order.Perm s.tracker) :
    Kept { s with io := .passing order } := by
  obtain ⟨tracked,distinct,due,unconcerned⟩ := kept
  refine ⟨tracked,distinct,?_,unconcerned⟩
  intro position either
  refine (due position either).imp_right ?_
  intro ⟨early,left⟩
  rw [remaining_unlocked (by simp [passing,pc])] at left
  exact ⟨early,all.mem_iff.mpr left⟩

theorem shutdown_kept (kept : Kept s) (pc : s.io = .passing (visited :: rest)) :
    Kept { s with io := .passing rest, shut := visited :: s.shut } := by
  obtain ⟨tracked,distinct,due,unconcerned⟩ := kept
  refine ⟨tracked,distinct,?_,unconcerned⟩
  intro position either
  rcases due position either with done | ⟨early,left⟩
  · exact .inl (List.mem_cons_of_mem visited done)
  · simp only [remaining,pc] at left
    rcases List.mem_cons.mp left with rfl | later
    · exact .inl List.mem_cons_self
    · exact .inr ⟨early,later⟩

theorem unlock_kept (kept : Kept s) (pc : s.io = .passing []) :
    Kept { s with io := .finishing, passed := true } := by
  obtain ⟨tracked,distinct,due,unconcerned⟩ := kept
  refine ⟨tracked,distinct,?_,unconcerned⟩
  intro position either
  rcases due position either with done | ⟨_,left⟩
  · exact .inl done
  · simp only [remaining,pc] at left
    cases left

theorem register_kept (kept : Kept s) (early : s.passed = false)
    (pc : s.sessions[position]? = some .opening) (free : passing s = false) :
    Kept { s with
      sessions := s.sessions.set position .serving
      tracker := position :: s.tracker
      concerned := concern s position } := by
  have below := (List.getElem?_eq_some_iff.mp pc).1
  have new : position ∉ s.tracker := by
    intro member
    have serves := kept.tracked position member
    rw [pc] at serves
    cases serves
  refine ⟨?_,List.nodup_cons.mpr ⟨new,kept.distinct⟩,?_,?_⟩
  · intro held member
    rcases List.mem_cons.mp member with rfl | old
    · exact List.getElem?_set_self below
    · exact kept.elsewhere pc nofun .serving held old
  · intro held either
    have still : remaining { s with
        sessions := s.sessions.set position .serving
        tracker := position :: s.tracker
        concerned := concern s position } = position :: s.tracker := remaining_unlocked free
    have known : held = position ∨ held ∈ s.concerned ∨ held ∈ s.tracker := by
      simp only [concern] at either
      rcases either with listed | tracked
      · split at listed
        · exact (List.mem_cons.mp listed).imp_right .inl
        · exact .inr (.inl listed)
      · exact (List.mem_cons.mp tracked).imp_right .inr
    rcases known with rfl | old
    · exact .inr ⟨early,by rw [still]; exact List.mem_cons_self⟩
    · refine (kept.due held old).imp_right ?_
      intro ⟨_,left⟩
      rw [remaining_unlocked free] at left
      exact ⟨early,by rw [still]; exact List.mem_cons_of_mem position left⟩
  · intro calm
    have silent : s.signalled = false := calm
    simp only [concern,silent]
    exact kept.unconcerned silent

theorem unregister_kept (kept : Kept s) (permitted : s.signalled = false ∨ s.passed = true)
    (free : passing s = false) (position : Nat) :
    Kept { s with
      sessions := s.sessions.set position .finished
      tracker := s.tracker.erase position } := by
  refine ⟨?_,kept.distinct.erase position,?_,kept.unconcerned⟩
  · intro held member
    have serves := kept.tracked held (List.mem_of_mem_erase member)
    rw [List.getElem?_set_ne]
    · exact serves
    · rintro rfl
      exact kept.distinct.not_mem_erase member
  · intro held either
    have still : remaining { s with
        sessions := s.sessions.set position .finished
        tracker := s.tracker.erase position } = s.tracker.erase position := remaining_unlocked free
    have known : Due s held :=
      kept.due held (either.imp_right List.mem_of_mem_erase)
    rcases known with done | ⟨early,_⟩
    · exact .inl done
    · -- Before the pass there is no concerned session yet.
      have silent := permitted.resolve_right (by rw [early]; nofun)
      have tracked : held ∈ s.tracker.erase position := by
        rcases either with listed | tracked
        · rw [show s.concerned = [] from kept.unconcerned silent] at listed
          cases listed
        · exact tracked
      exact .inr ⟨early,by rw [still]; exact tracked⟩

theorem kept_preserved (kept : Kept s) (permitted : proper s action = true) (one : Step s action next) :
    Kept next := by
  cases one with
  | launchIo pc absent => exact kept.unchanged rfl rfl rfl rfl rfl rfl (by simp [remaining,absent])
  | asyncWait | check | accept | acceptFails | turnAway | joinSessions | stop | joinIo =>
    exact kept.unchanged rfl rfl rfl rfl rfl rfl rfl
  | ioRun pc =>
    refine kept.unchanged rfl rfl rfl rfl rfl rfl ?_
    simp only [remaining,pc]
    cases s.waiting && !s.stopped <;> rfl
  | ioStops pc | deliver pc | closeAcceptor pc | finishHandler pc =>
    exact kept.unchanged rfl rfl rfl rfl rfl rfl (by simp [remaining,pc])
  | spawn =>
    refine ⟨?_,kept.distinct,kept.due,kept.unconcerned⟩
    intro held member
    have serves := kept.tracked held member
    exact (List.getElem?_append_left (List.getElem?_eq_some_iff.mp serves).1).trans serves
  | lock pc all => exact lock_kept kept pc all
  | shutdown pc => exact shutdown_kept kept pc
  | unlock pc => exact unlock_kept kept pc
  | signal =>
    refine ⟨kept.tracked,kept.distinct,?_,nofun⟩
    intro position either
    rcases either with listed | tracked
    · exact kept.due position (List.mem_append.mp listed).symm
    · exact kept.due position (.inr tracked)
  | register pc free => exact register_kept kept (by simpa [proper] using permitted) pc free
  | leave pc => exact ⟨kept.elsewhere pc nofun _,kept.distinct,kept.due,kept.unconcerned⟩
  | @unregister position s pc free =>
    exact unregister_kept kept (by simpa [proper] using permitted) free position

structure Sound (s : State) : Prop where
  orderly : Orderly s
  kept : Kept s

theorem sound_preserved (sound : Sound s) (permitted : proper s action = true) (one : Step s action next) :
    Sound next :=
  ⟨orderly_preserved sound.orderly permitted one,kept_preserved sound.kept permitted one⟩

theorem runs_sound (path : Runs initial trace s)
    (permitted : ∀ entry ∈ trace, proper entry.1 entry.2 = true) : Sound s :=
  path.guarded (C := fun s action => proper s action = true) permitted ⟨initial_orderly,initial_kept⟩
    (fun sound met one => sound_preserved sound met one)

theorem Sound.deserted (sound : Sound s) (halt : s.stopped = true) : s.tracker = [] := by
  rw [List.eq_nil_iff_forall_not_mem]
  intro position member
  have serves := sound.kept.tracked position member
  have finished := sound.orderly.joined (sound.orderly.halted halt) _ (List.mem_of_getElem? serves)
  cases finished

theorem Sound.ended (sound : Sound s) (done : s.io = .finishing ∨ s.io = .returned) :
    ∀ position ∈ s.concerned, position ∈ s.shut := by
  intro position listed
  rcases sound.kept.due position (.inl listed) with visited | ⟨early,left⟩
  · exact visited
  · have behind : s.stopped = true := by
      rcases done with pc | pc
      · rw [sound.orderly.handled pc] at early
        cases early
      · exact (sound.orderly.gone pc).resolve_left (by rw [early]; nofun)
    have free : passing s = false := by
      rcases done with pc | pc <;> simp [passing,pc]
    rw [remaining_unlocked free,sound.deserted behind] at left
    cases left

theorem completes_ended (sound : Sound s) (done : s.io = .finishing ∨ s.io = .returned) : Completes s :=
  ⟨[],s,.nil,List.forall_mem_nil _,sound.ended done⟩

theorem completes_step (sound : Sound s) (one : Step s action next) (own : ioStep action = true)
    (permitted : proper s action = true) (rest : Sound next → Completes next) : Completes s := by
  obtain ⟨later,last,path,ours,reached⟩ := rest (sound_preserved sound permitted one)
  refine ⟨_,last,(Machine.Runs.single one).append path,?_,reached⟩
  intro entry present
  rcases List.mem_append.mp present with first | others
  · rw [List.mem_singleton.mp first]
    exact own
  · exact ours entry others

theorem completes_passing (rest : List Nat) (sound : Sound s) (pc : s.io = .passing rest) : Completes s := by
  induction rest generalizing s with
  | nil => exact completes_step sound (.unlock pc) rfl rfl fun after => completes_ended after (.inl rfl)
  | cons position rest ih => exact completes_step sound (.shutdown pc) rfl rfl fun after => ih after rfl

theorem completes_locking (sound : Sound s) (pc : s.io = .locking) : Completes s :=
  completes_step sound (.lock pc (List.Perm.refl s.tracker)) rfl rfl
    fun after => completes_passing s.tracker after rfl

theorem completes_closing (sound : Sound s) (pc : s.io = .closingAcceptor) : Completes s :=
  completes_step sound (.closeAcceptor pc) rfl rfl fun after => completes_locking after rfl

theorem completes_running (sound : Sound s) (signalled : s.signalled = true) (pc : s.io = .running) :
    Completes s := by
  cases halt : s.stopped with
  | true =>
    exact completes_step sound (.ioStops pc halt) rfl rfl fun after => completes_ended after (.inr rfl)
  | false =>
    exact completes_step sound (.deliver pc halt signalled) rfl rfl fun after => completes_closing after rfl

theorem completes_launched (sound : Sound s) (signalled : s.signalled = true) (pc : s.io = .launched) :
    Completes s := by
  have waits := sound.orderly.called signalled
  refine completes_step sound (.ioRun pc) rfl waits ?_
  intro after
  rcases Bool.eq_false_or_eq_true s.stopped with halt | halt
  · exact completes_ended after (.inr (by simp [halt]))
  · exact completes_running after signalled (by simp [waits,halt])

theorem shutdown_reaches (path : Runs initial trace s)
    (permitted : ∀ entry ∈ trace, proper entry.1 entry.2 = true) (signalled : s.signalled = true) :
    Reaches s := by
  have sound := runs_sound path permitted
  refine ⟨sound.ended,?_⟩
  cases pc : s.io with
  | absent =>
    have idle := (sound.orderly.begun pc).2
    rw [sound.orderly.called signalled] at idle
    cases idle
  | launched => exact completes_launched sound signalled pc
  | running => exact completes_running sound signalled pc
  | closingAcceptor => exact completes_closing sound pc
  | locking => exact completes_locking sound pc
  | passing rest => exact completes_passing rest sound pc
  | finishing => exact completes_ended sound (.inl pc)
  | returned => exact completes_ended sound (.inr pc)

-- The second session is constructed after the signal and before the pass.
def orderlyEnd : List Action :=
  [.launchIo,.asyncWait,.ioRun,.check,.accept,.spawn,.check,.accept,.spawn,.register 0,.signal,.deliver,
    .closeAcceptor,.register 1,.lock [0,1],.shutdown,.shutdown,.unlock,.finishHandler]

theorem shutdown_reaches_late_session : ∃ trace s, Runs initial trace s ∧
    trace.map Prod.snd = orderlyEnd ∧ s.concerned = [1,0] ∧ Reaches s := by
  obtain ⟨s,ran,listed,signalled⟩ : ∃ s, Machine.replay advance proper initial orderlyEnd = some s ∧
      s.concerned = [1,0] ∧ s.signalled = true := ⟨_,rfl,rfl,rfl⟩
  obtain ⟨trace,same,path,permitted⟩ := Machine.replay_sound advance_sound ran
  exact ⟨trace,s,path,same,listed,shutdown_reaches path permitted signalled⟩

-- The io thread finds nothing to wait for and is gone when the signal comes.
def earlyRun : List Action :=
  [.launchIo,.ioRun,.asyncWait,.check,.accept,.spawn,.register 0,.signal]

-- The connection is still in its handshake during the pass.
def lateRegistration : List Action :=
  [.launchIo,.asyncWait,.ioRun,.check,.accept,.spawn,.signal,.deliver,.closeAcceptor,.lock [],.unlock,
    .finishHandler,.register 0]

def Missed (s : State) : Prop :=
  s.signalled = true ∧ s.sessions = [.serving] ∧ s.concerned = [0] ∧ s.io = .returned ∧ s.shut = []

theorem missed_not_reaches (missed : Missed s) : ¬ Reaches s := by
  obtain ⟨_,_,listed,gone,unshut⟩ := missed
  intro reaches
  have visited := reaches.ended (.inr gone) 0 (by rw [listed]; exact List.mem_singleton_self 0)
  rw [unshut] at visited
  cases visited

theorem shutdown_misses_session :
    (∃ trace s, Runs initial trace s ∧ trace.map Prod.snd = earlyRun ∧ s.signalled = true ∧
      s.sessions = [.serving] ∧ ¬ Reaches s) ∧
    ∃ trace s, Runs initial trace s ∧ trace.map Prod.snd = lateRegistration ∧ s.signalled = true ∧
      s.sessions = [.serving] ∧ ¬ Reaches s := by
  constructor
  · obtain ⟨s,ran,missed⟩ : ∃ s, Machine.replay advance (fun _ _ => true) initial earlyRun = some s ∧
        Missed s := ⟨_,rfl,rfl,rfl,rfl,rfl,rfl⟩
    obtain ⟨trace,same,path,_⟩ := Machine.replay_sound advance_sound ran
    exact ⟨trace,s,path,same,missed.1,missed.2.1,missed_not_reaches missed⟩
  · obtain ⟨s,ran,missed⟩ : ∃ s,
        Machine.replay advance (fun _ _ => true) initial lateRegistration = some s ∧ Missed s :=
      ⟨_,rfl,rfl,rfl,rfl,rfl,rfl⟩
    obtain ⟨trace,same,path,_⟩ := Machine.replay_sound advance_sound ran
    exact ⟨trace,s,path,same,missed.1,missed.2.1,missed_not_reaches missed⟩

end JotaTranscriber.GracefulShutdown

import JotaTranscriber.ConnectionLimiter
import JotaTranscriber.Machine

namespace JotaTranscriber.AcceptLoop

-- A connection that tryAcquire let in, with the trust answer it was judged by.
structure Connection where
  id : Nat
  ip : Text
  trusted : Bool
  deriving DecidableEq, Repr

inductive AcceptResult where
  | connected
  | operationAborted
  | interrupted
  | failed
  deriving DecidableEq, Repr

inductive Departure where
  | acceptorClosed
  | operationAborted
  | interrupted
  deriving DecidableEq, Repr

-- Where main is between the while test and the spawn of a session thread. An
-- exception outside the one try block leaves the loop and unwinds main
-- (`unwound`): ioc_thread is joinable there, and so is every element of
-- session_threads, so that the first destructor ends the process.
inductive MainThread where
  | checking
  | accepting
  | accepted
  | identified (ip : Text)
  | judged (ip : Text) (trusted : Bool)
  | rejecting
  | spawning (connection : Connection)
  | left (reason : Departure)
  | unwound
  deriving DecidableEq, Repr

inductive Event where
  | acquired (connection : Connection)
  | released (connection : Connection)
  deriving DecidableEq, Repr

-- `serving` are the session threads inside handleSession, whose first local is
-- the ConnectionGuard; `finished` have left it and wait to be joined.
structure State where
  limiter : ConnectionLimiter
  acceptorOpen : Bool
  main : MainThread
  serving : List Connection
  finished : List Connection
  nextId : Nat
  log : List Event

-- remote_endpoint() and socket.close() are the throwing overloads; none and
-- true stand for the exception.
inductive Action where
  | closeAcceptor
  | check
  | accept (result : AcceptResult)
  | remoteEndpoint (ip : Option Text)
  | isTrusted (answer : Bool)
  | tryAcquire
  | closeSocket (throws : Bool)
  | spawn (succeeds : Bool)
  | finish (connection : Connection)
  deriving DecidableEq, Repr

def initial (maxTotal maxPerIp : Nat) : State :=
  ⟨.create maxTotal maxPerIp,true,.checking,[],[],0,[]⟩

def afterAccept : AcceptResult → MainThread
  | .connected => .accepted
  | .operationAborted => .left .operationAborted
  | .interrupted => .left .interrupted
  | .failed => .checking

def afterEndpoint : Option Text → MainThread
  | some ip => .identified ip
  | none => .unwound

-- The destructor of ConnectionGuard is part of `finish`. A spawn that throws
-- has started no thread: vector storage is allocated before the thread is.
inductive Move : State → Action → State → Prop where
  | closeAcceptor : Move s .closeAcceptor { s with acceptorOpen := false }
  | check (pc : s.main = .checking) :
      Move s .check { s with main := if s.acceptorOpen then .accepting else .left .acceptorClosed }
  | accept (pc : s.main = .accepting) : Move s (.accept result) { s with main := afterAccept result }
  | remoteEndpoint (pc : s.main = .accepted) :
      Move s (.remoteEndpoint ip) { s with main := afterEndpoint ip }
  | isTrusted (pc : s.main = .identified ip) :
      Move s (.isTrusted answer) { s with main := .judged ip answer }
  | granted (pc : s.main = .judged ip trusted)
      (ran : s.limiter.tryAcquire ip trusted = (after,true)) :
      Move s .tryAcquire { s with
        limiter := after
        main := .spawning ⟨s.nextId,ip,trusted⟩
        nextId := s.nextId + 1
        log := s.log ++ [.acquired ⟨s.nextId,ip,trusted⟩] }
  | refuse (pc : s.main = .judged ip trusted)
      (ran : s.limiter.tryAcquire ip trusted = (after,false)) :
      Move s .tryAcquire { s with limiter := after, main := .rejecting }
  | closeSocket (pc : s.main = .rejecting) :
      Move s (.closeSocket throws) { s with main := if throws then .unwound else .checking }
  | spawn (pc : s.main = .spawning connection) :
      Move s (.spawn true) { s with main := .checking, serving := connection :: s.serving }
  | spawnFails (pc : s.main = .spawning connection) :
      Move s (.spawn false) { s with
        main := .checking
        limiter := s.limiter.release connection.ip
        log := s.log ++ [.released connection] }
  | finish (present : connection ∈ s.serving) :
      Move s (.finish connection) { s with
        limiter := s.limiter.release connection.ip
        serving := s.serving.erase connection
        finished := connection :: s.finished
        log := s.log ++ [.released connection] }

def Step (s : State) (action : Action) (next : State) : Prop :=
  s.main ≠ .unwound ∧ Move s action next

abbrev Runs := Machine.Runs Step

def advance (s : State) (action : Action) : Option State :=
  if s.main = .unwound then none
  else
    match action,s.main with
    | .closeAcceptor,_ => some { s with acceptorOpen := false }
    | .check,.checking =>
      some { s with main := if s.acceptorOpen then .accepting else .left .acceptorClosed }
    | .accept result,.accepting => some { s with main := afterAccept result }
    | .remoteEndpoint ip,.accepted => some { s with main := afterEndpoint ip }
    | .isTrusted answer,.identified ip => some { s with main := .judged ip answer }
    | .tryAcquire,.judged ip trusted =>
      match s.limiter.tryAcquire ip trusted with
      | (after,true) => some { s with
          limiter := after
          main := .spawning ⟨s.nextId,ip,trusted⟩
          nextId := s.nextId + 1
          log := s.log ++ [.acquired ⟨s.nextId,ip,trusted⟩] }
      | (after,false) => some { s with limiter := after, main := .rejecting }
    | .closeSocket throws,.rejecting => some { s with main := if throws then .unwound else .checking }
    | .spawn true,.spawning connection =>
      some { s with main := .checking, serving := connection :: s.serving }
    | .spawn false,.spawning connection => some { s with
        main := .checking
        limiter := s.limiter.release connection.ip
        log := s.log ++ [.released connection] }
    | .finish connection,_ =>
      if connection ∈ s.serving then some { s with
        limiter := s.limiter.release connection.ip
        serving := s.serving.erase connection
        finished := connection :: s.finished
        log := s.log ++ [.released connection] }
      else none
    | _,_ => none

theorem advance_sound (ran : advance s action = some next) : Step s action next := by
  unfold advance at ran
  split at ran
  · cases ran
  rename_i inside
  refine ⟨inside,?_⟩
  split at ran
  · cases ran; exact .closeAcceptor
  · rename_i pc; cases ran; exact .check pc
  · rename_i pc; cases ran; exact .accept pc
  · rename_i pc; cases ran; exact .remoteEndpoint pc
  · rename_i pc; cases ran; exact .isTrusted pc
  · rename_i pc
    split at ran
    · rename_i asked; cases ran; exact .granted pc asked
    · rename_i asked; cases ran; exact .refuse pc asked
  · rename_i pc; cases ran; exact .closeSocket pc
  · rename_i pc; cases ran; exact .spawn pc
  · rename_i pc; cases ran; exact .spawnFails pc
  · split at ran
    · rename_i present; cases ran; exact .finish present
    · cases ran
  · cases ran

def run (s : State) (actions : List Action) : Option State :=
  Machine.replay advance (fun _ _ => true) s actions

theorem run_sound (ran : run s actions = some next) :
    ∃ trace, trace.map Prod.snd = actions ∧ Runs s trace next := by
  obtain ⟨trace,same,path,_⟩ := Machine.replay_sound advance_sound ran
  exact ⟨trace,same,path⟩

def throws : Action → Bool
  | .remoteEndpoint ip => ip.isNone
  | .closeSocket threw => threw
  | _ => false

theorem unwound_step (move : Move s action next) (inside : s.main ≠ .unwound) :
    next.main = .unwound ↔ throws action = true := by
  cases move with
  | closeAcceptor | finish => simpa [throws] using inside
  | check => simp only [throws]; split <;> simp
  | @accept _ result => cases result <;> simp [throws,afterAccept]
  | @remoteEndpoint _ ip => cases ip <;> simp [throws,afterEndpoint]
  | @closeSocket _ threw => cases threw <;> simp [throws]
  | isTrusted | granted | refuse | spawn | spawnFails => simp [throws]

theorem runs_unwound (path : Runs (initial maxTotal maxPerIp) trace s) :
    s.main = .unwound ↔ ∃ entry ∈ trace, throws entry.2 = true := by
  induction path with
  | nil => simp [initial]
  | @step trace middle action after prior one ih =>
    have calm : ¬ ∃ entry ∈ trace, throws entry.2 = true := fun threw => one.1 (ih.mpr threw)
    rw [unwound_step one.2 one.1]
    constructor
    · intro threw
      exact ⟨(middle,action),by simp,threw⟩
    · rintro ⟨entry,present,threw⟩
      rcases List.mem_append.mp present with old | last
      · exact absurd ⟨entry,old,threw⟩ calm
      · cases List.mem_singleton.mp last; exact threw

-- Why main stands behind the loop: the acceptor is closed, or this accept()
-- reported one of the two codes that stand for a shutdown.
def Justifies (trace : List (State × Action)) (s : State) : Departure → Prop
  | .acceptorClosed => s.acceptorOpen = false
  | .operationAborted => ∃ before, (before,.accept .operationAborted) ∈ trace
  | .interrupted => ∃ before, (before,.accept .interrupted) ∈ trace

theorem acceptorOpen_step (move : Move s action next) (closed : s.acceptorOpen = false) :
    next.acceptorOpen = false := by
  cases move <;> first | rfl | exact closed

theorem left_step (move : Move s action next) (gone : next.main = .left reason) :
    s.main = .left reason ∨ Justifies [(s,action)] next reason := by
  cases move with
  | closeAcceptor | finish => exact .inl gone
  | check =>
    replace gone : (if s.acceptorOpen then MainThread.accepting else .left .acceptorClosed) =
      .left reason := gone
    split at gone
    · cases gone
    · rename_i closed
      cases gone
      exact .inr (by simpa [Justifies] using closed)
  | @accept _ result =>
    replace gone : afterAccept result = .left reason := gone
    cases result <;> cases gone
    · exact .inr ⟨s,List.mem_singleton_self _⟩
    · exact .inr ⟨s,List.mem_singleton_self _⟩
  | @remoteEndpoint _ ip =>
    replace gone : afterEndpoint ip = .left reason := gone
    cases ip <;> cases gone
  | @closeSocket _ threw =>
    replace gone : (if threw then MainThread.unwound else .checking) = .left reason := gone
    cases threw <;> cases gone
  | isTrusted | granted | refuse | spawn | spawnFails => cases gone

theorem justifies_step (move : Move s action next) (earlier : Justifies trace s reason) :
    Justifies (trace ++ [(s,action)]) next reason := by
  cases reason with
  | acceptorClosed => exact acceptorOpen_step move earlier
  | operationAborted | interrupted =>
    obtain ⟨before,present⟩ := earlier
    exact ⟨before,List.mem_append_left _ present⟩

theorem justifies_last (last : Justifies [(s,action)] next reason) :
    Justifies (trace ++ [(s,action)]) next reason := by
  cases reason with
  | acceptorClosed => exact last
  | operationAborted | interrupted =>
    obtain ⟨before,present⟩ := last
    exact ⟨before,List.mem_append_right _ present⟩

theorem runs_left (path : Runs (initial maxTotal maxPerIp) trace s) (gone : s.main = .left reason) :
    Justifies trace s reason := by
  induction path with
  | nil => cases gone
  | step prior one ih =>
    rcases left_step one.2 gone with earlier | last
    · exact justifies_step one.2 (ih earlier)
    · exact justifies_last last

def iterates : Action → Bool
  | .closeAcceptor | .finish _ => false
  | action => !throws action

def isLeft : MainThread → Bool
  | .left _ => true
  | _ => false

def Returns (s : State) : Prop :=
  ∃ later next, Runs s later next ∧ next.main = .checking ∧ ∀ entry ∈ later, iterates entry.2 = true

theorem returns_checking (back : s.main = .checking) : Returns s :=
  ⟨[],s,.nil,back,List.forall_mem_nil _⟩

theorem returns_step (step : Step s action next) (own : iterates action = true)
    (rest : Returns next) : Returns s := by
  obtain ⟨later,last,path,back,kept⟩ := rest
  refine ⟨_,last,(Machine.Runs.single step).append path,back,?_⟩
  intro entry present
  rcases List.mem_append.mp present with first | others
  · cases List.mem_singleton.mp first; exact own
  · exact kept entry others

theorem returns_judged (pc : s.main = .judged ip trusted) : Returns s := by
  have inside : s.main ≠ .unwound := by rw [pc]; exact MainThread.noConfusion
  rcases ran : s.limiter.tryAcquire ip trusted with ⟨after,admitted⟩
  cases admitted with
  | true =>
    refine returns_step ⟨inside,.granted pc ran⟩ rfl ?_
    exact returns_step ⟨MainThread.noConfusion,.spawn rfl⟩ rfl (returns_checking rfl)
  | false =>
    refine returns_step ⟨inside,.refuse pc ran⟩ rfl ?_
    have closed : Move { s with limiter := after, main := .rejecting } (.closeSocket false) _ :=
      .closeSocket rfl
    exact returns_step ⟨MainThread.noConfusion,closed⟩ rfl (returns_checking rfl)

theorem returns_identified (pc : s.main = .identified ip) : Returns s := by
  have asked : Step s (.isTrusted false) _ := ⟨by rw [pc]; exact MainThread.noConfusion,.isTrusted pc⟩
  exact returns_step asked rfl (returns_judged rfl)

theorem returns_inside (s : State) (inside : s.main ≠ .unwound) (stays : isLeft s.main = false) :
    Returns s := by
  cases pc : s.main with
  | checking => exact returns_checking pc
  | accepting =>
    have failed : Move s (.accept .failed) _ := .accept pc
    exact returns_step ⟨inside,failed⟩ rfl (returns_checking rfl)
  | accepted =>
    have answered : Move s (.remoteEndpoint (some [])) _ := .remoteEndpoint pc
    exact returns_step ⟨inside,answered⟩ rfl (returns_identified rfl)
  | identified ip => exact returns_identified pc
  | judged ip trusted => exact returns_judged pc
  | rejecting =>
    have closed : Move s (.closeSocket false) _ := .closeSocket pc
    exact returns_step ⟨inside,closed⟩ rfl (returns_checking rfl)
  | spawning connection => exact returns_step ⟨inside,.spawn pc⟩ rfl (returns_checking rfl)
  | left reason => rw [pc] at stays; cases stays
  | unwound => exact absurd pc inside

-- The loop survived the run: no exception passed it, it was left for a shutdown
-- only, and otherwise it goes on accepting.
structure Survives (trace : List (State × Action)) (s : State) : Prop where
  inside : s.main ≠ .unwound
  leaves : ∀ reason, s.main = .left reason → Justifies trace s reason
  returns : isLeft s.main = false → Returns s

theorem accept_loop_survives_iff (path : Runs (initial maxTotal maxPerIp) trace s) :
    Survives trace s ↔ ∀ entry ∈ trace, throws entry.2 = false := by
  have unwound := runs_unwound path
  constructor
  · intro survives entry present
    cases threw : throws entry.2 with
    | false => rfl
    | true => exact absurd (unwound.mpr ⟨entry,present,threw⟩) survives.inside
  · intro calm
    have inside : s.main ≠ .unwound := by
      intro gone
      obtain ⟨entry,present,threw⟩ := unwound.mp gone
      rw [calm entry present] at threw
      cases threw
    exact ⟨inside,fun _ gone => runs_left path gone,returns_inside s inside⟩

def localhost : Text := bytes "127.0.0.1"

def fullDay : List Action :=
  [.check,.accept .connected,.remoteEndpoint (some localhost),.isTrusted false,.tryAcquire,.spawn true,
    .check,.accept .connected,.remoteEndpoint (some localhost),.isTrusted false,.tryAcquire,
    .closeSocket false,.finish ⟨0,localhost,false⟩,.closeAcceptor,.check]

theorem accept_loop_survives_iff_shutdown : ∃ trace s, trace.map Prod.snd = fullDay ∧
    Runs (initial 8 1) trace s ∧ s.main = .left .acceptorClosed ∧ Survives trace s := by
  obtain ⟨s,ran,gone⟩ : ∃ s, run (initial 8 1) fullDay = some s ∧ s.main = .left .acceptorClosed :=
    ⟨_,rfl,rfl⟩
  obtain ⟨trace,same,path⟩ := run_sound ran
  have calm : ∀ entry ∈ trace, throws entry.2 = false := by
    intro entry present
    have listed : entry.2 ∈ fullDay := by rw [← same]; exact List.mem_map_of_mem present
    revert listed
    generalize entry.2 = action
    revert action
    decide
  exact ⟨trace,s,same,path,gone,(accept_loop_survives_iff path).mpr calm⟩

-- A second client resets its connection before its address is read, while the
-- first one is being served.
theorem reset_connection_unwinds : ∃ trace s,
    trace.map Prod.snd = [.check,.accept .connected,.remoteEndpoint (some localhost),.isTrusted false,
      .tryAcquire,.spawn true,.check,.accept .connected,.remoteEndpoint none] ∧
    Runs (initial 8 2) trace s ∧ s.main = .unwound ∧ s.serving = [⟨0,localhost,false⟩] ∧
    s.acceptorOpen = true ∧ ¬ Survives trace s := by
  obtain ⟨s,ran,gone,live,opened⟩ : ∃ s, run (initial 8 2) [.check,.accept .connected,
      .remoteEndpoint (some localhost),.isTrusted false,.tryAcquire,.spawn true,.check,
      .accept .connected,.remoteEndpoint none] = some s ∧ s.main = .unwound ∧
      s.serving = [⟨0,localhost,false⟩] ∧ s.acceptorOpen = true := ⟨_,rfl,rfl,rfl,rfl⟩
  obtain ⟨trace,same,path⟩ := run_sound ran
  exact ⟨trace,s,same,path,gone,live,opened,fun survives => survives.inside gone⟩

end JotaTranscriber.AcceptLoop

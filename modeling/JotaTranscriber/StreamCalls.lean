import JotaTranscriber.SessionRuns
import Mathlib.Logic.Function.Basic

namespace JotaTranscriber.StreamCalls
open StreamingSession SessionMachine

inductive Party where
  | receive
  | flush
  deriving DecidableEq, Repr

inductive Call where
  | write
  | close
  deriving DecidableEq, Repr

-- A session in which ws_.write and ws_.close take time: the thread that has
-- write_mutex_ and the call each thread is in.
structure State where
  machine : SessionMachine.State
  writeMutex : Option Party
  calls : Party → Option Call

inductive Action where
  | beginWrite (party : Party)
  | beginClose
  | machine (action : SessionMachine.Action)

def still (machine : SessionMachine.State) : State := ⟨machine,none,fun _ => none⟩

def initial (now : Instant) : State := still (SessionMachine.initial now)

def sending (s : SessionMachine.State) : Party → Prop
  | .receive => ∃ message rest next, s.receiver = .sending (message :: rest) next
  | .flush => ∃ message next, s.flusher = .sending message next

def ends : SessionMachine.Action → Option (Party × Call)
  | .send => some (.receive,.write)
  | .flushSend => some (.flush,.write)
  | .close _ => some (.receive,.close)
  | _ => none

variable (params : SessionParams)

-- sendMessage locks write_mutex_ for its write; of the closes only the one in
-- handleEnd does. A sendMessage whose dump() throws never gets to its write.
inductive Step : State → Action → State → Prop where
  | beginWrite (alive : s.machine.flusher.alive = true) (pc : sending s.machine party)
      (outside : s.calls party = none) (free : s.writeMutex = none) :
      Step s (.beginWrite party) { s with
        writeMutex := some party, calls := Function.update s.calls party (some .write) }
  | beginClose (alive : s.machine.flusher.alive = true) (pc : s.machine.receiver = .closing kind)
      (outside : s.calls .receive = none) (free : kind = .final → s.writeMutex = none) :
      Step s .beginClose { s with
        writeMutex := if kind = .final then some .receive else s.writeMutex
        calls := Function.update s.calls .receive (some .close) }
  | machine (silent : ends action = none) (one : SessionMachine.Step params s.machine action next) :
      Step s (.machine action) { s with machine := next }
  | finish (returns : ends action = some (party,call))
      (inside : s.calls party = some call ∨ call = .write ∧ s.calls party = none)
      (one : SessionMachine.Step params s.machine action next) :
      Step s (.machine action) {
        machine := next
        writeMutex := if s.writeMutex = some party then none else s.writeMutex
        calls := Function.update s.calls party none }

abbrev Runs := Machine.Runs (Step params)

-- Without the calls, what is left is a run of the session.
def erase : State × Action → Option (SessionMachine.State × SessionMachine.Action)
  | (s,.machine action) => some (s.machine,action)
  | _ => none

theorem runs_erase (path : Runs params s trace after) :
    SessionMachine.Runs params s.machine (trace.filterMap erase) after.machine := by
  induction path with
  | nil => exact .nil
  | step prior one ih =>
    rw [List.filterMap_append]
    cases one with
    | beginWrite | beginClose =>
      change SessionMachine.Runs params s.machine (_ ++ []) _
      rwa [List.append_nil]
    | machine silent one => exact ih.step one
    | finish returns inside one => exact ih.step one

-- And every run of a session is one in which each call returns at once.
theorem call_returns (returns : ends action = some (party,call)) (one : SessionMachine.Step params s action next) :
    ∃ begins middle, Step params (still s) begins middle ∧ (∀ action, begins ≠ .machine action) ∧
      middle.machine = s ∧ Step params middle (.machine action) (still next) := by
  have emptied (called : Option Call) :
      Function.update (Function.update (still s).calls party called) party none = fun _ => none := by
    rw [Function.update_idem]
    exact Function.update_eq_self party (still s).calls
  have alive := one.1
  cases call with
  | write =>
    have pc : sending s party := by
      cases one.2 with
      | send pc => cases returns; exact ⟨_,_,_,pc⟩
      | flushSend pc => cases returns; exact ⟨_,_,pc⟩
      | _ => cases returns
    refine ⟨_,_,.beginWrite alive pc rfl rfl,nofun,rfl,?_⟩
    have ended := Step.finish (s := { still s with
      writeMutex := some party, calls := Function.update (still s).calls party (some .write) })
      returns (.inl (Function.update_self _ _ _)) one
    rwa [emptied,if_pos rfl] at ended
  | close =>
    obtain ⟨kind,pc,rfl⟩ : ∃ kind, s.receiver = .closing kind ∧ party = .receive := by
      cases one.2 with
      | close pc => cases returns; exact ⟨_,pc,rfl⟩
      | _ => cases returns
    refine ⟨_,_,.beginClose alive pc rfl (fun _ => rfl),nofun,rfl,?_⟩
    have ended := Step.finish (s := { still s with
      writeMutex := if kind = .final then some .receive else none
      calls := Function.update (still s).calls .receive (some .close) })
      returns (.inl rfl) one
    rw [emptied] at ended
    cases kind <;> exact ended

theorem runs_lift (path : SessionMachine.Runs params origin trace after) :
    ∃ lifted, Runs params (still origin) lifted (still after) ∧
      ∀ past action, (past,.machine action) ∈ lifted → (past.machine,action) ∈ trace := by
  induction path with
  | nil => exact ⟨[],.nil,fun _ _ present => by cases present⟩
  | @step trace middle action after prior one ih =>
    obtain ⟨lifted,reached,within⟩ := ih
    cases returns : ends action with
    | none =>
      refine ⟨_,reached.step (.machine returns one),?_⟩
      intro past taken present
      rcases List.mem_append.mp present with old | last
      · exact List.mem_append_left _ (within past taken old)
      · cases List.mem_singleton.mp last
        simp [still]
    | some ended =>
      obtain ⟨begins,between,first,other,same,second⟩ := call_returns params returns one
      refine ⟨_,(reached.step first).step second,?_⟩
      intro past taken present
      rcases List.mem_append.mp present with old | last
      · rcases List.mem_append.mp old with older | beginning
        · exact List.mem_append_left _ (within past taken older)
        · cases List.mem_singleton.mp beginning
          exact absurd rfl (other taken)
      · cases List.mem_singleton.mp last
        simp [same]

-- A frame that a handler answers with a close: a config that fails auth, a
-- binary frame that is too long or exceeds the rate limit.
def rejects (message : Json) (view : AuthView) : Bool :=
  params.authManager.isAuthEnabled &&
    match message.field? "token" with
    | some (.string token) =>
      !({ params.authManager with cache := view.cache }.validate token view.exchange).2
    | _ => true

def closes (s : SessionMachine.State) : SessionMachine.Action → Bool
  | .text payload view =>
    match params.parseJson payload with
    | .error _ => false
    | .ok message =>
      match message.field? "type" with
      | some (.string type) => decide (type = bytes "config") && rejects params message view
      | _ => false
  | .binary payload =>
    decide (payload.length > maxFrameBytes) ||
      decide (4 ≤ payload.length ∧ payload.length % 4 = 0 ∧
        (s.clock - s.session.rateLimitStart).tdiv (seconds 1) ≥ 3 ∧
        s.session.bytesReceivedInWindow + payload.length > maxBytesPerWindow) && s.session.configured
  | _ => false

-- No frame of a configured session is answered with a close.
def orderly (s : SessionMachine.State) (action : SessionMachine.Action) : Bool :=
  !(s.session.configured && closes params s action)

def unlocked : AfterSend → Bool
  | .close .rejected | .close .policy => true
  | .close .final | .read => false

def abandons : Receiver → Bool
  | .closing kind => unlocked (.close kind)
  | .sending _ next => unlocked next
  | _ => false

theorem abandons_sendThen (messages : List ServerMessage) (next : AfterSend) :
    abandons (sendThen messages next) = unlocked next := by
  cases messages with
  | cons => rfl
  | nil => cases next <;> rfl

theorem handleConfig_closes (ran : handleConfig params session message view = (after,next))
    (leads : abandons next = true) : rejects params message view = true := by
  unfold handleConfig at ran
  unfold rejects
  dsimp only at ran
  split at ran
  · rename_i enabled
    rw [enabled]
    split at ran
    · rename_i token found
      split at ran
      · -- what is left of an authorized config ends in acquire or in an error
        split at ran <;> cases ran <;> cases leads
      · rename_i invalid
        simpa [found] using invalid
    · rename_i missing
      cases found : message.field? "token" with
      | none => rfl
      | some value =>
        cases value with
        | string token => exact absurd found (missing token)
        | _ => rfl
  · split at ran <;> cases ran <;> cases leads

theorem text_closes (ran : handleJsonMessage params s.session payload view = (after,next))
    (leads : abandons next = true) : closes params s (.text payload view) = true := by
  unfold handleJsonMessage at ran
  unfold closes
  split at ran
  · cases ran; cases leads
  · cases ran; cases leads
  · rename_i message parsed
    simp only [parsed]
    split at ran
    · cases ran; cases leads
    · rename_i type typed
      simp only [typed]
      split at ran
      · rename_i config
        rw [decide_eq_true config]
        exact handleConfig_closes params ran leads
      · split at ran
        · cases ran; cases leads
        · split at ran
          · cases ran; cases leads
          · cases ran; cases leads
    · cases ran; cases leads

theorem binary_closes (ran : handleBinaryMessage params s.session s.clock payload = (after,next))
    (leads : abandons next = true) : closes params s (.binary payload) = true := by
  unfold handleBinaryMessage at ran
  dsimp only at ran
  unfold closes
  split at ran
  · rename_i long
    simp [long]
  split at ran
  · cases ran; cases leads
  rename_i short
  split at ran
  · cases ran; cases leads
  rename_i unready
  split at ran
  · cases ran; cases leads
  rename_i aligned
  split at ran
  · rename_i exceeded
    have ready : s.session.configured = true := by simpa using unready
    have whole : payload.length % 4 = 0 := by simpa using aligned
    simp [ready,whole,exceeded.1,exceeded.2,Nat.le_of_not_lt short]
  · cases ran
    rw [abandons_sendThen] at leads
    cases leads

theorem abandons_preserved (before : abandons s.receiver = true → s.session.configured = false)
    (permitted : orderly params s action = true) (move : Move params s action next) :
    abandons next.receiver = true → next.session.configured = false := by
  intro leads
  have refused (answered : closes params s action = true) : s.session.configured = false := by
    simpa [orderly,answered] using permitted
  cases move with
  | text pc live ran =>
    rw [(handleJsonMessage_framed ran).configured]
    exact refused (text_closes params ran leads)
  | binary pc live ran =>
    rw [(handleBinaryMessage_framed ran).configured]
    exact refused (binary_closes params ran leads)
  | send pc =>
    rw [abandons_sendThen] at leads
    exact before (by rw [pc]; exact leads)
  | close pc =>
    rename_i kind failed
    cases kind <;> cases failed <;> cases leads
  | finalPass pc ran =>
    rcases handleEnd_cases ran with ⟨_,rfl,_⟩ | ⟨_,_,_,_,_,_,rfl⟩
    all_goals cases leads
  | cycle pc ran =>
    rw [(FlushLoop.cycle_regular ran).frame.configured]
    exact before leads
  | relock pc ran =>
    rw [(FlushLoop.relock_regular ran).frame.configured]
    exact before leads
  | tick | wake | exit | tryLockFails | flushSend => exact before leads
  | _ => cases leads

theorem runs_orderly (path : SessionMachine.Runs params (SessionMachine.initial now) trace s)
    (allowed : ∀ entry ∈ trace, orderly params entry.1 entry.2 = true) :
    abandons s.receiver = true → s.session.configured = false :=
  path.guarded (I := fun s => abandons s.receiver = true → s.session.configured = false)
    (C := fun s action => orderly params s action = true) allowed (fun _ => rfl)
    (fun before permitted one => abandons_preserved params before permitted one.2)

def engaged : Receiver → Option Call
  | .sending (_ :: _) _ => some .write
  | .closing _ => some .close
  | _ => none

theorem receiver_kept (at_call : engaged s.receiver = some call) (move : Move params s action next)
    (other : ends action ≠ some (.receive,call)) : next.receiver = s.receiver := by
  cases move with
  | tick | wake | exit | tryLockFails | cycle | flushSend | relock => rfl
  | send pc | close pc =>
    rw [pc] at at_call
    cases at_call
    exact absurd rfl other
  | accept pc | acceptFails pc | text pc | binary pc | readFails pc | acquire pc | acquireFails pc
  | install pc | installFails pc | join pc | finalPass pc | release pc | destroy pc | destroyJoin pc
  | destroyRelease pc =>
    rw [pc] at at_call
    cases at_call

theorem flusher_kept (start : Handshake s) (opened : s.flusher = .sending message continuation)
    (move : Move params s action next) (other : ends action ≠ some (.flush,.write)) :
    next.flusher = s.flusher := by
  cases move with
  | flushSend => exact absurd rfl other
  | accept pc =>
    rw [start pc] at opened
    cases opened
  | wake pc | exit pc | tryLockFails pc | cycle pc | relock pc =>
    rw [pc] at opened
    cases opened
  | _ => rfl

theorem sending_kept (start : Handshake s) (pc : sending s party) (move : Move params s action next)
    (other : ends action ≠ some (party,.write)) : sending next party := by
  cases party with
  | receive =>
    obtain ⟨message,rest,after,pc⟩ := pc
    have same := receiver_kept params (by rw [pc]; rfl) move other
    exact ⟨message,rest,after,same.trans pc⟩
  | flush =>
    obtain ⟨message,after,pc⟩ := pc
    exact ⟨message,after,(flusher_kept params start pc move other).trans pc⟩

-- A write goes on under write_mutex_, with its thread at the send it began; so
-- does the close of handleEnd.
structure Locked (s : State) : Prop where
  write : ∀ party, s.calls party = some .write → s.writeMutex = some party ∧ sending s.machine party
  close : s.calls .receive = some .close →
    ∃ kind, s.machine.receiver = .closing kind ∧ (kind = .final → s.writeMutex = some .receive)
  flush : s.calls .flush ≠ some .close

theorem initial_locked (now : Instant) : Locked (initial now) := by
  refine ⟨?_,?_,?_⟩
  · intro party inside
    cases inside
  · intro inside
    cases inside
  · intro inside
    cases inside

theorem call_update {calls : Party → Option Call} (inside : Function.update calls party value other = some call) :
    (other = party ∧ value = some call) ∨ other ≠ party ∧ calls other = some call := by
  by_cases same : other = party
  · rw [same,Function.update_self] at inside
    exact .inl ⟨same,inside⟩
  · rw [Function.update_of_ne same] at inside
    exact .inr ⟨same,inside⟩

theorem beginWrite_locked (locked : Locked s) (pc : sending s.machine party)
    (free : s.writeMutex = none) : Locked { s with
      writeMutex := some party, calls := Function.update s.calls party (some .write) } := by
  have unlocked (other : Party) : s.writeMutex ≠ some other := by
    rw [free]
    nofun
  refine ⟨?_,?_,?_⟩
  · intro other inside
    rcases call_update inside with ⟨rfl,_⟩ | ⟨_,before⟩
    · exact ⟨rfl,pc⟩
    · exact absurd (locked.write other before).1 (unlocked other)
  · intro inside
    rcases call_update inside with ⟨_,writes⟩ | ⟨_,before⟩
    · cases writes
    · obtain ⟨kind,pc,final⟩ := locked.close before
      exact ⟨kind,pc,fun ending => absurd (final ending) (unlocked .receive)⟩
  · intro inside
    rcases call_update inside with ⟨_,writes⟩ | ⟨_,before⟩
    · cases writes
    · exact locked.flush before

theorem beginClose_locked (locked : Locked s) (pc : s.machine.receiver = .closing kind)
    (free : kind = .final → s.writeMutex = none) : Locked { s with
      writeMutex := if kind = .final then some .receive else s.writeMutex
      calls := Function.update s.calls .receive (some .close) } := by
  refine ⟨?_,?_,locked.flush⟩
  · intro party inside
    rcases call_update inside with ⟨_,closing⟩ | ⟨_,before⟩
    · cases closing
    · obtain ⟨taken,sends⟩ := locked.write party before
      have other : kind ≠ .final := by
        intro ending
        rw [free ending] at taken
        cases taken
      exact ⟨(if_neg other).trans taken,sends⟩
  · intro _
    exact ⟨kind,pc,fun ending => if_pos ending⟩

theorem machine_locked (locked : Locked s) (start : Handshake s.machine) (silent : ends action = none)
    (move : Move params s.machine action next) : Locked { s with machine := next } := by
  refine ⟨?_,?_,locked.flush⟩
  · intro party inside
    obtain ⟨taken,sends⟩ := locked.write party inside
    exact ⟨taken,sending_kept params start sends move (by rw [silent]; nofun)⟩
  · intro inside
    obtain ⟨kind,pc,final⟩ := locked.close inside
    exact ⟨kind,(receiver_kept params (by rw [pc]; rfl) move (by rw [silent]; nofun)).trans pc,final⟩

theorem finish_locked (locked : Locked s) (start : Handshake s.machine)
    (returns : ends action = some (party,call)) (move : Move params s.machine action next) : Locked {
      machine := next
      writeMutex := if s.writeMutex = some party then none else s.writeMutex
      calls := Function.update s.calls party none } := by
  have foreign (other : Party) (different : other ≠ party) (taken : s.writeMutex = some other) :
      (if s.writeMutex = some party then none else s.writeMutex) = some other := by
    rw [taken,if_neg]
    intro equal
    exact different (Option.some.inj equal)
  have elsewhere (other : Party) (different : other ≠ party) (kind : Call) :
      ends action ≠ some (other,kind) := by
    rw [returns]
    rintro ⟨⟩
    exact different rfl
  refine ⟨?_,?_,?_⟩
  · intro other writes
    rcases call_update writes with ⟨_,ended⟩ | ⟨different,before⟩
    · cases ended
    · obtain ⟨taken,sends⟩ := locked.write other before
      exact ⟨foreign other different taken,
        sending_kept params start sends move (elsewhere other different .write)⟩
  · intro closing
    rcases call_update closing with ⟨_,ended⟩ | ⟨different,before⟩
    · cases ended
    · obtain ⟨kind,pc,final⟩ := locked.close before
      have stays := receiver_kept params (by rw [pc]; rfl) move (elsewhere .receive different .close)
      exact ⟨kind,stays.trans pc,fun ending => foreign .receive different (final ending)⟩
  · intro closing
    rcases call_update closing with ⟨_,ended⟩ | ⟨_,before⟩
    · cases ended
    · exact locked.flush before

theorem locked_preserved (locked : Locked s) (start : Handshake s.machine) (one : Step params s action next) :
    Locked next := by
  cases one with
  | beginWrite alive pc outside free => exact beginWrite_locked locked pc free
  | beginClose alive pc outside free => exact beginClose_locked locked pc free
  | machine silent one => exact machine_locked params locked start silent one.2
  | finish returns inside one => exact finish_locked params locked start returns one.2

theorem runs_locked (path : Runs params (initial now) trace s) : Locked s :=
  path.history (I := fun _ s => Locked s) (C := fun _ _ => True) (fun _ _ => trivial)
    (initial_locked now) (fun reached locked _ one =>
      locked_preserved params locked (runs_handshake params (runs_erase params reached)) one)

theorem close_write_serialized (path : Runs params (initial now) trace s)
    (allowed : ∀ past action, (past,.machine action) ∈ trace → orderly params past.machine action = true) :
    ¬ ∃ closer writer, s.calls closer = some .close ∧ s.calls writer = some .write := by
  rintro ⟨closer,writer,closing,writes⟩
  have locked := runs_locked params path
  have session := runs_erase params path
  cases closer with
  | flush => exact locked.flush closing
  | receive =>
    cases writer with
    | receive =>
      rw [closing] at writes
      cases writes
    | flush =>
      obtain ⟨taken,message,next,opened⟩ := locked.write .flush writes
      obtain ⟨kind,pc,final⟩ := locked.close closing
      have ready : s.machine.session.configured = true :=
        runs_busy params session (by rw [opened]; rfl)
      have kept : ∀ entry ∈ trace.filterMap erase, orderly params entry.1 entry.2 = true := by
        intro entry present
        obtain ⟨⟨past,action⟩,member,erased⟩ := List.mem_filterMap.mp present
        cases action with
        | beginWrite | beginClose => cases erased
        | machine action =>
          cases erased
          exact allowed past action member
      -- Only handleEnd closes a configured session then, and it waits for the
      -- mutex that the writer holds.
      cases kind with
      | final =>
        have both := (final rfl).symm.trans taken
        cases both
      | rejected | policy =>
        have unready := runs_orderly params session kept (by rw [pc]; rfl)
        rw [ready] at unready
        cases unready

theorem transcription_run : ∃ trace s, SessionMachine.Runs defaultParams (SessionMachine.initial 0) trace s ∧
    (∀ entry ∈ trace, orderly defaultParams entry.1 entry.2 = true) ∧ s.receiver = .reading ∧
    s.closeCalled = false ∧ sending s .flush ∧ s.flusher.alive = true ∧
    s.session.idleShutdownTriggered = false := by
  have hears : orderly defaultParams configuredState (.binary (frame 32000)) = true := by
    have length : (frame 32000).length = 4 * 32000 := List.length_replicate
    simp only [orderly,closes,length]
    rfl
  obtain ⟨longer,trace,size,ungated,_,path,kept⟩ :=
    awake_run (orderly defaultParams) rfl hears (fun _ => rfl)
  obtain ⟨session,events,ran,unshut⟩ := heard_greeting longer size ungated
  have cycles : SessionMachine.Step defaultParams (awakeState longer)
      (.cycle true greeting) { heardState longer with
        session
        flusher := .sending (.transcription (bytes "hola") false none) .finish
        log := (heardState longer).log ++ events } := ⟨rfl,.cycle rfl ran⟩
  refine ⟨_,_,path.step cycles,?_,rfl,rfl,⟨_,_,rfl⟩,rfl,unshut⟩
  intro entry present
  rcases List.mem_append.mp present with before | last
  · exact kept entry before
  · cases List.mem_singleton.mp last; rfl

theorem close_write_serialized_transcription : ∃ trace s,
    Runs defaultParams (initial 0) trace s ∧ s.calls .flush = some .write ∧
      ¬ ∃ closer writer, s.calls closer = some .close ∧ s.calls writer = some .write := by
  obtain ⟨trace,s,path,kept,_,_,pc,alive,_⟩ := transcription_run
  obtain ⟨lifted,reached,within⟩ := runs_lift defaultParams path
  have whole := reached.step (.beginWrite alive pc rfl rfl)
  refine ⟨_,_,whole,rfl,close_write_serialized defaultParams whole ?_⟩
  intro past action present
  rcases List.mem_append.mp present with before | last
  · exact kept _ (within past action before)
  · cases List.mem_singleton.mp last

-- A frame that is too long, while the transcription is being written.
theorem policy_close_during_write : ∃ trace s, Runs defaultParams (initial 0) trace s ∧
    s.calls .receive = some .close ∧ s.calls .flush = some .write := by
  obtain ⟨trace,s,path,_,pc,live,sends,alive,_⟩ := transcription_run
  obtain ⟨lifted,reached,_⟩ := runs_lift defaultParams path
  let payload : List UInt8 := List.replicate (maxFrameBytes + 1) 0
  have long : payload.length > maxFrameBytes := by
    rw [List.length_replicate]
    exact Nat.lt_succ_self _
  have refused : handleBinaryMessage defaultParams s.session s.clock payload =
      (s.session,.closing .policy) := if_pos long
  have writes : Step defaultParams (still s) (.beginWrite .flush) _ := .beginWrite alive sends rfl rfl
  have hears : SessionMachine.Step defaultParams s (.binary payload)
      { s with session := s.session, receiver := .closing .policy } := ⟨alive,.binary pc live refused⟩
  have whole := ((reached.step writes).step (.machine rfl hears)).step
    (.beginClose alive rfl rfl (fun ending => by cases ending))
  exact ⟨_,_,whole,rfl,rfl⟩

end JotaTranscriber.StreamCalls

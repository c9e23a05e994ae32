import JotaTranscriber.FinalMessage
import JotaTranscriber.FlowControl
import JotaTranscriber.Simulation

-- The conversation that a client can rely on, whatever it sends itself.
namespace JotaTranscriber.WireProtocol
open SessionMachine StreamingSession FinalMessage FlowControl

def gpuSaturated : Text := bytes "gpu_saturated_timeout"

def commonCodes : List Text :=
  [bytes "PARSE_ERROR",bytes "INVALID_MESSAGE",bytes "AUTH_REQUIRED",bytes "AUTH_FAILED",bytes "CONFIG_ERROR"]

def errorCodes (configured : Bool) : List Text :=
  (if configured then bytes "UNKNOWN_TYPE" else bytes "NOT_CONFIGURED") :: commonCodes

-- `balance` counts pauses less resumes, `renewals` the readys behind the first
-- one and `repeats` the busys that came while the client had been told of one.
structure Talk where
  busy : Bool := false
  balance : Int := 0
  repeats : Nat := 0
  renewals : Nat := 0
  deriving DecidableEq, Repr

inductive Dialogue where
  | greeting
  | talking (talk : Talk)
  | concluded
  deriving DecidableEq, Repr

variable (params : SessionParams)

-- What the receive thread may have ready to send, whether or not the session is
-- configured.
inductive Answer (configured : Bool) : ServerMessage → Prop where
  | refusal (known : code ∈ errorCodes configured) : Answer configured (.error message code)
  | ready (set : configured = true) :
      Answer configured (.ready params.sessionId words params.whisperBeamSize)
  | pause (set : configured = true) : Answer configured (.flowControl .pause)
  | warning (set : configured = true) (some : 0 < dropped) : Answer configured (.bufferFull dropped)
  | final (set : configured = true) (known : reason = none ∨ reason = some gpuSaturated) :
      Answer configured (.transcription text true reason)

-- A resume may overtake the pause that it answers, but never two of them. Each
-- config lets one pause go without a resume, and one busy without an ok; this busy
-- may overtake the ready of its config.
inductive Speaks : Dialogue → ServerMessage → Dialogue → Prop where
  | refuses (known : code ∈ errorCodes false) : Speaks .greeting (.error message code) .greeting
  | greets :
      Speaks .greeting (.ready params.sessionId words params.whisperBeamSize) (.talking {})
  | complains (known : code ∈ errorCodes true) :
      Speaks (.talking talk) (.error message code) (.talking talk)
  | greetsAgain :
      Speaks (.talking talk) (.ready params.sessionId words params.whisperBeamSize)
        (.talking { talk with renewals := talk.renewals + 1 })
  | shows : Speaks (.talking talk) (.transcription text false none) (.talking talk)
  | pauses (room : talk.balance ≤ talk.renewals) :
      Speaks (.talking talk) (.flowControl .pause) (.talking { talk with balance := talk.balance + 1 })
  | resumes (owed : 0 ≤ talk.balance) :
      Speaks (.talking talk) (.flowControl .resume) (.talking { talk with balance := talk.balance - 1 })
  | warns (some : 0 < dropped) : Speaks (.talking talk) (.bufferFull dropped) (.talking talk)
  | saturates (free : talk.busy = false) :
      Speaks (.talking talk) .statusBusy (.talking { talk with busy := true })
  | saturatesAgain (told : talk.busy = true) (room : talk.repeats ≤ talk.renewals) :
      Speaks (.talking talk) .statusBusy (.talking { talk with repeats := talk.repeats + 1 })
  | recovers (told : talk.busy = true) :
      Speaks (.talking talk) .statusOk (.talking { talk with busy := false })
  | concludes (known : reason = none ∨ reason = some gpuSaturated) :
      Speaks (.talking talk) (.transcription text true reason) .concluded

-- The message that a step puts on the wire.
def spoken (s : State) : Action → Option ServerMessage
  | .send => (unsent s.receiver).head?
  | .flushSend =>
    match s.flusher with
    | .sending message _ => some message
    | _ => none
  | _ => none

theorem spoken_quiet (move : Move params s action next) (silent : spoken s action = none) :
    isSend action = false := by
  cases move with
  | send pc => simp [spoken,pc,unsent] at silent
  | flushSend pc => simp [spoken,pc] at silent
  | _ => rfl

theorem spoken_cases (move : Move params s action next) (told : spoken s action = some message) :
    (∃ rest after, action = .send ∧ s.receiver = .sending (message :: rest) after ∧
      next = { s with receiver := sendThen rest after, log := s.log ++ [.sent message] }) ∨
    ∃ continuation, action = .flushSend ∧ s.flusher = .sending message continuation ∧
      next = { s with flusher := .relocking continuation, log := s.log ++ [.sent message] } := by
  cases move with
  | send pc =>
    simp only [spoken,pc,unsent,List.head?_cons,Option.some.injEq] at told
    subst told
    exact .inl ⟨_,_,rfl,pc,rfl⟩
  | flushSend pc =>
    simp only [spoken,pc,Option.some.injEq] at told
    subst told
    exact .inr ⟨_,rfl,pc,rfl⟩
  | _ => cases told

theorem sentMessages_spoken (path : Runs params (initial now) trace s) :
    sentMessages s.log = Machine.labels spoken trace := by
  induction path with
  | nil => rfl
  | @step trace middle action after prior one ih =>
    have split : Machine.labels spoken (trace ++ [(middle,action)]) =
        Machine.labels spoken trace ++ Machine.labels spoken [(middle,action)] := List.filterMap_append
    rw [split,← ih]
    cases told : spoken middle action with
    | none =>
      rw [sentMessages_step params one.2 (spoken_quiet params one.2 told)]
      simp [Machine.labels,told]
    | some message =>
      have extended : after.log = middle.log ++ [.sent message] := by
        rcases spoken_cases params one.2 told with ⟨_,_,_,_,rfl⟩ | ⟨_,_,_,rfl⟩ <;> rfl
      rw [extended,sentMessages_append]
      simp [Machine.labels,told,sentMessages]

theorem handleConfig_codes
    (ran : handleConfig params session message view = (after,.sending messages next)) :
    ∃ text code, messages = [.error text code] ∧ code ∈ commonCodes := by
  unfold handleConfig at ran
  dsimp only at ran
  split at ran
  · split at ran
    · split at ran
      · split at ran <;> cases ran
        exact ⟨_,_,rfl,by decide⟩
      · cases ran
        exact ⟨_,_,rfl,by decide⟩
    · cases ran
      exact ⟨_,_,rfl,by decide⟩
  · split at ran <;> cases ran
    exact ⟨_,_,rfl,by decide⟩

theorem mem_errorCodes (configured : Bool) (known : code ∈ commonCodes) :
    code ∈ errorCodes configured :=
  List.mem_cons_of_mem _ known

theorem handleJsonMessage_codes
    (ran : handleJsonMessage params session payload view = (after,.sending messages next)) :
    ∃ text code, messages = [.error text code] ∧ code ∈ errorCodes session.configured := by
  unfold handleJsonMessage at ran
  split at ran
  · cases ran
    exact ⟨_,_,rfl,mem_errorCodes _ (by decide)⟩
  · cases ran
  · split at ran
    · cases ran
      exact ⟨_,_,rfl,mem_errorCodes _ (by decide)⟩
    · split at ran
      · obtain ⟨text,code,same,known⟩ := handleConfig_codes params ran
        exact ⟨text,code,same,mem_errorCodes _ known⟩
      · split at ran
        · rename_i unready
          cases ran
          exact ⟨_,_,rfl,by simp [errorCodes,show session.configured = false by simpa using unready]⟩
        · rename_i ready
          split at ran
          · cases ran
          · cases ran
            exact ⟨_,_,rfl,by simp [errorCodes,show session.configured = true by simpa using ready]⟩
    · cases ran

theorem handleEnd_reason (ran : StreamingSession.handleEnd session slot outcome = ⟨after,next,events⟩)
    (present : message ∈ unsent next) :
    ∃ text reason, message = .transcription text true reason ∧
      (reason = none ∨ reason = some gpuSaturated) := by
  unfold StreamingSession.handleEnd StreamingSession.finish at ran
  split at ran
  · cases ran
    exact ⟨_,_,List.mem_singleton.mp present,.inl rfl⟩
  · split at ran
    · split at ran
      · cases ran
        cases present
      · cases ran
        exact ⟨_,_,List.mem_singleton.mp present,.inl rfl⟩
    · cases ran
      exact ⟨_,_,List.mem_singleton.mp present,.inr rfl⟩

theorem handleBinaryMessage_answers
    (ran : handleBinaryMessage params session now data = (after,next)) (present : message ∈ unsent next) :
    Answer params session.configured message := by
  rcases handleBinaryMessage_admission ran with ⟨_,answers,_⟩ | ⟨accepted,received,start,messages,heard,rfl⟩
  · cases set : session.configured with
    | false =>
      cases List.mem_singleton.mp (answers present)
      exact .refusal (by decide)
    | true =>
      -- Only an unconfigured session is told so.
      obtain ⟨_,_,_,⟨_,rfl | rfl | ⟨rfl,unset⟩⟩ | ⟨_,audio,messages,heard,rfl⟩⟩ :=
        handleBinaryMessage_cases ran
      · cases present
      · cases present
      · rw [set] at unset; cases unset
      · cases List.mem_singleton.mp (answers present)
        rw [unsent_sendThen,show messages = _ from (congrArg Prod.snd heard).symm] at present
        rcases processAudioChunk_messages _ _ _ present with ⟨impossible,_⟩ | ⟨_,impossible⟩
        · cases impossible
        · cases impossible
  · have set : session.configured = true := by
      simp only [admitted,Bool.and_eq_true] at accepted
      exact accepted.1.1.2
    rw [unsent_sendThen] at present
    rcases processAudioChunk_cases { session with
        bytesReceivedInWindow := received, rateLimitStart := start } now
        (float32Samples params.float32 data) with
      ⟨_,unchanged⟩ | ⟨owned,_,_,⟨_,dropped⟩ | ⟨_,taken⟩⟩
    · cases unchanged.symm.trans heard
      cases present
    · cases dropped.symm.trans heard
      rcases List.mem_append.mp present with pause | warning
      · split at pause
        · cases pause
        · cases List.mem_singleton.mp pause
          exact .pause set
      · split at warning
        · cases List.mem_singleton.mp warning
          exact .warning set (Nat.succ_pos _)
        · cases warning
    · cases taken.symm.trans heard
      cases present

theorem answers_step (finalizes : s.receiver = .finalizing → s.session.configured = true)
    (move : Move params s action next) (present : message ∈ unsent next.receiver) :
    message ∈ unsent s.receiver ∨ Answer params next.session.configured message := by
  have configError (what : Text) (present : message ∈ unsent (configFailed what)) :
      Answer params next.session.configured message := by
    cases List.mem_singleton.mp present
    exact .refusal (mem_errorCodes _ (by decide))
  cases move with
  | text _ _ ran =>
    have same := (handleJsonMessage_framed ran).configured
    cases answer : ‹Receiver› with
    | sending messages after =>
      rw [answer] at ran present
      obtain ⟨text,code,rfl,known⟩ := handleJsonMessage_codes params ran
      cases List.mem_singleton.mp present
      rw [← same] at known
      exact .inr (.refusal known)
    | _ => rw [answer] at present; cases present
  | binary _ _ ran =>
    have same := (handleBinaryMessage_framed ran).configured
    refine .inr ?_
    dsimp only
    rw [same]
    exact handleBinaryMessage_answers params ran present
  | send pc =>
    rw [pc]
    exact .inl (List.mem_cons_of_mem _ (by simpa using present))
  | @close _ failed kind pc =>
    cases kind with
    | rejected =>
      cases failed with
      | none => cases present
      | some what => exact .inr (configError what present)
    | policy => cases present
    | final => cases present
  | acquireFails => exact .inr (configError _ present)
  | install =>
    cases List.mem_singleton.mp present
    exact .inr (.ready rfl)
  | installFails => exact .inr (configError _ present)
  | finalPass pc ran =>
    obtain ⟨text,reason,rfl,known⟩ := handleEnd_reason ran present
    have same := (handleEnd_framed ran).configured
    exact .inr (.final (same.trans (finalizes pc)) known)
  | tick | wake | exit | tryLockFails | cycle | flushSend | relock => exact .inl present
  | accept | acceptFails | readFails | acquire | join | release | destroy | destroyJoin
  | destroyRelease => cases present

def pauses (messages : List ServerMessage) : Nat := (flows messages).length

def isReady : ServerMessage → Bool
  | .ready .. => true
  | _ => false

def readies (messages : List ServerMessage) : Nat := if messages.any isReady then 1 else 0

-- A resume that the flush thread is about to send, and an episode for which it
-- has still to send one.
def owing (flusher : Flusher) (overflowed : Bool) : Int :=
  (if resuming flusher then 1 else 0) + (if overflowed && !ending flusher then 1 else 0)

-- The episode that is open, unless it has been answered.
def granted (flusher : Flusher) (overflowed : Bool) : Int :=
  (if overflowed then 1 else 0) - (if clearing flusher then 1 else 0)

-- The status that the flush thread is about to send.
def announcing : Flusher → Option Bool
  | .sending .statusBusy _ => some true
  | .sending .statusOk _ => some false
  | _ => none

-- The busys that a config has made room for: the one on its way, and one that the
-- client was told of and the session has forgotten.
def surplus (flusher : Flusher) (degraded told : Bool) : Nat :=
  match announcing flusher with
  | none => if told && !degraded then 1 else 0
  | some true => (if told then 1 else 0) + (if degraded then 0 else 1)
  | some false => 0

-- Before the config takes effect nothing but refusals is sent, and the flush
-- thread has nothing to do.
structure Ungreeted (s : State) : Prop where
  unset : s.session.configured = false
  idle : idle s.flusher = true
  receiver : s.receiver ≠ .joining ∧ s.receiver ≠ .finalizing
  pending : ∀ message ∈ unsent s.receiver, Answer params false message
  opened : Opened s

-- It has taken effect and ready is to be sent: the buffer is empty, so that no
-- cycle gets to a message.
structure Greeting (s : State) : Prop where
  set : s.session.configured = true
  idle : idle s.flusher = true
  receiver : ∃ words, s.receiver = .sending [.ready params.sessionId words params.whisperBeamSize] .read
  empty : s.session.bufferSize = 0
  calm : s.session.capacityDegraded = false ∧ s.session.bufferOverflowed = false
  opened : Opened s

structure Talking (s : State) (talk : Talk) : Prop where
  set : s.session.configured = true
  started : s.receiver ≠ .handshake
  phase : Opened s ∨ Finishing s
  pending : ∀ message ∈ unsent s.receiver, Answer params true message
  window : ∀ message next, s.flusher = .sending message next → FlushLoop.carries message next
  warning : ∀ dropped next, s.flusher = .sending (.bufferFull dropped) next → 0 < dropped
  recovering : announcing s.flusher = some false →
    talk.busy = true ∧ s.session.capacityDegraded = false
  degraded : s.session.capacityDegraded = true → talk.busy = true ∨ announcing s.flusher = some true
  repeated : talk.repeats + surplus s.flusher s.session.capacityDegraded talk.busy ≤
    talk.renewals + readies (unsent s.receiver)
  owed : owing s.flusher s.session.bufferOverflowed ≤ talk.balance + pauses (unsent s.receiver)
  room : talk.balance + pauses (unsent s.receiver) ≤
    talk.renewals + readies (unsent s.receiver) + granted s.flusher s.session.bufferOverflowed
  one : pauses (unsent s.receiver) ≤ 1
  apart : pauses (unsent s.receiver) = 0 ∨ readies (unsent s.receiver) = 0

structure Opens (session : StreamingSession) (done : Flushed) : Prop where
  warning : ∀ dropped next, done.next = .sending (.bufferFull dropped) next → 0 < dropped
  status : announcing done.next = none ∧ done.session.capacityDegraded = session.capacityDegraded ∨
    announcing done.next = some done.session.capacityDegraded ∧
      done.session.capacityDegraded = !session.capacityDegraded

theorem accumulate_opens (session : StreamingSession) (cycleEngine currentSize : Nat)
    (result : TranscribeResult) : Opens session (FlushLoop.accumulate session cycleEngine currentSize result) := by
  rcases FlushLoop.accumulate_next session cycleEngine currentSize result with waits | ⟨faults,_⟩ | sends
  · exact ⟨by simp [waits],.inl ⟨by rw [waits]; rfl,rfl⟩⟩
  · exact ⟨by simp [faults],.inl ⟨by rw [faults]; rfl,rfl⟩⟩
  · exact ⟨by simp [sends],.inl ⟨by rw [sends]; rfl,rfl⟩⟩

theorem afterPass_opens (session : StreamingSession) (owned : OwnedEngine)
    (cycleEngine currentSize : Nat) (result : TranscribeResult) :
    Opens session (FlushLoop.afterPass session owned cycleEngine currentSize result) := by
  unfold FlushLoop.afterPass
  dsimp only
  split
  · split
    · split
      · rename_i rest
        refine ⟨?_,.inl ⟨rfl,rfl⟩⟩
        intro dropped next opened
        cases opened
        exact Nat.pos_of_ne_zero fun none_dropped => rest (by rw [none_dropped]; rfl)
      · exact ⟨by simp,.inl ⟨rfl,rfl⟩⟩
    · have opens := accumulate_opens session cycleEngine currentSize result
      exact ⟨opens.warning,opens.status⟩
  · exact accumulate_opens session cycleEngine currentSize result

theorem inferPass_opens (session : StreamingSession) (cycleEngine currentSize : Nat) (outcome : Outcome) :
    Opens session (FlushLoop.inferPass session cycleEngine currentSize outcome) := by
  rcases FlushLoop.inferPass_cases session cycleEngine currentSize outcome with
    ⟨_,faults⟩ | ⟨owned,used,_,⟨_,_,fails⟩ | ⟨result,_,passed⟩⟩
  · rw [faults]; exact ⟨by simp,.inl ⟨rfl,rfl⟩⟩
  · rw [fails]; exact ⟨by simp,.inl ⟨rfl,rfl⟩⟩
  · rw [passed]
    have opens := afterPass_opens { session with engine := some ⟨owned.id,used⟩ } ⟨owned.id,used⟩
      cycleEngine currentSize result
    exact ⟨opens.warning,opens.status⟩

theorem cycle_opens (ran : FlushLoop.cycle params session now slot outcome = done) :
    Opens session done := by
  subst ran
  have degraded := FlushLoop.watchdog_capacityDegraded params session now
  rcases FlushLoop.cycle_cases params session now slot outcome with
    ⟨quiet,_⟩ | ⟨owned,_,_,_,⟨_,calm,busy⟩ | ⟨_,held,free⟩ | ⟨_,_,direct⟩⟩
  · rw [quiet]; exact ⟨by simp,.inl ⟨rfl,degraded⟩⟩
  · rw [busy]; exact ⟨by simp,.inr ⟨rfl,by rw [← degraded,calm]; rfl⟩⟩
  · rw [free]; exact ⟨by simp,.inr ⟨rfl,by rw [← degraded,held]; rfl⟩⟩
  · rw [direct]
    have opens := inferPass_opens (FlushLoop.watchdog params session now) owned.id
      owned.engine.getBufferSize outcome
    exact ⟨opens.warning,by rw [← degraded]; exact opens.status⟩

theorem relock_opens (ran : FlushLoop.relock session outcome continuation = done) :
    Opens session done := by
  subst ran
  cases continuation with
  | skip | finish => exact ⟨by simp [FlushLoop.relock],.inl ⟨rfl,rfl⟩⟩
  | infer cycleEngine currentSize => exact inferPass_opens _ _ _ _
  | resume cycleEngine currentSize result => exact ⟨by simp [FlushLoop.relock],.inl ⟨rfl,rfl⟩⟩
  | clear cycleEngine currentSize result =>
    have opens := accumulate_opens { session with bufferOverflowed := false, droppedChunks := 0 }
      cycleEngine currentSize result
    exact ⟨opens.warning,opens.status⟩

-- Of the receive thread's steps only a config touches the flag of the busy
-- status, and it leaves a ready to send.
theorem degraded_receive (move : Move params s action next) (other : flushes action = false) :
    next.session.capacityDegraded = s.session.capacityDegraded ∨
    next.session.capacityDegraded = false ∧ unsent s.receiver = [] ∧ readies (unsent next.receiver) = 1 := by
  cases move with
  | text _ _ ran =>
    rcases handleJsonMessage_cases ran with ⟨rfl,_⟩ | ⟨_,rfl,_⟩ | ⟨rfl,_⟩ | ⟨rfl,_⟩
    all_goals exact .inl rfl
  | binary _ _ ran =>
    obtain ⟨_,_,⟨_,rfl,_⟩ | ⟨_,_,_,⟨_,rfl,_⟩ | ⟨_,rfl,_⟩⟩⟩ := handleBinaryMessage_chunk ran
    all_goals exact .inl rfl
  | install pc => exact .inr ⟨rfl,by rw [pc]; rfl,rfl⟩
  | finalPass _ ran =>
    rcases handleEnd_cases ran with ⟨_,_,_,_,_,_,_,_,rfl⟩ | ⟨_,_,_,_,_,rfl,_⟩
    all_goals exact .inl rfl
  | release _ ran | destroyRelease _ ran =>
    rcases releaseModel_cases ran with ⟨_,_,rfl⟩ | ⟨_,_,rfl⟩
    all_goals exact .inl rfl
  | wake | exit | tryLockFails | cycle | flushSend | relock => cases other
  | _ => exact .inl rfl

theorem flusher_receive (move : Move params s action next) (other : flushes action = false)
    (started : s.receiver ≠ .handshake) : next.flusher = s.flusher := by
  cases move with
  | accept pc => exact absurd pc started
  | wake | exit | tryLockFails | cycle | flushSend | relock => cases other
  | _ => rfl

theorem receiver_flush (move : Move params s action next) (flush : flushes action = true) :
    next.receiver = s.receiver := by
  cases move with
  | wake | exit | tryLockFails | cycle | flushSend | relock => rfl
  | _ => cases flush

theorem queue_receive (move : Move params s action next) (quiet : isSend action = false) :
    unsent s.receiver = [] ∨ next.receiver = s.receiver := by
  cases move with
  | tick | wake | exit | tryLockFails | cycle | relock => exact .inr rfl
  | send | flushSend => cases quiet
  | accept pc | acceptFails pc | text pc | binary pc | readFails pc | close pc | acquire pc
  | acquireFails pc | install pc | installFails pc | join pc | finalPass pc | release pc | destroy pc
  | destroyJoin pc | destroyRelease pc => exact .inl (by rw [pc]; rfl)

theorem readies_le_one (messages : List ServerMessage) : readies messages ≤ 1 := by
  unfold readies
  split <;> decide

theorem readies_le (move : Move params s action next) (quiet : isSend action = false) :
    readies (unsent s.receiver) ≤ readies (unsent next.receiver) := by
  rcases queue_receive params move quiet with nothing | same
  · rw [nothing]; exact Nat.zero_le _
  · rw [same]

theorem readies_eq_zero (unready : ∀ message ∈ messages, isReady message = false) :
    readies messages = 0 := by
  simp only [readies,ite_eq_right_iff,List.any_eq_true]
  rintro ⟨message,present,ready⟩
  rw [unready message present] at ready
  cases ready

theorem handleBinaryMessage_unready
    (ran : handleBinaryMessage params session now data = (after,next)) : readies (unsent next) = 0 := by
  refine readies_eq_zero fun message present => ?_
  obtain ⟨_,_,⟨_,_,answers⟩ | ⟨_,_,_,⟨_,_,answers⟩ | ⟨_,_,answers⟩⟩⟩ := handleBinaryMessage_chunk ran
  · cases List.mem_singleton.mp (answers present)
    rfl
  · rw [answers] at present
    rcases List.mem_append.mp present with pause | warning
    · split at pause
      · cases pause
      · cases List.mem_singleton.mp pause
        rfl
    · split at warning
      · cases List.mem_singleton.mp warning
        rfl
      · cases warning
  · rw [answers] at present
    cases present

theorem owing_nonneg (flusher : Flusher) (overflowed : Bool) : 0 ≤ owing flusher overflowed := by
  unfold owing
  split <;> split <;> decide

theorem owing_le_of_flag (flusher : Flusher) (overflowed : Bool) :
    owing flusher false ≤ owing flusher overflowed ∧ owing flusher overflowed ≤ owing flusher false + 1 := by
  unfold owing
  cases resuming flusher <;> cases ending flusher <;> cases overflowed <;> decide

theorem granted_le_of_flag (flusher : Flusher) (overflowed : Bool) :
    granted flusher overflowed ≤ granted flusher false + 1 := by
  unfold granted
  cases clearing flusher <;> cases overflowed <;> decide

-- What the receive thread puts into its queue is accounted for: a pause opens an
-- episode, and a config that forgets one leaves a ready behind.
structure Counted (s next : State) : Prop where
  one : pauses (unsent next.receiver) ≤ 1
  apart : pauses (unsent next.receiver) = 0 ∨ readies (unsent next.receiver) = 0
  owed : owing next.flusher next.session.bufferOverflowed + pauses (unsent s.receiver) ≤
    owing s.flusher s.session.bufferOverflowed + pauses (unsent next.receiver)
  room : pauses (unsent next.receiver) + readies (unsent s.receiver) +
      granted s.flusher s.session.bufferOverflowed ≤
    pauses (unsent s.receiver) + readies (unsent next.receiver) +
      granted next.flusher next.session.bufferOverflowed

theorem counted_receive (move : Move params s action next) (other : flushes action = false)
    (quiet : isSend action = false) (started : s.receiver ≠ .handshake)
    (one : pauses (unsent s.receiver) ≤ 1)
    (apart : pauses (unsent s.receiver) = 0 ∨ readies (unsent s.receiver) = 0) : Counted s next := by
  have same := flusher_receive params move other started
  have renewed := readies_le params move quiet
  have unchanged (receiver : flows (unsent next.receiver) = flows (unsent s.receiver))
      (flag : next.session.bufferOverflowed = s.session.bufferOverflowed) : Counted s next := by
    have kept : pauses (unsent next.receiver) = pauses (unsent s.receiver) := congrArg List.length receiver
    refine ⟨by rw [kept]; exact one,?_,?_,?_⟩
    · rw [kept]
      rcases queue_receive params move quiet with nothing | still
      · rw [nothing]; exact .inl rfl
      · rw [still]; exact apart
    · rw [same,flag,kept]
    · rw [same,flag,kept]
      omega
  cases move with
  | tick => exact unchanged rfl rfl
  | text pc _ ran =>
    have handled := handleJsonMessage_flows ran
    exact unchanged (by rw [pc]; exact handled.1) handled.2
  | binary pc _ ran =>
    rcases handleBinaryMessage_flows ran with ⟨_,silent,flag⟩ | ⟨_,pause,calm,flag⟩
    · exact unchanged (by rw [pc]; exact silent) flag
    · have opened := (owing_le_of_flag s.flusher true).2
      have held : pauses (unsent _) = 1 := congrArg List.length pause
      have unready := handleBinaryMessage_unready params ran
      have nothing : pauses (unsent s.receiver) = 0 ∧ readies (unsent s.receiver) = 0 := by
        rw [pc]
        exact ⟨rfl,rfl⟩
      refine ⟨Nat.le_of_eq held,.inr unready,?_,?_⟩
      · dsimp only
        rw [held,nothing.1,calm,flag]
        simpa using opened
      · dsimp only
        rw [held,unready,nothing.1,nothing.2,calm,flag]
        simp [granted]
  | @close _ failed kind pc =>
    refine unchanged ?_ rfl
    rw [pc]
    cases kind <;> cases failed <;> rfl
  | install pc =>
    have forgotten := (owing_le_of_flag s.flusher s.session.bufferOverflowed).1
    have forgiven := granted_le_of_flag s.flusher s.session.bufferOverflowed
    have nothing : pauses (unsent s.receiver) = 0 ∧ readies (unsent s.receiver) = 0 := by
      rw [pc]
      exact ⟨rfl,rfl⟩
    refine ⟨Nat.zero_le 1,.inl rfl,?_,?_⟩
    · rw [nothing.1]
      exact Int.add_le_add_right forgotten 0
    · rw [nothing.1,nothing.2]
      change (0 : Int) + 0 + _ ≤ 0 + 1 + granted s.flusher false
      omega
  | finalPass pc ran =>
    have handled := handleEnd_flows ran
    exact unchanged (by rw [pc]; exact handled.1) handled.2
  | release pc ran => exact unchanged (by rw [pc]; rfl) (releaseModel_flows ran)
  | destroyRelease pc ran => exact unchanged (by rw [pc]; rfl) (releaseModel_flows ran)
  | send => cases quiet
  | accept pc => exact absurd pc started
  | wake | exit | tryLockFails | cycle | flushSend | relock => cases other
  | acceptFails pc | readFails pc | acquire pc | acquireFails pc | installFails pc | join pc
  | destroy pc | destroyJoin pc => exact unchanged (by rw [pc]; rfl) rfl

theorem owing_proceeds (proceeds : Proceeds overflowed done) :
    owing done.next done.session.bufferOverflowed ≤ (if overflowed then 1 else 0) ∧
      granted done.next done.session.bufferOverflowed = if overflowed then 1 else 0 := by
  obtain ⟨flag,unclear,begins⟩ := proceeds
  rw [flag]
  unfold owing granted ending
  rw [unclear]
  cases resumes : resuming done.next with
  | false => cases overflowed <;> decide
  | true =>
    rw [begins resumes]
    decide

theorem owing_flush (move : Move params s action next) (flush : flushes action = true)
    (quiet : isSend action = false) :
    owing next.flusher next.session.bufferOverflowed ≤ owing s.flusher s.session.bufferOverflowed ∧
      granted s.flusher s.session.bufferOverflowed ≤ granted next.flusher next.session.bufferOverflowed := by
  cases move with
  | wake pc | exit pc | tryLockFails pc => rw [pc]; exact ⟨Int.le_refl _,Int.le_refl _⟩
  | cycle pc ran =>
    obtain ⟨grows,open_still⟩ := owing_proceeds (cycle_proceeds ran)
    rw [pc]
    refine ⟨by simpa [owing,ending,resuming,clearing] using grows,?_⟩
    rw [open_still]
    simp [granted,clearing]
  | relock pc ran =>
    rw [pc]
    rcases relock_flows ran with ⟨clears,flag,rests⟩ | ⟨resumes,kept,flag⟩ | ⟨rests,proceeds⟩
    · dsimp only at flag rests ⊢
      obtain ⟨unresumed,unclear⟩ := Bool.or_eq_false_iff.mp rests
      refine ⟨?_,?_⟩
      · rw [flag,show owing _ false = 0 by simp [owing,unresumed]]
        exact owing_nonneg _ _
      · rw [flag]
        simp only [granted,clears,unclear]
        split <;> decide
    · dsimp only at flag kept ⊢
      refine ⟨by simp [owing,flag,kept,ending,resumes],?_⟩
      simp [granted,flag,clearing_of_resuming kept,clearing_of_resuming resumes]
    · obtain ⟨grows,open_still⟩ := owing_proceeds proceeds
      obtain ⟨unresumed,unclear⟩ := Bool.or_eq_false_iff.mp rests
      refine ⟨by simpa [owing,rests,unresumed] using grows,?_⟩
      rw [open_still]
      simp [granted,unclear]
  | flushSend => cases quiet
  | _ => cases flush

theorem surplus_receive (flusher : Flusher) (degraded told : Bool) :
    surplus flusher false told ≤ surplus flusher degraded told + 1 := by
  unfold surplus
  cases announcing flusher with
  | none => cases told <;> cases degraded <;> decide
  | some busy => cases busy <;> cases told <;> cases degraded <;> decide

theorem surplus_opens (closed : announcing flusher = none) (opens : Opens session done) (told : Bool) :
    surplus done.next done.session.capacityDegraded told ≤ surplus flusher session.capacityDegraded told := by
  unfold surplus
  rw [closed]
  rcases opens.status with ⟨silent,same⟩ | ⟨announced,turned⟩
  · rw [silent,same]
  · rw [announced,turned]
    cases session.capacityDegraded <;> simp

def Keeps (s : State) : Dialogue → Prop
  | .greeting => Ungreeted params s ∨ Greeting params s
  | .talking talk => Talking params s talk
  | .concluded => Finished s

theorem finishing_quiet (finishing : Finishing s) (move : Move params s action next)
    (quiet : isSend action = false) : Finishing next := by
  obtain ⟨sent,ended,text,reason,pc⟩ := finishing
  have still := halted_step params (by rw [ended]; rfl) move
  cases move with
  | tick => exact ⟨sent,ended,text,reason,pc⟩
  | send => cases quiet
  | wake | exit | tryLockFails | cycle | flushSend | relock => cases still
  | accept current | acceptFails current | text current | binary current | readFails current
  | close current | acquire current | acquireFails current | install current | installFails current
  | join current | finalPass current | release current | destroy current | destroyJoin current
  | destroyRelease current => rw [pc] at current; cases current

theorem started_preserved (started : s.receiver ≠ .handshake) (move : Move params s action next) :
    next.receiver ≠ .handshake := by
  intro pc
  rcases receiver_step params move with same | answers | leaves | ⟨other,_⟩ | ⟨other,_⟩ | ⟨_,_,other⟩ |
    ⟨_,other,_⟩
  · exact started (same.symm.trans pc)
  · rw [pc] at answers; cases answers
  · rw [pc] at leaves; cases leaves
  all_goals rw [pc] at other; cases other

theorem phase_quiet (phase : Opened s ∨ Finishing s) (move : Move params s action next)
    (quiet : isSend action = false) : Opened next ∨ Finishing next := by
  rcases phase with opened | finishing
  · exact opened_preserved opened move
  · exact .inr (finishing_quiet params finishing move quiet)

theorem opens_flush (move : Move params s action next) (flush : flushes action = true)
    (quiet : isSend action = false) :
    announcing s.flusher = none ∧ Opens s.session ⟨next.session,next.flusher,[]⟩ := by
  cases move with
  | wake pc | exit pc | tryLockFails pc =>
    exact ⟨by rw [pc]; rfl,by simp,.inl ⟨rfl,rfl⟩⟩
  | cycle pc ran =>
    have opens := cycle_opens params ran
    exact ⟨by rw [pc]; rfl,opens.warning,opens.status⟩
  | relock pc ran =>
    have opens := relock_opens ran
    exact ⟨by rw [pc]; rfl,opens.warning,opens.status⟩
  | flushSend => cases quiet
  | _ => cases flush

theorem talking_unseen (talking : Talking params s talk) (move : Move params s action next)
    (quiet : isSend action = false) : Talking params next talk := by
  have set := configured_preserved params move talking.set
  have common : (next.receiver ≠ .handshake) ∧ (Opened next ∨ Finishing next) ∧
      (∀ message ∈ unsent next.receiver, Answer params true message) ∧
      (∀ message next', next.flusher = .sending message next' → FlushLoop.carries message next') := by
    refine ⟨started_preserved params talking.started move,phase_quiet params talking.phase move quiet,?_,?_⟩
    · intro message present
      rcases answers_step params (fun _ => talking.set) move present with old | new
      · exact talking.pending message old
      · rwa [set] at new
    · intro message continuation opened
      rcases window_step params move opened with old | new
      · exact talking.window message continuation old
      · exact new
  obtain ⟨started,phase,pending,window⟩ := common
  have repeated := talking.repeated
  have owed := talking.owed
  have room := talking.room
  cases flush : flushes action with
  | false =>
    have same := flusher_receive params move flush talking.started
    have renewed := readies_le params move quiet
    have counted := counted_receive params move flush quiet talking.started talking.one talking.apart
    have less := counted.owed
    have more := counted.room
    refine ⟨set,started,phase,pending,window,?_,?_,?_,?_,by omega,by omega,counted.one,counted.apart⟩
    · rw [same]; exact talking.warning
    · intro announced
      obtain ⟨told,steady⟩ := talking.recovering (by rw [← same]; exact announced)
      refine ⟨told,?_⟩
      rcases degraded_receive params move flush with kept | ⟨cleared,_⟩
      · exact kept.trans steady
      · exact cleared
    · intro held
      rw [same]
      rcases degraded_receive params move flush with kept | ⟨cleared,_⟩
      · exact talking.degraded (kept.symm.trans held)
      · rw [cleared] at held
        cases held
    · rw [same]
      rcases degraded_receive params move flush with kept | ⟨cleared,nothing,ready⟩
      · rw [kept]
        omega
      · have grows := surplus_receive s.flusher s.session.capacityDegraded talk.busy
        have none_left : readies (unsent s.receiver) = 0 := by rw [nothing]; rfl
        rw [cleared,ready]
        omega
  | true =>
    have same := receiver_flush params move flush
    obtain ⟨closed,opens⟩ := opens_flush params move flush quiet
    have shrinks := owing_flush params move flush quiet
    have fewer := surplus_opens closed opens talk.busy
    have told (held : s.session.capacityDegraded = true) : talk.busy = true := by
      rcases talking.degraded held with told | announced
      · exact told
      · rw [closed] at announced
        cases announced
    refine ⟨set,started,phase,pending,window,opens.warning,?_,?_,?_,?_,?_,?_,?_⟩
    · intro announced
      rcases opens.status with ⟨silent,_⟩ | ⟨now_announced,turned⟩
      · rw [show announcing next.flusher = none from silent] at announced
        cases announced
      · have cleared : next.session.capacityDegraded = false :=
          Option.some.inj (now_announced.symm.trans announced)
        have held : s.session.capacityDegraded = true := by
          simpa [cleared] using turned
        exact ⟨told held,cleared⟩
    · intro held
      rcases opens.status with ⟨_,kept⟩ | ⟨now_announced,_⟩
      · exact .inl (told (kept.symm.trans held))
      · exact .inr (now_announced.trans (congrArg some held))
    · rw [same]
      dsimp only at fewer
      omega
    · rw [same]
      omega
    · rw [same]
      omega
    · rw [same]; exact talking.one
    · rw [same]; exact talking.apart

theorem pauses_cons (message : ServerMessage) (rest : List ServerMessage) :
    pauses (message :: rest) = pauses [message] + pauses rest := by
  unfold pauses
  rw [← List.length_append,← flows_append]
  rfl

theorem readies_cons (message : ServerMessage) (rest : List ServerMessage) :
    readies (message :: rest) ≤ readies [message] + readies rest ∧
      readies rest ≤ readies (message :: rest) := by
  unfold readies
  cases ready : isReady message <;> cases later : rest.any isReady <;> simp [ready,later]

theorem talking_sent (told : Talk) (talking : Talking params s talk)
    (pc : s.receiver = .sending (message :: rest) after) (plain : message.isFinal = false)
    (balance : told.balance = talk.balance + pauses [message])
    (renewals : told.renewals = talk.renewals + readies [message])
    (busy : told.busy = talk.busy) (repeats : told.repeats = talk.repeats) :
    Talking params { s with receiver := sendThen rest after, log := s.log ++ [.sent message] } told := by
  have move : Move params s .send { s with
      receiver := sendThen rest after, log := s.log ++ [.sent message] } := .send pc
  have phase := talking.phase
  have pending := talking.pending
  have repeated := talking.repeated
  have owed := talking.owed
  have room := talking.room
  have one := talking.one
  have apart := talking.apart
  have readied := readies_cons message rest
  simp only [pc,unsent,pauses_cons message rest] at pending repeated owed room one apart
  refine ⟨talking.set,started_preserved params talking.started move,?_,?_,talking.window,talking.warning,
    by rw [busy]; exact talking.recovering,by rw [busy]; exact talking.degraded,?_,?_,?_,?_,?_⟩
  · rcases phase with opened | ⟨_,_,_,_,last⟩
    · exact opened_preserved opened move
    · rw [pc] at last
      cases last
      cases plain
  · rw [unsent_sendThen]
    exact fun found present => pending found (List.mem_cons_of_mem _ present)
  all_goals rw [unsent_sendThen]
  · rw [busy,repeats,renewals]
    dsimp only
    omega
  · rw [balance]
    dsimp only
    omega
  · rw [balance,renewals]
    dsimp only
    omega
  · omega
  · omega

theorem talking_send (talking : Talking params s talk)
    (pc : s.receiver = .sending (message :: rest) after) :
    ∃ later, Speaks params (.talking talk) message later ∧
      Keeps params { s with receiver := sendThen rest after, log := s.log ++ [.sent message] } later := by
  have answer := talking.pending message (by simp [pc,unsent])
  have sent (told : Talk) := talking_sent params told talking pc
  cases answer with
  | refusal known =>
    exact ⟨_,.complains known,sent _ rfl (Int.add_zero _).symm (Nat.add_zero _).symm rfl rfl⟩
  | ready => exact ⟨_,.greetsAgain,sent _ rfl (Int.add_zero _).symm rfl rfl rfl⟩
  | pause =>
    -- The queue that holds a pause holds no ready.
    have room : talk.balance ≤ talk.renewals := by
      have apart := talking.apart
      have room := talking.room
      have least : granted s.flusher s.session.bufferOverflowed ≤ 1 := by
        unfold granted
        split <;> split <;> decide
      simp only [pc,unsent,pauses_cons _ rest] at apart room
      have counted : pauses [ServerMessage.flowControl .pause] = 1 := rfl
      omega
    exact ⟨_,.pauses room,sent _ rfl rfl (Nat.add_zero _).symm rfl rfl⟩
  | warning _ some =>
    exact ⟨_,.warns some,sent _ rfl (Int.add_zero _).symm (Nat.add_zero _).symm rfl rfl⟩
  | final _ known =>
    refine ⟨_,.concludes known,?_⟩
    rcases talking.phase with opened | ⟨_,ended,_,_,last⟩
    · have receiver := opened.receiver
      simp [pc,unsent,NoFinal,ServerMessage.isFinal] at receiver
    · rw [pc] at last
      cases last
      exact ⟨ended,trivial⟩

theorem talking_flushSend (talking : Talking params s talk)
    (pc : s.flusher = .sending message continuation) :
    ∃ later, Speaks params (.talking talk) message later ∧
      Keeps params { s with flusher := .relocking continuation, log := s.log ++ [.sent message] } later := by
  have move : Move params s .flushSend { s with
      flusher := .relocking continuation, log := s.log ++ [.sent message] } := .flushSend pc
  have carried := talking.window message continuation pc
  have repeated := talking.repeated
  have owed := talking.owed
  have room := talking.room
  have phase : Opened { s with flusher := .relocking continuation, log := s.log ++ [.sent message] } ∨
      Finishing { s with flusher := .relocking continuation, log := s.log ++ [.sent message] } := by
    rcases talking.phase with opened | finishing
    · exact opened_preserved opened move
    · rw [finishing.flusher] at pc
      cases pc
  have sent {told : Talk} (degraded : s.session.capacityDegraded = true → told.busy = true)
      (repeated : told.repeats + (if told.busy && !s.session.capacityDegraded then 1 else 0) ≤
        told.renewals + readies (unsent s.receiver))
      (owed : owing (.relocking continuation) s.session.bufferOverflowed ≤
        told.balance + pauses (unsent s.receiver))
      (room : told.balance + pauses (unsent s.receiver) ≤ told.renewals + readies (unsent s.receiver) +
        granted (.relocking continuation) s.session.bufferOverflowed) :
      Talking params { s with flusher := .relocking continuation, log := s.log ++ [.sent message] } told :=
    ⟨talking.set,talking.started,phase,talking.pending,(by simp),(by simp),(by simp [announcing]),
      fun held => .inl (degraded held),repeated,owed,room,talking.one,talking.apart⟩
  have told (held : s.session.capacityDegraded = true) (other : announcing s.flusher = none) :
      talk.busy = true := by
    rcases talking.degraded held with told | announced
    · exact told
    · rw [other] at announced
      cases announced
  -- What the status does not change it leaves to be counted as before.
  have silent (other : announcing s.flusher = none) :
      talk.repeats + (if talk.busy && !s.session.capacityDegraded then 1 else 0) ≤
        talk.renewals + readies (unsent s.receiver) := by
    simpa [surplus,other] using repeated
  have ready := readies_le_one (unsent s.receiver)
  rw [pc] at repeated owed room
  cases continuation with
  | skip =>
    cases carried
    simp only [surplus,announcing] at repeated
    cases busy : talk.busy with
    | false =>
      refine ⟨_,.saturates busy,sent (fun _ => rfl) ?_ owed room⟩
      cases held : s.session.capacityDegraded <;> simp [busy,held] at repeated ⊢ <;> omega
    | true =>
      rw [busy] at repeated
      have again : talk.repeats ≤ talk.renewals := by
        simp only [if_true] at repeated
        omega
      refine ⟨_,.saturatesAgain busy again,sent (fun _ => busy) ?_ owed room⟩
      cases held : s.session.capacityDegraded <;> simp [busy,held] at repeated ⊢ <;> omega
  | infer =>
    cases carried
    obtain ⟨busy,steady⟩ := talking.recovering (by rw [pc]; rfl)
    refine ⟨_,.recovers busy,sent ?_ ?_ owed room⟩
    · rw [steady]
      exact fun held => by cases held
    · simpa [surplus,announcing] using repeated
  | resume =>
    obtain ⟨dropped,rfl⟩ := carried
    have other : announcing s.flusher = none := by rw [pc]; rfl
    exact ⟨_,.warns (talking.warning _ _ pc),sent (fun held => told held other) (silent other) owed room⟩
  | clear cycleEngine currentSize result =>
    cases carried
    have other : announcing s.flusher = none := by rw [pc]; rfl
    have begun : owing (.sending (.flowControl .resume) (.clear cycleEngine currentSize result))
        s.session.bufferOverflowed = 1 := by simp [owing,resuming,ending]
    have answered : owing (.relocking (.clear cycleEngine currentSize result))
        s.session.bufferOverflowed = 0 := by simp [owing,resuming,ending,clearing]
    have spent : granted (.relocking (.clear cycleEngine currentSize result)) s.session.bufferOverflowed =
        granted (.sending (.flowControl .resume) (.clear cycleEngine currentSize result))
          s.session.bufferOverflowed - 1 := by simp [granted,clearing]
    have one := talking.one
    rw [begun] at owed
    refine ⟨_,.resumes (by omega),sent (fun held => told held other) (silent other) ?_ ?_⟩
    · rw [answered]
      dsimp only
      omega
    · rw [spent]
      dsimp only
      omega
  | finish =>
    obtain ⟨text,rfl⟩ := carried
    have other : announcing s.flusher = none := by rw [pc]; rfl
    exact ⟨_,.shows,sent (fun held => told held other) (silent other) owed room⟩

theorem unset_step (unset : s.session.configured = false) (other : action ≠ .install)
    (move : Move params s action next) : next.session.configured = false := by
  rcases session_step params move with frame | ⟨installs,_⟩ | ⟨_,failed,_⟩ | ⟨released,_⟩
  · exact frame.configured.trans unset
  · exact absurd installs other
  · rw [failed]; exact unset
  · rcases emptied : s.session.releaseModel with ⟨after,events⟩
    rw [released,emptied]
    rcases releaseModel_cases emptied with ⟨_,_,rfl⟩ | ⟨_,_,rfl⟩
    all_goals exact unset

theorem ungreeted_kept (ungreeted : Ungreeted params s) (other : action ≠ .install)
    (move : Move params s action next) : Ungreeted params next := by
  obtain ⟨unset,idle,⟨unjoined,unfinal⟩,pending,opened⟩ := ungreeted
  have still := unset_step params unset other move
  have answers : ∀ message ∈ unsent next.receiver, Answer params false message := by
    intro message present
    rcases answers_step params (fun here => absurd here unfinal) move present with old | new
    · exact pending message old
    · rwa [still] at new
  refine ⟨still,?_,?_,answers,?_⟩
  · refine Bool.eq_true_of_not_eq_false fun busy => ?_
    have set := busy_preserved params (fun busy => by rw [idle] at busy; cases busy) move busy
    rw [still] at set
    cases set
  · rcases receiver_step params move with same | answers | leaves | ⟨here,_⟩ | ⟨_,set⟩ | ⟨_,_,here⟩ |
      ⟨from_join,_⟩
    · rw [same]; exact ⟨unjoined,unfinal⟩
    · constructor
      all_goals
        intro here
        rw [here] at answers
        cases answers
    · constructor
      all_goals
        intro here
        rw [here] at leaves
        cases leaves
    · rw [here]; exact ⟨by simp,by simp⟩
    · rw [unset] at set; cases set
    · rw [here]; exact ⟨by simp,by simp⟩
    · exact absurd from_join unjoined
  · rcases opened_preserved opened move with kept | ⟨_,_,_,_,pc⟩
    · exact kept
    · cases answers _ (by rw [pc]; exact List.mem_singleton_self _) with
      | final set => cases set

theorem ungreeted_install (ungreeted : Ungreeted params s) (move : Move params s .install next) :
    Greeting params next := by
  have opened : Opened next ∨ Finishing next := opened_preserved ungreeted.opened move
  cases move with
  | install =>
    refine ⟨rfl,ungreeted.idle,⟨_,rfl⟩,rfl,⟨rfl,rfl⟩,?_⟩
    rcases opened with kept | ⟨_,_,_,_,pc⟩
    · exact kept
    · cases pc

theorem greeting_cycle (empty : session.bufferSize = 0) (done : Flushed)
    (ran : FlushLoop.cycle params session now slot outcome = done) :
    done = ⟨FlushLoop.watchdog params session now,.waiting,[]⟩ := by
  subst ran
  rcases FlushLoop.cycle_cases params session now slot outcome with ⟨quiet,_⟩ | ⟨owned,present,_,due,_⟩
  · exact quiet
  · rw [FlushLoop.watchdog_engine] at present
    have size : owned.engine.getBufferSize = 0 := by simpa [bufferSize,present] using empty
    rw [size] at due
    simp [FlushLoop.triggered,minBufferSamples] at due

theorem greeting_kept (greeting : Greeting params s) (move : Move params s action next)
    (quiet : isSend action = false) : Greeting params next := by
  have opened := opened_preserved greeting.opened move
  obtain ⟨set,idle,⟨words,pc⟩,empty,⟨steady,calm⟩,_⟩ := greeting
  have kept (receiver : next.receiver = s.receiver) (resting : SessionMachine.idle next.flusher = true)
      (session : next.session = s.session ∨ next.session = FlushLoop.watchdog params s.session s.clock) :
      Greeting params next := by
    obtain ⟨shut,frame⟩ := FlushLoop.watchdog_frame params s.session s.clock
    have fields : next.session.configured = true ∧ next.session.bufferSize = 0 ∧
        next.session.capacityDegraded = false ∧ next.session.bufferOverflowed = false := by
      rcases session with same | same
      · rw [same]; exact ⟨set,empty,steady,calm⟩
      · rw [same,frame]; exact ⟨set,empty,steady,calm⟩
    refine ⟨fields.1,resting,⟨words,receiver.trans pc⟩,fields.2.1,fields.2.2,?_⟩
    rcases opened with open_still | ⟨_,_,_,_,last⟩
    · exact open_still
    · rw [receiver,pc] at last
      cases last
  cases move with
  | tick => exact kept rfl idle (.inl rfl)
  | wake | exit | tryLockFails => exact kept rfl rfl (.inl rfl)
  | cycle _ ran =>
    have rests := greeting_cycle params empty _ ran
    cases rests
    exact kept rfl rfl (.inr rfl)
  | send | flushSend => cases quiet
  | relock current => rw [current] at idle; cases idle
  | accept current | acceptFails current | text current | binary current | readFails current
  | close current | acquire current | acquireFails current | install current | installFails current
  | join current | finalPass current | release current | destroy current | destroyJoin current
  | destroyRelease current => rw [pc] at current; cases current

theorem idle_sends_nothing (idle : SessionMachine.idle flusher = true) (message : ServerMessage)
    (next : Continuation) : flusher ≠ .sending message next := by
  rintro rfl
  cases idle

theorem idle_owes_nothing (idle : SessionMachine.idle flusher = true) :
    owing flusher false = 0 ∧ granted flusher false = 0 := by
  cases flusher <;> first | exact ⟨rfl,rfl⟩ | cases idle

theorem greeting_sent (greeting : Greeting params s) (pc : s.receiver = .sending (message :: rest) after) :
    ∃ later, Speaks params .greeting message later ∧
      Keeps params { s with receiver := sendThen rest after, log := s.log ++ [.sent message] } later := by
  have move : Move params s .send { s with
      receiver := sendThen rest after, log := s.log ++ [.sent message] } := .send pc
  have opened := opened_preserved greeting.opened move
  obtain ⟨set,idle,⟨words,current⟩,_,⟨steady,calm⟩,_⟩ := greeting
  rw [pc] at current
  cases current
  have silent := idle_sends_nothing idle
  have quiet : announcing s.flusher = none := by
    cases flusher : s.flusher <;> first | rfl | (rw [flusher] at idle; cases idle)
  refine ⟨_,.greets,set,by simp [sendThen],opened,by simp [sendThen,unsent],?_,?_,?_,?_,?_,?_,?_,?_,?_⟩
  · exact fun found next here => absurd here (silent found next)
  · exact fun dropped next here => absurd here (silent _ next)
  · exact fun here => by rw [quiet] at here; cases here
  · exact fun held => by rw [steady] at held; cases held
  · dsimp only
    rw [surplus,quiet]
    exact Nat.zero_le _
  · dsimp only
    rw [calm,(idle_owes_nothing idle).1]
    decide
  · dsimp only
    rw [calm,(idle_owes_nothing idle).2]
    decide
  · exact Nat.zero_le 1
  · exact .inl rfl

theorem ungreeted_sent (ungreeted : Ungreeted params s)
    (pc : s.receiver = .sending (message :: rest) after) :
    ∃ later, Speaks params .greeting message later ∧
      Keeps params { s with receiver := sendThen rest after, log := s.log ++ [.sent message] } later := by
  have move : Move params s .send { s with
      receiver := sendThen rest after, log := s.log ++ [.sent message] } := .send pc
  have kept := ungreeted_kept params ungreeted (by simp) move
  cases ungreeted.pending message (by simp [pc,unsent]) with
  | refusal known => exact ⟨_,.refuses known,.inl kept⟩
  | ready set | pause set | warning set | final set => cases set

theorem session_speaks :
    Machine.Simulation (Step params) (Speaks params) (Keeps params) spoken := by
  constructor
  · intro s spec action message next keeps one told
    rcases spoken_cases params one.2 told with ⟨rest,after,rfl,pc,rfl⟩ | ⟨continuation,rfl,pc,rfl⟩
    · cases spec with
      | greeting =>
        rcases keeps with ungreeted | greeting
        · exact ungreeted_sent params ungreeted pc
        · exact greeting_sent params greeting pc
      | talking talk => exact talking_send params keeps pc
      | concluded =>
        have receiver := Finished.receiver keeps
        simp [ended,pc] at receiver
    · cases spec with
      | greeting =>
        rcases keeps with ungreeted | greeting
        · exact absurd pc (idle_sends_nothing ungreeted.idle _ _)
        · exact absurd pc (idle_sends_nothing greeting.idle _ _)
      | talking talk => exact talking_flushSend params keeps pc
      | concluded =>
        rw [Finished.flusher keeps] at pc
        cases pc
  · intro s spec action next keeps one silent
    have quiet := spoken_quiet params one.2 silent
    cases spec with
    | greeting =>
      rcases keeps with ungreeted | greeting
      · by_cases installs : action = .install
        · subst installs
          exact .inr (ungreeted_install params ungreeted one.2)
        · exact .inl (ungreeted_kept params ungreeted installs one.2)
      · exact .inr (greeting_kept params greeting one.2 quiet)
    | talking talk => exact talking_unseen params keeps one.2 quiet
    | concluded => exact (finished_preserved keeps one.2).1

theorem initial_keeps (now : Instant) : Keeps params (initial now) .greeting := by
  have opened : Opened (initial now) :=
    ⟨List.forall_mem_nil _,fun _ => List.not_mem_nil,List.forall_mem_nil _,
      fun _ _ pc => (by cases pc),fun pc => (by cases pc)⟩
  exact .inl ⟨rfl,rfl,⟨by simp [initial],by simp [initial]⟩,List.forall_mem_nil _,opened⟩

-- Whatever the client sends and however the two threads interleave, what it
-- gets is a conversation.
theorem wire_protocol (path : Runs params (initial now) trace s) :
    ∃ steps later, Machine.Runs (Speaks params) .greeting steps later ∧
      steps.map Prod.snd = sentMessages s.log := by
  obtain ⟨steps,later,conversation,same,_⟩ :=
    (session_speaks params).runs path (initial_keeps params now)
  exact ⟨steps,later,conversation,same.trans (sentMessages_spoken params path).symm⟩

theorem wire_protocol_ended : ∃ trace s steps later, Runs defaultParams (initial 0) trace s ∧
    Machine.Runs (Speaks defaultParams) .greeting steps later ∧
    steps.map Prod.snd = [readyMessage defaultParams (create 0),.transcription [] true none] := by
  obtain ⟨s,ran,sent⟩ : ∃ s, run defaultParams (initial 0) (configSchedule ++
      [.text endPayload emptyView,.exit,.join,.finalPass true silence,.send]) = some s ∧
      sentMessages s.log =
        [readyMessage defaultParams (create 0),.transcription [] true none] := ⟨_,rfl,rfl⟩
  obtain ⟨trace,_,path⟩ := run_sound defaultParams ran
  obtain ⟨steps,later,conversation,same⟩ := wire_protocol defaultParams path
  exact ⟨trace,s,steps,later,path,conversation,same.trans sent⟩

end JotaTranscriber.WireProtocol

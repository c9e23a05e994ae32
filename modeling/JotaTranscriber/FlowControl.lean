import JotaTranscriber.SessionRuns

namespace JotaTranscriber.FlowControl
open SessionMachine StreamingSession FlushLoop

def flows (messages : List ServerMessage) : List FlowAction :=
  messages.filterMap ServerMessage.flowAction?

def received (s : State) : List FlowAction := flows (sentMessages s.log)

def paused (actions : List FlowAction) : Bool := decide (actions.getLast? = some .pause)

-- pause, resume, pause, ...: a resume stands exactly after a pause.
def Alternates (actions : List FlowAction) : Prop :=
  Machine.Justified (fun before action => action = .resume ↔ paused before = true) actions

-- The flush thread is about to send resume, or has sent it and not yet cleared
-- buffer_overflowed_.
def resuming : Flusher → Bool
  | .sending _ (.resume ..) | .relocking (.resume ..) | .sending _ (.clear ..) => true
  | _ => false

def clearing : Flusher → Bool
  | .relocking (.clear ..) => true
  | _ => false

def ending (flusher : Flusher) : Bool := resuming flusher || clearing flusher

def settled (s : State) : Bool := (flows (unsent s.receiver)).isEmpty && !resuming s.flusher

-- The checks of handleBinaryMessage.
def admitted (session : StreamingSession) (now : Instant) (data : List UInt8) : Bool :=
  decide (data.length ≤ maxFrameBytes) && decide (4 ≤ data.length) && session.configured &&
    decide (data.length % 4 = 0) &&
    !(decide ((now - session.rateLimitStart).tdiv (seconds 1) ≥ 3) &&
      decide (session.bytesReceivedInWindow + data.length > maxBytesPerWindow))

-- A frame that opens a saturation episode.
def enters (session : StreamingSession) (now : Instant) (data : List UInt8) : Bool :=
  admitted session now data && !session.bufferOverflowed &&
    decide (session.bufferSize ≥ StreamingWhisperEngine.highWaterMark)

-- The order of steps the two threads would have to keep: no config takes effect
-- in the middle of an episode, resume is not sent ahead of the pause it answers,
-- and no new episode opens while the last one is being closed.
def orderly (s : State) : Action → Bool
  | .install => !s.session.bufferOverflowed || ending s.flusher
  | .flushSend =>
    match s.flusher with
    | .sending (.flowControl .resume) _ => (flows (unsent s.receiver)).isEmpty
    | _ => true
  | .binary data => !(ending s.flusher && enters s.session s.clock data)
  | _ => true

-- The client is told to resume while the flag is still set: until flushLoop has
-- locked state_mutex_ again the two differ with nothing left to send.
def early (s : State) : Action → Bool
  | .flushSend =>
    match s.flusher with
    | .sending (.flowControl .resume) _ => s.session.bufferOverflowed
    | _ => false
  | _ => false

def lawful (s : State) (action : Action) : Bool := orderly s action && !early s action

def Agrees (s : State) : Prop :=
  Alternates (received s) ∧
    (settled s = true → (paused (received s) = true ↔ s.session.bufferOverflowed = true))

@[simp] theorem flows_append (left right : List ServerMessage) :
    flows (left ++ right) = flows left ++ flows right := List.filterMap_append

@[simp] theorem flows_nil : flows [] = [] := rfl

@[simp] theorem paused_snoc (actions : List FlowAction) (action : FlowAction) :
    paused (actions ++ [action]) = decide (action = .pause) := by
  simp [paused]

theorem alternates_snoc (alternates : Alternates actions)
    (turn : action = .resume ↔ paused actions = true) : Alternates (actions ++ [action]) := by
  refine Machine.justified_append.mpr ⟨alternates,?_⟩
  rw [Machine.justified_singleton,List.append_nil]
  exact turn

theorem flows_refusal (refusal : Refusal next) : flows (unsent next) = [] := by
  obtain ⟨message,code,after,rfl,_⟩ := refusal
  rfl

-- A frame that fails a check is counted at most; one that passes them all goes
-- to the engine.
theorem handleBinaryMessage_admission
    (ran : handleBinaryMessage params session now data = (after,next)) :
    (admitted session now data = false ∧ unsent next ⊆ unsent notConfigured ∧
      ∃ received, after = { session with bytesReceivedInWindow := received }) ∨
    admitted session now data = true ∧ ∃ received start messages,
      { session with bytesReceivedInWindow := received, rateLimitStart := start }.processAudioChunk now
        (float32Samples params.float32 data) = (after,messages) ∧ next = sendThen messages .read := by
  unfold handleBinaryMessage at ran
  dsimp only at ran
  split at ran
  · rename_i large
    cases ran
    exact .inl ⟨by simp [admitted,Nat.not_le_of_lt large],List.nil_subset _,_,rfl⟩
  rename_i fits
  split at ran
  · rename_i short
    cases ran
    exact .inl ⟨by simp [admitted,Nat.not_le_of_lt short],List.nil_subset _,_,rfl⟩
  rename_i long
  split at ran
  · rename_i unready
    cases ran
    exact .inl ⟨by simp [admitted,show session.configured = false by simpa using unready],
      List.Subset.refl _,_,rfl⟩
  rename_i ready
  split at ran
  · rename_i cut
    cases ran
    exact .inl ⟨by simp [admitted,cut],List.nil_subset _,_,rfl⟩
  rename_i whole
  split at ran
  · rename_i exceeded
    cases ran
    exact .inl ⟨by simp [admitted,exceeded],List.nil_subset _,_,rfl⟩
  rename_i within
  have accepted : admitted session now data = true := by
    simp only [admitted,Bool.and_eq_true,decide_eq_true_eq,Bool.not_eq_true',← Bool.not_eq_true]
    exact ⟨⟨⟨⟨Nat.le_of_not_lt fits,Nat.le_of_not_lt long⟩,by simpa using ready⟩,by simpa using whole⟩,within⟩
  refine .inr ⟨accepted,?_⟩
  cases ran
  split
  · exact ⟨0,now,_,rfl,rfl⟩
  · exact ⟨_,_,_,rfl,rfl⟩

-- So a frame is ignored, or its chunk is dropped at the high-water mark, or the
-- engine takes it.
theorem handleBinaryMessage_chunk
    (ran : handleBinaryMessage params session now data = (after,next)) :
    ∃ received start,
      let counted := { session with bytesReceivedInWindow := received, rateLimitStart := start }
      ((admitted session now data = false ∨ session.engine = none) ∧ after = counted ∧
        unsent next ⊆ unsent notConfigured) ∨
      admitted session now data = true ∧ ∃ owned, session.engine = some owned ∧
        (StreamingWhisperEngine.highWaterMark ≤ session.bufferSize ∧
          after = { counted with
            lastAudioTime := now, bufferOverflowed := true, droppedChunks := session.droppedChunks + 1 } ∧
          unsent next = (if session.bufferOverflowed then [] else [.flowControl .pause]) ++
            (if (session.droppedChunks + 1) % warningIntervalChunks = 0 then
              [.bufferFull (session.droppedChunks + 1)] else []) ∨
        session.bufferSize < StreamingWhisperEngine.highWaterMark ∧
          after = { counted with
            lastAudioTime := now
            engine := some ⟨owned.id,(owned.engine.processAudioChunk
              (float32Samples params.float32 data)).2⟩ } ∧
          unsent next = []) := by
  rcases handleBinaryMessage_admission ran with
    ⟨refused,answers,received,rfl⟩ | ⟨accepted,received,start,messages,heard,rfl⟩
  · exact ⟨received,session.rateLimitStart,.inl ⟨.inl refused,rfl,answers⟩⟩
  · refine ⟨received,start,?_⟩
    rw [unsent_sendThen]
    rcases processAudioChunk_cases { session with
        bytesReceivedInWindow := received, rateLimitStart := start } now
        (float32Samples params.float32 data) with
      ⟨missing | unready,unchanged⟩ | ⟨owned,present,_,⟨full,dropped⟩ | ⟨room,taken⟩⟩
    · cases unchanged.symm.trans heard
      exact .inl ⟨.inr missing,rfl,List.nil_subset _⟩
    · rw [admitted,show session.configured = false from unready] at accepted
      simp at accepted
    all_goals
      replace present : session.engine = some owned := present
      have size : session.bufferSize = owned.engine.getBufferSize := by simp [bufferSize,present]
      rw [size]
    · cases dropped.symm.trans heard
      exact .inr ⟨accepted,owned,present,.inl ⟨full,rfl,rfl⟩⟩
    · cases taken.symm.trans heard
      exact .inr ⟨accepted,owned,present,.inr ⟨room,rfl,rfl⟩⟩

theorem handleBinaryMessage_flows
    (ran : handleBinaryMessage params session now data = (after,next)) :
    (enters session now data = false ∧ flows (unsent next) = [] ∧
      after.bufferOverflowed = session.bufferOverflowed) ∨
    enters session now data = true ∧ flows (unsent next) = [.pause] ∧
      session.bufferOverflowed = false ∧ after.bufferOverflowed = true := by
  have warnings (dropped : Nat) :
      flows (if dropped % warningIntervalChunks = 0 then [.bufferFull dropped] else []) = [] := by
    split <;> rfl
  obtain ⟨received,start,⟨idle,rfl,answers⟩ | ⟨accepted,owned,_,⟨full,rfl,answers⟩ | ⟨room,rfl,answers⟩⟩⟩ :=
    handleBinaryMessage_chunk ran
  · have calm : enters session now data = false := by
      rcases idle with refused | missing
      · simp [enters,refused]
      · simp [enters,bufferSize,missing,StreamingWhisperEngine.highWaterMark]
    refine .inl ⟨calm,List.filterMap_eq_nil_iff.mpr ?_,rfl⟩
    intro message present
    cases List.mem_singleton.mp (answers present)
    rfl
  · rw [answers]
    cases open_episode : session.bufferOverflowed with
    | true => exact .inl ⟨by simp [enters,open_episode],by simp [warnings],rfl⟩
    | false =>
      refine .inr ⟨by simp [enters,accepted,open_episode,full],?_,rfl,rfl⟩
      rw [flows_append,warnings]
      rfl
  · exact .inl ⟨by simp [enters,Nat.not_le_of_lt room],by rw [answers]; rfl,rfl⟩

theorem handleJsonMessage_flows
    (ran : handleJsonMessage params session payload view = (after,next)) :
    flows (unsent next) = [] ∧ after.bufferOverflowed = session.bufferOverflowed := by
  rcases handleJsonMessage_cases ran with ⟨rfl,refusal⟩ | ⟨_,rfl,rfl,_⟩ | ⟨rfl,rfl,_⟩ | ⟨rfl,rfl⟩
  · exact ⟨flows_refusal refusal,rfl⟩
  all_goals exact ⟨rfl,rfl⟩

theorem handleEnd_flows (ran : StreamingSession.handleEnd session slot outcome = ⟨after,next,events⟩) :
    flows (unsent next) = [] ∧ after.bufferOverflowed = session.bufferOverflowed := by
  rcases handleEnd_cases ran with ⟨_,rfl,_,_,_,_,_,_,rfl⟩ | ⟨_,_,_,_,_,rfl,rfl⟩
  all_goals exact ⟨rfl,rfl⟩

theorem releaseModel_flows (ran : StreamingSession.releaseModel session = (after,events)) :
    after.bufferOverflowed = session.bufferOverflowed := by
  rcases releaseModel_cases ran with ⟨_,_,rfl⟩ | ⟨_,_,rfl⟩ <;> rfl

-- A stretch of flushLoop that closes nothing: it leaves the flag alone and
-- begins to close an episode only while the flag is set.
structure Proceeds (overflowed : Bool) (done : Flushed) : Prop where
  flag : done.session.bufferOverflowed = overflowed
  clearing : clearing done.next = false
  resuming : resuming done.next = true → overflowed = true

theorem Proceeds.of_rest (flag : done.session.bufferOverflowed = overflowed)
    (rests : ending done.next = false) : Proceeds overflowed done := by
  obtain ⟨quiet,done_clearing⟩ := Bool.or_eq_false_iff.mp rests
  refine ⟨flag,done_clearing,?_⟩
  rw [quiet]
  exact fun impossible => by cases impossible

theorem accumulate_proceeds (session : StreamingSession) (cycleEngine currentSize : Nat)
    (result : TranscribeResult) :
    Proceeds session.bufferOverflowed (accumulate session cycleEngine currentSize result) := by
  refine .of_rest rfl ?_
  rcases accumulate_next session cycleEngine currentSize result with waits | ⟨faults,_⟩ | sends
  · rw [waits]; rfl
  · rw [faults]; rfl
  · rw [sends]; rfl

theorem inferPass_proceeds (session : StreamingSession) (cycleEngine currentSize : Nat)
    (outcome : Outcome) :
    Proceeds session.bufferOverflowed (inferPass session cycleEngine currentSize outcome) := by
  rcases inferPass_cases session cycleEngine currentSize outcome with
    ⟨_,faults⟩ | ⟨owned,used,_,⟨_,_,fails⟩ | ⟨result,_,passed⟩⟩
  · rw [faults]; exact .of_rest rfl rfl
  · rw [fails]; exact .of_rest rfl rfl
  · rw [passed]
    rcases afterPass_cases { session with engine := some ⟨owned.id,used⟩ } ⟨owned.id,used⟩
        cycleEngine currentSize result with
      ⟨overflowed,_,_,_,opened,kind⟩ | ⟨_,_,_,direct⟩
    · rw [opened]
      rcases kind with ⟨rfl,rfl⟩ | ⟨rfl,rfl⟩
      all_goals exact ⟨rfl,rfl,fun _ => overflowed⟩
    · rw [direct]
      have proceeds := accumulate_proceeds { session with engine := some ⟨owned.id,used⟩ }
        cycleEngine currentSize result
      exact ⟨proceeds.flag,proceeds.clearing,proceeds.resuming⟩

theorem cycle_proceeds (ran : cycle params session now slot outcome = done) :
    Proceeds session.bufferOverflowed done := by
  subst ran
  obtain ⟨idle,frame⟩ := watchdog_frame params session now
  have flag : (watchdog params session now).bufferOverflowed = session.bufferOverflowed := by rw [frame]
  rw [← flag]
  rcases cycle_cases params session now slot outcome with
    ⟨quiet,_⟩ | ⟨owned,_,_,_,⟨_,_,busy⟩ | ⟨_,_,free⟩ | ⟨_,_,direct⟩⟩
  · rw [quiet]; exact .of_rest rfl rfl
  · rw [busy]; exact .of_rest rfl rfl
  · rw [free]; exact .of_rest rfl rfl
  · rw [direct]; exact inferPass_proceeds _ _ _ _

theorem relock_flows (ran : relock session outcome continuation = done) :
    (clearing (.relocking continuation) = true ∧ done.session.bufferOverflowed = false ∧
      ending done.next = false) ∨
    (resuming (.relocking continuation) = true ∧ resuming done.next = true ∧
      done.session.bufferOverflowed = session.bufferOverflowed) ∨
    ending (.relocking continuation) = false ∧ Proceeds session.bufferOverflowed done := by
  subst ran
  cases continuation with
  | skip => exact .inr (.inr ⟨rfl,.of_rest rfl rfl⟩)
  | infer cycleEngine currentSize => exact .inr (.inr ⟨rfl,inferPass_proceeds _ _ _ _⟩)
  | resume cycleEngine currentSize result => exact .inr (.inl ⟨rfl,rfl,rfl⟩)
  | clear cycleEngine currentSize result =>
    have proceeds := accumulate_proceeds { session with bufferOverflowed := false, droppedChunks := 0 }
      cycleEngine currentSize result
    refine .inl ⟨rfl,proceeds.flag,Bool.or_eq_false_iff.mpr ⟨?_,proceeds.clearing⟩⟩
    rw [← Bool.not_eq_true]
    intro opened
    cases proceeds.resuming opened
  | finish => exact .inr (.inr ⟨rfl,.of_rest rfl rfl⟩)

theorem clearing_of_resuming (resumes : resuming flusher = true) : clearing flusher = false := by
  cases flusher with
  | relocking next => cases next <;> first | rfl | cases resumes
  | _ => rfl

theorem resuming_of_clearing (clears : clearing flusher = true) : resuming flusher = false := by
  rw [← Bool.not_eq_true]
  intro resumes
  rw [clearing_of_resuming resumes] at clears
  cases clears

theorem received_step (move : Move params s action next) (quiet : isSend action = false) :
    received next = received s := congrArg flows (sentMessages_step params move quiet)

-- What the messages depend on: the flow_control messages that the receive thread
-- has still to send and those that were sent, the flag, and how far the flush
-- thread is with its resume.
structure View where
  pending : List FlowAction
  overflowed : Bool
  resumes : Bool
  clears : Bool
  got : List FlowAction

def viewOf (s : State) : View :=
  ⟨flows (unsent s.receiver),s.session.bufferOverflowed,resuming s.flusher,clearing s.flusher,received s⟩

inductive Episode where
  | quiet
  | sends
  | resumes
  | opens
  | installs
  | begins
  | ends

inductive Turn : View → Episode → View → Prop where
  | quiet : Turn v .quiet v
  | sends (waits : v.pending = action :: rest) :
      Turn v .sends { v with pending := rest, got := v.got ++ [action] }
  | resumes (closing : v.resumes = true) :
      Turn v .resumes { v with resumes := false, clears := true, got := v.got ++ [.resume] }
  | opens (free : v.pending = []) (calm : v.overflowed = false) :
      Turn v .opens { v with pending := [.pause], overflowed := true }
  | installs (free : v.pending = []) : Turn v .installs { v with overflowed := false }
  | begins (apart : v.resumes = false ∧ v.clears = false) (overflowed : v.overflowed = true) :
      Turn v .begins { v with resumes := true }
  | ends (closing : v.clears = true) : Turn v .ends { v with clears := false, overflowed := false }

def permits (v : View) : Episode → Bool
  | .installs => !v.overflowed || v.resumes || v.clears
  | .resumes => v.pending.isEmpty
  | .opens => !(v.resumes || v.clears)
  | _ => true

def hastens (v : View) : Episode → Bool
  | .resumes => v.overflowed
  | _ => false

structure Seen (s : State) (action : Action) (next : State) (episode : Episode) : Prop where
  turn : Turn (viewOf s) episode (viewOf next)
  order : orderly s action = permits (viewOf s) episode
  early : early s action = hastens (viewOf s) episode

theorem seen_quiet (same : viewOf next = viewOf s) (order : orderly s action = true)
    (prompt : early s action = false) : Seen s action next .quiet :=
  ⟨by rw [same]; exact .quiet,order,prompt⟩

theorem seen_send (pc : s.receiver = .sending (message :: rest) after) : ∃ episode,
    Seen s .send { s with receiver := sendThen rest after, log := s.log ++ [.sent message] } episode := by
  have got : received { s with receiver := sendThen rest after, log := s.log ++ [.sent message] } =
      received s ++ flows [message] := by
    simp [received,sentMessages]
  have left : flows (unsent s.receiver) = flows [message] ++ flows rest := by
    rw [pc,← flows_append]
    rfl
  cases kind : message.flowAction? with
  | none =>
    have other : flows [message] = [] := by simp [flows,kind]
    rw [other,List.nil_append] at left
    rw [other,List.append_nil] at got
    refine ⟨_,seen_quiet ?_ rfl rfl⟩
    simp only [viewOf,got,unsent_sendThen,left]
  | some action =>
    have flow : flows [message] = [action] := by simp [flows,kind]
    rw [flow] at left got
    have after : viewOf { s with receiver := sendThen rest after, log := s.log ++ [.sent message] } =
        { viewOf s with pending := flows rest, got := (viewOf s).got ++ [action] } := by
      simp only [viewOf,got,unsent_sendThen]
    exact ⟨.sends,by rw [after]; exact .sends left,rfl,rfl⟩

theorem seen_flushSend (pc : s.flusher = .sending message continuation) (carried : carries message continuation) :
    ∃ episode, Seen s .flushSend { s with
      flusher := .relocking continuation, log := s.log ++ [.sent message] } episode := by
  have got : received { s with flusher := .relocking continuation, log := s.log ++ [.sent message] } =
      received s ++ flows [message] := by
    simp [received,sentMessages]
  have other (plain : flows [message] = [])
      (resumes : resuming (.relocking continuation) = resuming (.sending message continuation))
      (clears : clearing (.relocking continuation) = clearing (.sending message continuation)) :
      viewOf { s with flusher := .relocking continuation, log := s.log ++ [.sent message] } = viewOf s := by
    rw [plain,List.append_nil] at got
    simp only [viewOf,got,resumes,clears,pc]
  cases continuation with
  | skip => cases carried; exact ⟨_,seen_quiet (other rfl rfl rfl) (by simp [orderly,pc]) (by simp [early,pc])⟩
  | infer => cases carried; exact ⟨_,seen_quiet (other rfl rfl rfl) (by simp [orderly,pc]) (by simp [early,pc])⟩
  | resume =>
    obtain ⟨dropped,rfl⟩ := carried
    exact ⟨_,seen_quiet (other rfl rfl rfl) (by simp [orderly,pc]) (by simp [early,pc])⟩
  | finish =>
    obtain ⟨text,rfl⟩ := carried
    exact ⟨_,seen_quiet (other rfl rfl rfl) (by simp [orderly,pc]) (by simp [early,pc])⟩
  | clear cycleEngine currentSize result =>
    cases carried
    have closing : (viewOf s).resumes = true := by simp [viewOf,pc,resuming]
    have after : viewOf { s with
        flusher := .relocking (.clear cycleEngine currentSize result)
        log := s.log ++ [.sent (.flowControl .resume)] } =
          { viewOf s with resumes := false, clears := true, got := (viewOf s).got ++ [.resume] } := by
      simp only [viewOf,got]
      rfl
    exact ⟨.resumes,by rw [after]; exact .resumes closing,by simp [orderly,pc,permits,viewOf],
      by simp [early,pc,hastens,viewOf]⟩

theorem seen_proceeds (rests : ending s.flusher = false) (proceeds : Proceeds s.session.bufferOverflowed done)
    (same : viewOf next = { viewOf s with
      overflowed := done.session.bufferOverflowed, resumes := resuming done.next, clears := clearing done.next })
    (order : orderly s action = true) (prompt : early s action = false) :
    ∃ episode, Seen s action next episode := by
  obtain ⟨unresumed,unclear⟩ := Bool.or_eq_false_iff.mp rests
  cases resumes : resuming done.next with
  | false =>
    refine ⟨_,seen_quiet ?_ order prompt⟩
    rw [same,proceeds.flag,resumes,proceeds.clearing]
    simp only [viewOf,unresumed,unclear]
  | true =>
    have after : viewOf next = { viewOf s with resumes := true } := by
      rw [same,proceeds.flag,resumes,proceeds.clearing]
      simp only [viewOf,unclear]
    exact ⟨.begins,by rw [after]; exact .begins ⟨unresumed,unclear⟩ (proceeds.resuming resumes),order,prompt⟩

theorem seen_relock (pc : s.flusher = .relocking continuation)
    (ran : FlushLoop.relock s.session outcome continuation = ⟨after,flusher,events⟩)
    (move : Move params s (.relock outcome) { s with session := after, flusher, log := s.log ++ events }) :
    ∃ episode, Seen s (.relock outcome) { s with
      session := after, flusher, log := s.log ++ events } episode := by
  have got := received_step move rfl
  rcases relock_flows ran with ⟨clears,flag,rests⟩ | ⟨resumes,kept,flag⟩ | ⟨rests,proceeds⟩
  · obtain ⟨unresumed,unclear⟩ := Bool.or_eq_false_iff.mp rests
    have closing : (viewOf s).clears = true := by simp only [viewOf,pc,clears]
    have seen : viewOf { s with session := after, flusher, log := s.log ++ events } =
        { viewOf s with clears := false, overflowed := false } := by
      dsimp only at flag unresumed unclear
      simp only [viewOf,got,flag,unresumed,unclear,pc,resuming_of_clearing clears]
    exact ⟨.ends,by rw [seen]; exact .ends closing,rfl,rfl⟩
  · refine ⟨_,seen_quiet ?_ rfl rfl⟩
    dsimp only at flag kept
    simp only [viewOf,got,flag,kept,clearing_of_resuming kept,pc,resumes,clearing_of_resuming resumes]
  · refine seen_proceeds (by rw [pc]; exact rests) proceeds ?_ rfl rfl
    simp only [viewOf,got]

theorem step_seen (handshake : Handshake s)
    (window : ∀ message next, s.flusher = .sending message next → carries message next)
    (move : Move params s action next) : ∃ episode, Seen s action next episode := by
  have quiet (silent : isSend action = false)
      (receiver : flows (unsent next.receiver) = flows (unsent s.receiver))
      (flag : next.session.bufferOverflowed = s.session.bufferOverflowed)
      (resumes : resuming next.flusher = resuming s.flusher)
      (clears : clearing next.flusher = clearing s.flusher)
      (order : orderly s action = true) (prompt : early s action = false) :
      ∃ episode, Seen s action next episode := by
    refine ⟨_,seen_quiet ?_ order prompt⟩
    simp only [viewOf,receiver,flag,resumes,clears,received_step move silent]
  have moved := move
  cases move with
  | send pc => exact seen_send pc
  | flushSend pc => exact seen_flushSend pc (window _ _ pc)
  | tick => exact quiet rfl rfl rfl rfl rfl rfl rfl
  | accept pc =>
    have idle := handshake pc
    exact quiet rfl (by rw [pc]; rfl) rfl (by rw [idle]; rfl) (by rw [idle]; rfl) rfl rfl
  | text pc _ ran =>
    have handled := handleJsonMessage_flows ran
    exact quiet rfl (by rw [pc]; exact handled.1) handled.2 rfl rfl rfl rfl
  | binary pc _ ran =>
    rcases handleBinaryMessage_flows ran with ⟨calm,silent,flag⟩ | ⟨opens,pause,calm,flag⟩
    · exact quiet rfl (by rw [pc]; exact silent) flag rfl rfl (by simp [orderly,calm]) rfl
    · have free : (viewOf s).pending = [] := by simp only [viewOf,pc]; rfl
      have turn := Turn.opens free calm
      refine ⟨.opens,?_,by simp [orderly,opens,permits,viewOf,ending],rfl⟩
      simpa only [viewOf,pause,flag,received_step moved rfl] using turn
  | @close _ failed kind pc =>
    refine quiet rfl ?_ rfl rfl rfl rfl rfl
    rw [pc]
    cases kind <;> cases failed <;> rfl
  | install pc =>
    have free : (viewOf s).pending = [] := by simp only [viewOf,pc]; rfl
    refine ⟨.installs,?_,by simp [orderly,permits,viewOf,ending,Bool.or_assoc],rfl⟩
    have turn := Turn.installs free
    simp only [viewOf,received_step moved rfl,pc] at turn ⊢
    exact turn
  | cycle pc ran =>
    refine seen_proceeds (by rw [pc]; rfl) (cycle_proceeds ran) ?_ rfl rfl
    simp only [viewOf,received_step moved rfl]
  | relock pc ran => exact seen_relock pc ran moved
  | wake pc => exact quiet rfl rfl rfl (by rw [pc]; rfl) (by rw [pc]; rfl) rfl rfl
  | exit pc => exact quiet rfl rfl rfl (by rw [pc]; rfl) (by rw [pc]; rfl) rfl rfl
  | tryLockFails pc => exact quiet rfl rfl rfl (by rw [pc]; rfl) (by rw [pc]; rfl) rfl rfl
  | finalPass pc ran =>
    have handled := handleEnd_flows ran
    exact quiet rfl (by rw [pc]; exact handled.1) handled.2 rfl rfl rfl rfl
  | release pc ran => exact quiet rfl (by rw [pc]; rfl) (releaseModel_flows ran) rfl rfl rfl rfl
  | destroyRelease pc ran =>
    exact quiet rfl (by rw [pc]; rfl) (releaseModel_flows ran) rfl rfl rfl rfl
  | acceptFails pc | readFails pc | acquire pc | acquireFails pc | installFails pc | join pc
  | destroy pc | destroyJoin pc => exact quiet rfl (by rw [pc]; rfl) rfl rfl rfl rfl rfl

-- How the flag, the client's view and the messages on their way fit together.
-- A pause still to be sent belongs to an episode the client does not know of;
-- from then on the client is paused until it gets the resume, whatever the flag
-- says, and the flag is cleared last.
def balanced (waits overflowed resumes clears holds : Bool) : Bool :=
  if waits then overflowed && !holds && !clears
  else if resumes then holds
  else if clears then !holds
  else holds == overflowed

-- An episode has been opened while the flush thread closes the last one: however
-- the two go on, the client ends up paused with the flag cleared, if it does not
-- get two pauses in a row before.
def doomed (waits overflowed resumes clears holds : Bool) : Bool :=
  if resumes then waits && overflowed && holds
  else if clears then overflowed && (waits == !holds)
  else waits && !overflowed && !holds

def lags (v : View) : Bool := v.clears && v.overflowed

structure Sane (v : View) : Prop where
  pending : v.pending = [] ∨ v.pending = [.pause]
  apart : v.resumes = true → v.clears = false

structure Balanced (v : View) : Prop extends Sane v where
  alternates : Alternates v.got
  balance : balanced (!v.pending.isEmpty) v.overflowed v.resumes v.clears (paused v.got) = true

structure Doomed (v : View) : Prop extends Sane v where
  fate : doomed (!v.pending.isEmpty) v.overflowed v.resumes v.clears (paused v.got) = true

def View.Agrees (v : View) : Prop :=
  Alternates v.got ∧ (v.pending = [] → v.resumes = false → (paused v.got = true ↔ v.overflowed = true))

theorem agrees_view : Agrees s ↔ (viewOf s).Agrees := by
  simp [Agrees,View.Agrees,settled,viewOf]

section Views
variable {v w : View} {episode : Episode}

theorem alternates_turn (alternates : Alternates (v.got ++ [action])) :
    action = .resume ↔ paused v.got = true := by
  have last := (Machine.justified_append.mp alternates).2
  rwa [Machine.justified_singleton,List.append_nil] at last

theorem sane_turn (sane : Sane v) (turn : Turn v episode w) : Sane w := by
  obtain ⟨pending,apart⟩ := sane
  cases turn with
  | quiet => exact ⟨pending,apart⟩
  | sends waits =>
    refine ⟨?_,apart⟩
    rcases pending with free | pause
    · rw [free] at waits; cases waits
    · rw [pause] at waits; cases waits; exact .inl rfl
  | resumes => exact ⟨pending,nofun⟩
  | opens => exact ⟨.inr rfl,apart⟩
  | installs => exact ⟨pending,apart⟩
  | begins calm => exact ⟨pending,fun _ => calm.2⟩
  | ends => exact ⟨pending,fun _ => rfl⟩

theorem balanced_turn (before : Balanced v) (turn : Turn v episode w) (allowed : permits v episode = true) :
    Balanced w := by
  have sane := sane_turn before.toSane turn
  obtain ⟨⟨pending,apart⟩,alternates,balance⟩ := before
  cases turn with
  | quiet => exact ⟨sane,alternates,balance⟩
  | sends waits =>
    rename_i action rest
    -- Only a pause waits here, and no second one behind it.
    obtain ⟨rfl,rfl⟩ : action = .pause ∧ rest = [] := by
      rcases pending with free | pause
      · rw [free] at waits; cases waits
      · rw [pause] at waits; cases waits; exact ⟨rfl,rfl⟩
    rw [waits] at balance
    simp only [balanced,List.isEmpty_cons,Bool.not_false,if_true,Bool.and_eq_true,Bool.not_eq_true'] at balance
    obtain ⟨⟨overflowed,free⟩,unclear⟩ := balance
    refine ⟨sane,alternates_snoc alternates (by simp [free]),?_⟩
    simp [balanced,overflowed,unclear]
  | resumes closing =>
    have sent : v.pending = [] := by simpa [permits] using allowed
    have held : paused v.got = true := by simpa [balanced,sent,closing] using balance
    refine ⟨sane,alternates_snoc alternates (by simp [held]),?_⟩
    simp [balanced,sent]
  | opens free calm =>
    obtain ⟨unresumed,unclear⟩ : v.resumes = false ∧ v.clears = false := by simpa [permits] using allowed
    have lifted : paused v.got = false := by simpa [balanced,free,unresumed,unclear,calm] using balance
    exact ⟨sane,alternates,by simp [balanced,lifted,unclear]⟩
  | installs free =>
    refine ⟨sane,alternates,?_⟩
    simp only [permits,Bool.or_eq_true,Bool.not_eq_true'] at allowed
    rcases allowed with (calm | resumes) | clears
    · rwa [calm] at balance
    · simp_all [balanced]
    · cases resumes : v.resumes <;> simp_all [balanced]
  | begins calm overflowed =>
    refine ⟨sane,alternates,?_⟩
    rcases pending with free | pause
    all_goals simp_all [balanced]
  | ends closing =>
    have unresumed : v.resumes = false := by
      rw [← Bool.not_eq_true]
      intro resumes
      rw [apart resumes] at closing
      cases closing
    refine ⟨sane,alternates,?_⟩
    rcases pending with free | pause
    all_goals simp_all [balanced]

-- The client's view is the flag, except in the gap.
theorem balanced_agrees (before : Balanced v) (sent : v.pending = []) (unresumed : v.resumes = false) :
    (paused v.got = true ↔ v.overflowed = true) ↔ lags v = false := by
  have balance := before.balance
  rw [sent,unresumed] at balance
  cases clears : v.clears with
  | false =>
    have same : paused v.got = v.overflowed := by simpa [balanced,clears] using balance
    simp [same,lags,clears]
  | true =>
    have free : paused v.got = false := by simpa [balanced,clears] using balance
    simp [free,lags,clears]

theorem prompt_agrees (before : Balanced v) (prompt : lags v = false) : v.Agrees :=
  ⟨before.alternates,fun sent unresumed => (balanced_agrees before sent unresumed).mpr prompt⟩

theorem prompt_turn (prompt : lags v = false) (turn : Turn v episode w)
    (allowed : permits v episode = true) (waited : hastens v episode = false) : lags w = false := by
  cases turn with
  | quiet | sends | begins => exact prompt
  | resumes => simpa [lags,hastens] using waited
  | opens =>
    obtain ⟨_,unclear⟩ : v.resumes = false ∧ v.clears = false := by simpa [permits] using allowed
    simp [lags,unclear]
  | installs => simp [lags]
  | ends => simp [lags]

-- A step out of order is told at once, or later.
theorem unlawful_turn (before : Balanced v) (turn : Turn v episode w)
    (unlawful : permits v episode = false ∨ hastens v episode = true) : Doomed w ∨ ¬ w.Agrees := by
  have sane := sane_turn before.toSane turn
  obtain ⟨⟨pending,apart⟩,alternates,balance⟩ := before
  cases turn with
  | quiet | sends | begins | ends => rcases unlawful with refused | hasty <;> contradiction
  | resumes closing =>
    right
    rintro ⟨still,same⟩
    have held := (alternates_turn still).mp rfl
    rcases unlawful with waits | overflowed
    · have pause : v.pending = [.pause] := by
        rcases pending with free | pause
        · simp [permits,free] at waits
        · exact pause
      simp [balanced,pause,held] at balance
    · rcases pending with free | pause
      · have answered := (same free rfl).mpr overflowed
        simp at answered
      · simp [balanced,pause,held] at balance
  | opens free calm =>
    left
    have closing : v.resumes = true ∨ v.clears = true := by
      rcases unlawful with refused | hasty
      · simp only [permits,Bool.not_eq_false',Bool.or_eq_true] at refused
        exact refused
      · cases hasty
    refine ⟨sane,?_⟩
    cases resumes : v.resumes with
    | true =>
      have held : paused v.got = true := by simpa [balanced,free,resumes] using balance
      simp [doomed,held]
    | false =>
      have clears : v.clears = true := by simpa [resumes] using closing
      have lifted : paused v.got = false := by simpa [balanced,free,resumes,clears] using balance
      simp [doomed,clears,lifted]
  | installs free =>
    right
    rcases unlawful with refused | hasty
    · simp only [permits,Bool.or_eq_false_iff,Bool.not_eq_false'] at refused
      obtain ⟨⟨overflowed,unresumed⟩,unclear⟩ := refused
      have held : paused v.got = true := by simpa [balanced,free,unresumed,unclear,overflowed] using balance
      intro agrees
      have cleared := (agrees.2 free unresumed).mp held
      cases cleared
    · cases hasty

theorem doomed_turn (before : Doomed v) (turn : Turn v episode w) : Doomed w ∨ ¬ w.Agrees := by
  have sane := sane_turn before.toSane turn
  obtain ⟨⟨pending,apart⟩,fate⟩ := before
  cases turn with
  | quiet => exact .inl ⟨sane,fate⟩
  | sends waits =>
    rename_i action rest
    obtain ⟨rfl,rfl⟩ : action = .pause ∧ rest = [] := by
      rcases pending with free | pause
      · rw [free] at waits; cases waits
      · rw [pause] at waits; cases waits; exact ⟨rfl,rfl⟩
    by_cases held : paused v.got = true
    · exact .inr fun agrees => nomatch (alternates_turn agrees.1).mpr held
    · rw [waits] at fate
      have unresumed : v.resumes = false := by
        rw [← Bool.not_eq_true]
        intro resumes
        simp [doomed,resumes,held] at fate
      by_cases clears : v.clears = true
      · have overflowed : v.overflowed = true := by simpa [doomed,unresumed,clears,held] using fate
        exact .inl ⟨sane,by simp [doomed,unresumed,clears,overflowed]⟩
      · have calm : v.overflowed = false := by simpa [doomed,unresumed,clears,held] using fate
        refine .inr fun agrees => ?_
        have told := (agrees.2 rfl unresumed).mp (by simp)
        rw [show v.overflowed = true from told] at calm
        cases calm
  | resumes closing =>
    obtain ⟨⟨waits,overflowed⟩,held⟩ : ((!v.pending.isEmpty) = true ∧ v.overflowed = true) ∧ paused v.got = true := by
      simpa only [doomed,closing,if_true,Bool.and_eq_true] using fate
    exact .inl ⟨sane,by simp [doomed,waits,overflowed]⟩
  | opens free calm => simp_all [doomed]
  | installs free =>
    refine .inr fun agrees => ?_
    have unresumed : v.resumes = false := by
      rw [← Bool.not_eq_true]
      intro resumes
      simp [doomed,free,resumes] at fate
    have held : paused v.got = true := by
      cases clears : v.clears <;> simp_all [doomed]
    cases (agrees.2 free unresumed).mp held
  | begins calm overflowed => simp_all [doomed]
  | ends closing =>
    have unresumed : v.resumes = false := by
      rw [← Bool.not_eq_true]
      intro resumes
      rw [apart resumes] at closing
      cases closing
    rcases pending with free | pause
    · have held : paused v.got = true := by
        cases shown : paused v.got <;> simp_all [doomed]
      exact .inr fun agrees => nomatch (agrees.2 free unresumed).mp held
    · exact .inl ⟨sane,by simp_all [doomed]⟩

end Views

theorem window_kept (window : ∀ message continuation, s.flusher = .sending message continuation →
      carries message continuation) (move : Move params s action next) :
    ∀ message continuation, next.flusher = .sending message continuation → carries message continuation := by
  intro message continuation opened
  rcases window_step params move opened with old | new
  · exact window message continuation old
  · exact new

theorem runs_window (path : Runs params (initial now) trace s) :
    ∀ message continuation, s.flusher = .sending message continuation → carries message continuation :=
  path.invariant (I := fun s => ∀ message continuation, s.flusher = .sending message continuation →
    carries message continuation) (fun _ _ opened => by cases opened)
    (fun window one => window_kept window one.2)

theorem initial_balanced (now : Instant) : Balanced (viewOf (initial now)) :=
  ⟨⟨.inl rfl,nofun⟩,Machine.justified_nil,rfl⟩

theorem runs_balanced (path : Runs params (initial now) trace s)
    (allowed : ∀ entry ∈ trace, orderly entry.1 entry.2 = true) : Balanced (viewOf s) := by
  refine path.history (I := fun _ s => Balanced (viewOf s)) (C := fun s action => orderly s action = true) allowed (initial_balanced now) ?_
  intro past s action next prior before permitted one
  obtain ⟨episode,turn,order,_⟩ := step_seen (runs_handshake params prior) (runs_window prior) one.2
  exact balanced_turn before turn (order ▸ permitted)

theorem runs_prompt (path : Runs params (initial now) trace s)
    (allowed : ∀ entry ∈ trace, lawful entry.1 entry.2 = true) :
    Balanced (viewOf s) ∧ lags (viewOf s) = false := by
  refine path.history (I := fun _ s => Balanced (viewOf s) ∧ lags (viewOf s) = false)
    (C := fun s action => lawful s action = true) allowed
    ⟨initial_balanced now,rfl⟩ ?_
  intro past s action next prior before permitted one
  obtain ⟨episode,turn,order,early⟩ := step_seen (runs_handshake params prior) (runs_window prior) one.2
  simp only [lawful,order,early,Bool.and_eq_true,Bool.not_eq_true'] at permitted
  exact ⟨balanced_turn before.1 turn permitted.1,prompt_turn before.2 turn permitted.1 permitted.2⟩

-- As long as the two agree in every state, no step has been out of order, or the
-- run is bound for a state in which they do not.
theorem runs_lawful (path : Runs params (initial now) trace s) (visited : ∀ entry ∈ trace, Agrees entry.1)
    (agrees : Agrees s) : (∀ entry ∈ trace, lawful entry.1 entry.2 = true) ∨ Doomed (viewOf s) := by
  induction path with
  | nil => exact .inl (List.forall_mem_nil _)
  | @step trace middle action after prior one ih =>
    have earlier : ∀ entry ∈ trace, Agrees entry.1 :=
      fun entry member => visited entry (List.mem_append_left _ member)
    obtain ⟨episode,turn,order,early⟩ := step_seen (runs_handshake params prior) (runs_window prior) one.2
    rcases ih earlier (visited (middle,action) (by simp)) with kept | doomed
    · cases lawfully : lawful middle action with
      | true =>
        refine .inl fun entry present => ?_
        rcases List.mem_append.mp present with old | last
        · exact kept entry old
        · cases List.mem_singleton.mp last
          exact lawfully
      | false =>
        have unlawful : permits (viewOf middle) episode = false ∨ hastens (viewOf middle) episode = true := by
          simpa only [lawful,order,early,Bool.and_eq_false_iff,Bool.not_eq_false'] using lawfully
        have balance := runs_balanced prior fun entry member => (Bool.and_eq_true_iff.mp (kept entry member)).1
        rcases unlawful_turn balance turn unlawful with doomed | differs
        · exact .inr doomed
        · exact absurd (agrees_view.mp agrees) differs
    · rcases doomed_turn doomed turn with still | differs
      · exact .inr still
      · exact absurd (agrees_view.mp agrees) differs

-- Neither thread is under way with an episode.
def atRest (s : State) : Bool := settled s && !clearing s.flusher

-- The two agree in every state of a run whose steps are all lawful, and of no
-- other run that has come to rest. In a run that is in order but for the early
-- resumes they differ in the gap behind each of these, and nowhere else.
theorem flow_control_agrees (path : Runs params (initial now) trace s) :
    ((∀ entry ∈ trace, lawful entry.1 entry.2 = true) → Agrees s) ∧
    (atRest s = true → (((∀ entry ∈ trace, Agrees entry.1) ∧ Agrees s) ↔
      ∀ entry ∈ trace, lawful entry.1 entry.2 = true)) ∧
    ((∀ entry ∈ trace, orderly entry.1 entry.2 = true) → Alternates (received s) ∧
      (settled s = true → ((paused (received s) = true ↔ s.session.bufferOverflowed = true) ↔
        ¬ (clearing s.flusher = true ∧ s.session.bufferOverflowed = true)))) := by
  have lawfully {past : List (State × Action)} {middle : State} (prior : Runs params (initial now) past middle)
      (kept : ∀ entry ∈ past, lawful entry.1 entry.2 = true) : Agrees middle := by
    obtain ⟨balance,prompt⟩ := runs_prompt prior kept
    exact agrees_view.mpr (prompt_agrees balance prompt)
  refine ⟨lawfully path,?_,?_⟩
  · intro rest
    constructor
    · rintro ⟨visited,agrees⟩
      rcases runs_lawful path visited agrees with kept | ⟨_,fate⟩
      · exact kept
      · simp only [atRest,settled,Bool.and_eq_true,Bool.not_eq_true'] at rest
        obtain ⟨⟨sent,unresumed⟩,unclear⟩ := rest
        simp [viewOf,doomed,sent,unresumed,unclear] at fate
    · intro kept
      refine ⟨?_,lawfully path kept⟩
      intro entry present
      obtain ⟨past,_,reached,before,_⟩ := path.member present
      exact lawfully reached fun older member => kept older (before.subset member)
  · intro allowed
    have balance := runs_balanced path allowed
    refine ⟨balance.alternates,?_⟩
    intro rest
    obtain ⟨sent,unresumed⟩ : flows (unsent s.receiver) = [] ∧ resuming s.flusher = false := by
      simpa [settled] using rest
    refine (balanced_agrees balance sent unresumed).trans ?_
    simp [lags,viewOf]

def fillSchedule : List Action :=
  configSchedule ++ [.binary (frame 160000),.binary (frame 160000),.binary (frame 160000),.send]

def filledState (received : Nat) (longer : StreamingWhisperEngine) : State :=
  { configuredState with session := { configuredState.session with
      bytesReceivedInWindow := received
      lastAudioTime := 0
      engine := some ⟨0,longer⟩ } }

def pausedState (longer : StreamingWhisperEngine) : State :=
  { filledState (1280000 + 640000) longer with
    session := { (filledState (1280000 + 640000) longer).session with
      bufferOverflowed := true, droppedChunks := 1 }
    log := configuredState.log ++ [.sent (.flowControl .pause)] }

theorem filled_recent (received : Nat) (longer : StreamingWhisperEngine) :
    ((filledState received longer).clock - (filledState received longer).session.rateLimitStart).tdiv
      (seconds 1) < 3 := by
  change ((0 : Int) - 0).tdiv (seconds 1) < 3
  decide

def droppedState (longer : StreamingWhisperEngine) : State :=
  { filledState 1280000 longer with
    session := (pausedState longer).session, receiver := .sending [.flowControl .pause] .read }

theorem fill_moves : ∃ half longer, longer.getBufferSize = 320000 ∧ longer.vadGate = none ∧
    Step defaultParams configuredState (.binary (frame 160000)) (filledState 640000 half) ∧
    Step defaultParams (filledState 640000 half) (.binary (frame 160000)) (filledState 1280000 longer) ∧
    Step defaultParams (filledState 1280000 longer) (.binary (frame 160000)) (droppedState longer) ∧
    Step defaultParams (droppedState longer) .send (pausedState longer) := by
  obtain ⟨half,first,half_ungated,half_size⟩ := frame_taken defaultParams configuredState
    160000 rfl rfl rfl rfl (by decide) (by decide) (by decide) (by decide)
  replace half_size : half.getBufferSize = 160000 := half_size.trans (by decide)
  obtain ⟨longer,second,ungated,size⟩ := frame_taken defaultParams (filledState 640000 half)
    160000 rfl rfl rfl rfl (by rw [half_size]; decide) (by decide) (by decide) (filled_recent _ _)
  replace second : Move defaultParams (filledState 640000 half) (.binary (frame 160000))
    (filledState (640000 + 640000) longer) := second
  replace size : longer.getBufferSize = 320000 := by
    rw [size,half_size]
    decide
  have third : Move defaultParams (filledState 1280000 longer) (.binary (frame 160000))
      (droppedState longer) :=
    frame_dropped defaultParams (filledState 1280000 longer)
      160000 rfl rfl rfl rfl (by rw [size]; decide) (by decide) (by decide) (filled_recent _ _)
  exact ⟨half,longer,size,ungated.trans half_ungated,⟨rfl,first⟩,⟨rfl,second⟩,⟨rfl,third⟩,
    (advance_exact defaultParams).mp rfl⟩

theorem lawful_waiting (pc : s.flusher = .waiting) (data : List UInt8) :
    lawful s (.binary data) = true := by
  simp [lawful,early,orderly,ending,resuming,clearing,pc]

theorem fill_run : ∃ longer trace, trace.map Prod.snd = fillSchedule ∧
    Runs defaultParams (initial 0) trace (pausedState longer) ∧
    ∀ entry ∈ trace, lawful entry.1 entry.2 = true := by
  obtain ⟨trace,same,path,kept⟩ := runGuarded_sound defaultParams
    (show runGuarded defaultParams lawful (initial 0) configSchedule = some configuredState from rfl)
  obtain ⟨half,longer,_,_,first,second,third,fourth⟩ := fill_moves
  refine ⟨longer,_,?_,.step (.step (.step (.step path first) second) third) fourth,?_⟩
  · simp [same,fillSchedule]
  · intro entry present
    simp only [List.mem_append,List.mem_singleton] at present
    rcases present with (((old | rfl) | rfl) | rfl) | rfl
    · exact kept entry old
    · exact lawful_waiting rfl _
    · exact lawful_waiting rfl _
    · exact lawful_waiting rfl _
    · rfl

theorem flow_control_agrees_paused : ∃ trace s, Runs defaultParams (initial 0) trace s ∧
    (∀ entry ∈ trace, lawful entry.1 entry.2 = true) ∧ received s = [.pause] ∧
    settled s = true ∧ (∀ entry ∈ trace, Agrees entry.1) ∧ Agrees s := by
  obtain ⟨longer,trace,_,path,allowed⟩ := fill_run
  exact ⟨trace,pausedState longer,path,allowed,rfl,rfl,
    ((flow_control_agrees path).2.1 rfl).mpr allowed⟩

-- A second config clears the flag and tells the client nothing.
theorem config_forgets_pause : ∃ trace s, trace.map Prod.snd = fillSchedule ++
      [.text configPayload emptyView,.acquire 0,.install,.send] ∧
    Runs defaultParams (initial 0) trace s ∧ settled s = true ∧ s.flusher = .waiting ∧
    ¬ (paused (received s) = true ↔ s.session.bufferOverflowed = true) := by
  obtain ⟨longer,trace,same,path,_⟩ := fill_run
  obtain ⟨s,ran,rest,waits,flag,got⟩ : ∃ s, run defaultParams (pausedState longer)
      [.text configPayload emptyView,.acquire 0,.install,.send] = some s ∧ settled s = true ∧
      s.flusher = .waiting ∧ s.session.bufferOverflowed = false ∧ received s = [.pause] :=
    ⟨_,rfl,rfl,rfl,rfl,rfl⟩
  obtain ⟨more,actions,later⟩ := run_sound defaultParams ran
  refine ⟨trace ++ more,s,by rw [List.map_append,same,actions],path.append later,rest,waits,?_⟩
  simp [got,flag,paused]

end JotaTranscriber.FlowControl

import JotaTranscriber.FlowControl

namespace JotaTranscriber.DropAccounting
open SessionMachine StreamingSession FlushLoop
open FlowControl (admitted ending resuming clearing handleBinaryMessage_chunk pausedState filledState
  droppedState fill_moves)

-- A frame whose chunk the engine refuses.
def drops (session : StreamingSession) (now : Instant) (data : List UInt8) : Bool :=
  admitted session now data && decide (session.bufferSize ≥ StreamingWhisperEngine.highWaterMark)

-- The largest number in the buffer_full warnings among some messages, and the
-- one that flushLoop is about to report.
def warned : List ServerMessage → Nat
  | [] => 0
  | .bufferFull dropped :: rest => max dropped (warned rest)
  | _ :: rest => warned rest

def tail : Flusher → Nat
  | .sending (.bufferFull dropped) _ => dropped
  | _ => 0

-- What a run does to the account of dropped chunks. An episode has ended when
-- flushLoop, its resume sent, clears buffer_overflowed_.
inductive Mark where
  | configured
  | dropped
  | reported (chunks : Nat)
  | resumed
  | ended
  deriving DecidableEq

def mark (s : State) : Action → Option Mark
  | .install => some .configured
  | .binary data => if drops s.session s.clock data then some .dropped else none
  | .send =>
    match s.receiver with
    | .sending (.bufferFull dropped :: _) _ => some (.reported dropped)
    | _ => none
  | .flushSend =>
    match s.flusher with
    | .sending (.bufferFull dropped) _ => some (.reported dropped)
    | .sending (.flowControl .resume) _ => some .resumed
    | _ => none
  | .relock _ => if clearing s.flusher then some .ended else none
  | _ => none

def marks (trace : List (State × Action)) : List Mark :=
  trace.filterMap fun entry => mark entry.1 entry.2

-- The chunks dropped in some stretch of a run, and the largest number reported
-- in it.
structure Since where
  dropped : Nat
  reported : Nat
  deriving DecidableEq

-- Since the last config: the chunks dropped and those that the episodes
-- reported, what belongs to the time between the last two resumes, and what came
-- after the last one.
structure Account where
  totalDropped : Nat
  totalReported : Nat
  closing : Since
  current : Since
  deriving DecidableEq

def Account.episode (account : Account) : Since :=
  ⟨account.closing.dropped + account.current.dropped,
    max account.closing.reported account.current.reported⟩

def Account.note (account : Account) : Mark → Account
  | .configured => ⟨0,0,⟨0,0⟩,⟨0,0⟩⟩
  | .dropped => { account with
      totalDropped := account.totalDropped + 1
      current := { account.current with dropped := account.current.dropped + 1 } }
  | .reported chunks => { account with
      current := { account.current with reported := max account.current.reported chunks } }
  | .resumed => { account with closing := account.current, current := ⟨0,0⟩ }
  | .ended => { account with totalReported := account.totalReported + account.episode.reported }

def accountOf : List Mark → Account := List.foldl Account.note ⟨0,0,⟨0,0⟩,⟨0,0⟩⟩

@[simp] theorem accountOf_snoc (earlier : List Mark) (mark : Mark) :
    accountOf (earlier ++ [mark]) = (accountOf earlier).note mark := List.foldl_concat ..

-- What the two threads would have to keep to: in the windows of an ending
-- episode a chunk is dropped only if the periodic warning counts it, resume does
-- not overtake a warning, and no config takes effect before the last report of
-- an episode is out.
def reports (s : State) : Action → Bool
  | .binary data => !ending s.flusher || !drops s.session s.clock data ||
    resuming s.flusher && decide ((s.session.droppedChunks + 1) % warningIntervalChunks = 0)
  | .flushSend =>
    match s.flusher with
    | .sending (.flowControl .resume) _ => decide (warned (unsent s.receiver) = 0)
    | _ => true
  | .install => decide (tail s.flusher = 0)
  | _ => true

theorem warned_other (other : ∀ message ∈ messages, ∀ dropped, message ≠ .bufferFull dropped) :
    warned messages = 0 := by
  induction messages with
  | nil => rfl
  | cons message rest ih =>
    have later := ih (fun found present => other found (List.mem_cons_of_mem _ present))
    cases message with
    | bufferFull dropped => exact absurd rfl (other _ List.mem_cons_self dropped)
    | _ => exact later

theorem handleBinaryMessage_drops
    (ran : handleBinaryMessage params session now data = (after,next)) :
    (drops session now data = false ∧ after.droppedChunks = session.droppedChunks ∧
      warned (unsent next) = 0) ∨
    drops session now data = true ∧ after.droppedChunks = session.droppedChunks + 1 ∧
      warned (unsent next) = if (session.droppedChunks + 1) % warningIntervalChunks = 0 then
        session.droppedChunks + 1 else 0 := by
  obtain ⟨received,start,⟨ignored,rfl,answers⟩ | ⟨accepted,owned,present,⟨full,rfl,answers⟩ |
    ⟨room,rfl,answers⟩⟩⟩ := handleBinaryMessage_chunk ran
  · refine .inl ⟨?_,rfl,warned_other ?_⟩
    · rcases ignored with refused | missing
      · simp [drops,refused]
      · simp [drops,bufferSize,missing,StreamingWhisperEngine.highWaterMark]
    · intro message found dropped same
      rw [same] at found
      cases List.mem_singleton.mp (answers found)
  · refine .inr ⟨by simp [drops,accepted,full],rfl,?_⟩
    rw [answers]
    by_cases tenth : (session.droppedChunks + 1) % warningIntervalChunks = 0
    · cases session.bufferOverflowed <;> simp [tenth,warned]
    · cases session.bufferOverflowed <;> simp [tenth,warned]
  · exact .inl ⟨by simp [drops,Nat.not_le_of_lt room],rfl,by rw [answers]; rfl⟩

-- A stretch of flushLoop that is not the end of an episode may begin one: it
-- keeps the counter and is about to report it, unless it is a multiple of ten.
structure Begins (session : StreamingSession) (done : Flushed) : Prop where
  counter : done.session.droppedChunks = session.droppedChunks
  clearing : clearing done.next = false
  covered : ending done.next = true →
    max (session.droppedChunks / warningIntervalChunks * warningIntervalChunks) (tail done.next) =
      session.droppedChunks

theorem Begins.of_rest (counter : done.session.droppedChunks = session.droppedChunks)
    (rests : ending done.next = false) : Begins session done := by
  refine ⟨counter,(Bool.or_eq_false_iff.mp rests).2,?_⟩
  rw [rests]
  exact fun impossible => by cases impossible

theorem accumulate_rests (session : StreamingSession) (cycleEngine currentSize : Nat)
    (result : TranscribeResult) :
    ending (accumulate session cycleEngine currentSize result).next = false := by
  rcases accumulate_next session cycleEngine currentSize result with waits | ⟨faults,_⟩ | sends
  · rw [waits]; rfl
  · rw [faults]; rfl
  · rw [sends]; rfl

theorem afterPass_begins (session : StreamingSession) (owned : OwnedEngine)
    (cycleEngine currentSize : Nat) (result : TranscribeResult) :
    Begins session (afterPass session owned cycleEngine currentSize result) := by
  have accumulates := accumulate_rests session cycleEngine currentSize result
  unfold afterPass
  split
  · split
    · split
      · rename_i untold
        refine ⟨rfl,rfl,fun _ => ?_⟩
        have below := Nat.div_mul_le_self session.droppedChunks warningIntervalChunks
        exact Nat.max_eq_right below
      · rename_i told
        refine ⟨rfl,rfl,fun _ => ?_⟩
        have whole : session.droppedChunks % warningIntervalChunks = 0 := by simpa using told
        rw [Nat.div_mul_cancel (Nat.dvd_of_mod_eq_zero whole)]
        exact Nat.max_eq_left (Nat.zero_le _)
    · exact .of_rest rfl accumulates
  · exact .of_rest rfl accumulates

theorem inferPass_begins (session : StreamingSession) (cycleEngine currentSize : Nat)
    (outcome : Outcome) : Begins session (inferPass session cycleEngine currentSize outcome) := by
  rcases inferPass_cases session cycleEngine currentSize outcome with
    ⟨_,faults⟩ | ⟨owned,used,_,⟨_,_,fails⟩ | ⟨result,_,passed⟩⟩
  · rw [faults]; exact .of_rest rfl rfl
  · rw [fails]; exact .of_rest rfl rfl
  · rw [passed]
    obtain ⟨counter,unclear,covered⟩ := afterPass_begins { session with engine := some ⟨owned.id,used⟩ }
      ⟨owned.id,used⟩ cycleEngine currentSize result
    exact ⟨counter,unclear,covered⟩

theorem cycle_begins (ran : cycle params session now slot outcome = done) : Begins session done := by
  subst ran
  obtain ⟨idle,frame⟩ := watchdog_frame params session now
  have same : (watchdog params session now).droppedChunks = session.droppedChunks := by rw [frame]
  rcases cycle_cases params session now slot outcome with
    ⟨quiet,_⟩ | ⟨owned,_,_,_,⟨_,_,busy⟩ | ⟨_,_,free⟩ | ⟨_,_,direct⟩⟩
  · rw [quiet]; exact .of_rest same rfl
  · rw [busy]; exact .of_rest same rfl
  · rw [free]; exact .of_rest same rfl
  · rw [direct]
    obtain ⟨counter,unclear,covered⟩ := inferPass_begins (watchdog params session now) owned.id
      owned.engine.getBufferSize outcome
    rw [same] at covered
    exact ⟨counter.trans same,unclear,covered⟩

-- The largest number reported, on its way to the client or about to be reported
-- accounts for all chunks dropped once an episode is being closed, and before
-- that for the full tens of them.
def Covered (dropped reported pending : Nat) (flusher : Flusher) : Prop :=
  if ending flusher then max (max reported pending) (tail flusher) = dropped
  else max reported pending = dropped / warningIntervalChunks * warningIntervalChunks

theorem Covered.rest (rests : ending flusher = false) :
    Covered dropped reported pending flusher ↔
      max reported pending = dropped / warningIntervalChunks * warningIntervalChunks := by
  simp [Covered,rests]

theorem Covered.closing (ends : ending flusher = true) :
    Covered dropped reported pending flusher ↔
      max (max reported pending) (tail flusher) = dropped := by
  simp [Covered,ends]

structure Accounted (account : Account) (s : State) : Prop where
  window : ∀ message next, s.flusher = .sending message next → carries message next
  total : account.totalDropped = account.totalReported +
    if clearing s.flusher then account.closing.dropped else account.current.dropped
  closed : clearing s.flusher = true → account.current = ⟨0,0⟩ ∧
    account.closing.reported = account.closing.dropped ∧ warned (unsent s.receiver) = 0
  counted : clearing s.flusher = false → account.current.dropped = s.session.droppedChunks ∧
    Covered s.session.droppedChunks account.current.reported (warned (unsent s.receiver)) s.flusher

theorem initial_accounted (now : Instant) : Accounted (accountOf []) (initial now) where
  window := fun _ _ found => by cases found
  total := rfl
  closed := fun found => by cases found
  counted := fun _ => ⟨rfl,(Covered.rest rfl).mpr (by simp [accountOf,initial,create,unsent,warned])⟩

-- A step that leaves the account, the counter and what is on its way alone.
theorem kept_accounted (valid : Accounted account s) (move : Move params s action next)
    (counter : next.session.droppedChunks = s.session.droppedChunks)
    (pending : warned (unsent next.receiver) = warned (unsent s.receiver))
    (flusher : next.flusher = s.flusher ∨ ending s.flusher = false ∧ ending next.flusher = false) :
    Accounted account next := by
  have clears : clearing next.flusher = clearing s.flusher := by
    rcases flusher with stays | ⟨rested,rests⟩
    · rw [stays]
    · rw [(Bool.or_eq_false_iff.mp rested).2,(Bool.or_eq_false_iff.mp rests).2]
  refine ⟨?_,?_,?_,?_⟩
  · intro message continuation opened
    rcases window_step params move opened with old | carried
    · exact valid.window message continuation old
    · exact carried
  · rw [clears]; exact valid.total
  · rw [clears,pending]; exact valid.closed
  · rw [clears,counter,pending]
    intro unclear
    obtain ⟨dropped,covered⟩ := valid.counted unclear
    refine ⟨dropped,?_⟩
    rcases flusher with stays | ⟨rested,rests⟩
    · rw [stays]; exact covered
    · exact (Covered.rest rests).mpr ((Covered.rest rested).mp covered)

def Account.after (account : Account) (s : State) (action : Action) : Account :=
  match mark s action with
  | none => account
  | some noted => account.note noted

theorem send_accounted (valid : Accounted account s) (pc : s.receiver = .sending (message :: rest) after)
    (move : Move params s .send
      { s with receiver := sendThen rest after, log := s.log ++ [.sent message] }) :
    Accounted (account.after s .send)
      { s with receiver := sendThen rest after, log := s.log ++ [.sent message] } := by
  have left : unsent s.receiver = message :: rest := by rw [pc]; rfl
  cases message with
  | bufferFull chunks =>
    have told : account.after s .send = account.note (.reported chunks) := by
      simp [Account.after,mark,pc]
    rw [told]
    obtain ⟨window,total,closed,counted⟩ := valid
    rw [left] at closed counted
    refine ⟨window,total,?_,?_⟩
    · intro clears
      obtain ⟨nothing,settled,none_left⟩ := closed clears
      obtain ⟨none_told,none_behind⟩ := Nat.max_eq_zero_iff.mp (show max chunks (warned rest) = 0 from none_left)
      rw [unsent_sendThen,none_behind]
      exact ⟨by simp [Account.note,nothing,none_told],settled,rfl⟩
    · intro unclear
      obtain ⟨dropped,covered⟩ := counted unclear
      refine ⟨dropped,?_⟩
      have regroup : max (max account.current.reported chunks) (warned rest) =
          max account.current.reported (warned (.bufferFull chunks :: rest)) := Nat.max_assoc ..
      rw [unsent_sendThen]
      simpa only [Covered,Account.note,regroup] using covered
  | _ =>
    have untold : account.after s .send = account := by simp [Account.after,mark,pc]
    rw [untold]
    exact kept_accounted valid move rfl (by rw [unsent_sendThen,left]; rfl) (.inl rfl)

theorem flushSend_accounted (valid : Accounted account s) (pc : s.flusher = .sending message continuation)
    (allowed : reports s .flushSend = true)
    (move : Move params s .flushSend
      { s with flusher := .relocking continuation, log := s.log ++ [.sent message] }) :
    Accounted (account.after s .flushSend)
      { s with flusher := .relocking continuation, log := s.log ++ [.sent message] } := by
  have carried := valid.window _ _ pc
  have unopened : ∀ found next, Flusher.relocking continuation = .sending found next → carries found next :=
    fun _ _ impossible => by cases impossible
  cases continuation with
  | resume cycleEngine currentSize result =>
    obtain ⟨chunks,rfl⟩ := carried
    have told : account.after s .flushSend = account.note (.reported chunks) := by
      simp [Account.after,mark,pc]
    obtain ⟨_,total,_,counted⟩ := valid
    rw [told]
    rw [pc] at total counted
    obtain ⟨dropped,covered⟩ := counted rfl
    refine ⟨unopened,total,(fun impossible => by cases impossible),fun _ => ⟨dropped,?_⟩⟩
    rw [Covered.closing rfl] at covered ⊢
    simp only [Account.note,tail] at covered ⊢
    omega
  | clear cycleEngine currentSize result =>
    cases show message = .flowControl .resume from carried
    have told : account.after s .flushSend = account.note .resumed := by
      simp [Account.after,mark,pc]
    have none_left : warned (unsent s.receiver) = 0 := by simpa [reports,pc] using allowed
    obtain ⟨_,total,_,counted⟩ := valid
    rw [told]
    rw [pc] at total counted
    obtain ⟨dropped,covered⟩ := counted rfl
    rw [Covered.closing rfl,none_left] at covered
    refine ⟨unopened,total,fun _ => ⟨rfl,?_,none_left⟩,fun impossible => by cases impossible⟩
    show account.current.reported = account.current.dropped
    rw [dropped,← covered]
    simp [tail]
  | skip | infer =>
    cases show message = _ from carried
    have untold : account.after s .flushSend = account := by simp [Account.after,mark,pc]
    rw [untold]
    exact kept_accounted valid move rfl rfl (.inr ⟨by rw [pc]; rfl,rfl⟩)
  | finish =>
    obtain ⟨text,rfl⟩ := carried
    have untold : account.after s .flushSend = account := by simp [Account.after,mark,pc]
    rw [untold]
    exact kept_accounted valid move rfl rfl (.inr ⟨by rw [pc]; rfl,rfl⟩)

theorem begins_accounted (valid : Accounted account s) (rested : ending s.flusher = false)
    (begins : Begins s.session done)
    (window : ∀ message next, done.next = .sending message next → carries message next) :
    Accounted account
      { s with session := done.session, flusher := done.next, log := s.log ++ done.events } := by
  obtain ⟨_,total,_,counted⟩ := valid
  have unclear := (Bool.or_eq_false_iff.mp rested).2
  obtain ⟨dropped,covered⟩ := counted unclear
  rw [unclear] at total
  refine ⟨window,?_,?_,?_⟩
  · rw [begins.clearing]; exact total
  · intro clears
    rw [begins.clearing] at clears; cases clears
  · intro _
    rw [begins.counter]
    refine ⟨dropped,?_⟩
    rw [Covered.rest rested] at covered
    cases ends : ending done.next with
    | true =>
      rw [Covered.closing ends,covered]
      exact begins.covered ends
    | false => rw [Covered.rest ends,covered]

-- When an episode ends, what was reported in it is what was dropped in it, and
-- so it is over all episodes of the configuration.
def Balanced (account : Account) : Prop :=
  account.episode.reported = account.episode.dropped ∧
    (account.note .ended).totalReported = account.totalDropped

theorem balanced_of_clearing (valid : Accounted account s) (clears : clearing s.flusher = true) :
    Balanced account := by
  obtain ⟨nothing,settled,_⟩ := valid.closed clears
  have total := valid.total
  rw [clears] at total
  refine ⟨?_,?_⟩
  · simp [Account.episode,nothing,settled]
  · simp only [Account.note,Account.episode,nothing,settled,Nat.max_zero]
    exact total.symm

theorem relock_accounted (valid : Accounted account s) (pc : s.flusher = .relocking continuation)
    (ran : relock s.session outcome continuation = ⟨after,next,events⟩) :
    Accounted (account.after s (.relock outcome))
      { s with session := after, flusher := next, log := s.log ++ events } := by
  have window : ∀ message continuation, next = .sending message continuation →
      carries message continuation := by
    rintro message continuation rfl
    exact (relock_regular ran).next
  have untold (unclear : clearing s.flusher = false) : account.after s (.relock outcome) = account := by
    simp [Account.after,mark,unclear]
  cases continuation with
  | skip | finish =>
    cases ran
    rw [untold (by rw [pc]; rfl)]
    exact begins_accounted valid (by rw [pc]; rfl) (.of_rest rfl rfl : Begins s.session ⟨_,_,[]⟩) window
  | infer cycleEngine currentSize =>
    rw [untold (by rw [pc]; rfl)]
    have begins := inferPass_begins s.session cycleEngine currentSize outcome
    rw [show inferPass s.session cycleEngine currentSize outcome = _ from ran] at begins
    exact begins_accounted valid (by rw [pc]; rfl) begins window
  | resume cycleEngine currentSize result =>
    cases ran
    rw [untold (by rw [pc]; rfl)]
    obtain ⟨_,total,_,counted⟩ := valid
    rw [pc] at total counted
    obtain ⟨dropped,covered⟩ := counted rfl
    refine ⟨window,total,(fun impossible => by cases impossible),fun _ => ⟨dropped,?_⟩⟩
    rw [Covered.closing rfl] at covered ⊢
    exact covered
  | clear cycleEngine currentSize result =>
    have clears : clearing s.flusher = true := by rw [pc]; rfl
    have told : account.after s (.relock outcome) = account.note .ended := by
      simp [Account.after,mark,clears]
    obtain ⟨nothing,_,none_left⟩ := valid.closed clears
    obtain ⟨_,total⟩ := balanced_of_clearing valid clears
    have rests : ending next = false := by
      rw [show next = _ from (congrArg Flushed.next ran).symm]
      exact accumulate_rests _ cycleEngine currentSize result
    have unclear := (Bool.or_eq_false_iff.mp rests).2
    have counter : after.droppedChunks = 0 := by
      rw [show after = _ from (congrArg Flushed.session ran).symm]
      rfl
    rw [told]
    refine ⟨window,?_,?_,?_⟩
    · rw [unclear,total]
      simp [Account.note,nothing]
    · intro impossible
      rw [unclear] at impossible; cases impossible
    · intro _
      dsimp only
      rw [counter,none_left]
      refine ⟨by simp [Account.note,nothing],(Covered.rest rests).mpr ?_⟩
      simp [Account.note,nothing]

theorem next_covered
    (covered : max reported 0 = dropped / warningIntervalChunks * warningIntervalChunks) :
    max reported (if (dropped + 1) % warningIntervalChunks = 0 then dropped + 1 else 0) =
      (dropped + 1) / warningIntervalChunks * warningIntervalChunks := by
  split
  · rename_i tenth
    simp only [warningIntervalChunks] at covered tenth ⊢
    omega
  · rename_i between
    simp only [warningIntervalChunks] at covered between ⊢
    omega

theorem binary_accounted (valid : Accounted account s) (pc : s.receiver = .reading)
    (allowed : reports s (.binary data) = true)
    (ran : handleBinaryMessage params s.session s.clock data = (after,next)) :
    Accounted (account.after s (.binary data)) { s with session := after, receiver := next } := by
  have none_left : warned (unsent s.receiver) = 0 := by rw [pc]; rfl
  obtain ⟨window,total,closed,counted⟩ := valid
  rw [none_left] at counted
  rcases handleBinaryMessage_drops ran with ⟨kept,counter,pending⟩ | ⟨dropped,counter,pending⟩
  · have untold : account.after s (.binary data) = account := by simp [Account.after,mark,kept]
    rw [untold]
    refine ⟨window,total,?_,?_⟩
    · intro clears
      obtain ⟨nothing,settled,_⟩ := closed clears
      exact ⟨nothing,settled,pending⟩
    · dsimp only
      rw [counter,pending]
      exact counted
  · have told : account.after s (.binary data) = account.note .dropped := by
      simp [Account.after,mark,dropped]
    have moment : ending s.flusher = false ∨ resuming s.flusher = true ∧
        (s.session.droppedChunks + 1) % warningIntervalChunks = 0 := by
      simpa [reports,dropped] using allowed
    have unclear : clearing s.flusher = false := by
      rcases moment with rests | ⟨resumes,_⟩
      · exact (Bool.or_eq_false_iff.mp rests).2
      · exact FlowControl.clearing_of_resuming resumes
    obtain ⟨same,covered⟩ := counted unclear
    rw [unclear] at total
    rw [told]
    refine ⟨window,?_,?_,?_⟩
    · simp only [Account.note,unclear,Bool.false_eq_true,if_false] at total ⊢
      omega
    · intro impossible
      rw [show clearing s.flusher = true from impossible] at unclear; cases unclear
    · intro _
      dsimp only
      rw [counter,pending]
      refine ⟨by simp [Account.note,same],?_⟩
      rcases moment with rests | ⟨resumes,tenth⟩
      · rw [Covered.rest rests] at covered ⊢
        exact next_covered covered
      · have ends : ending s.flusher = true := by simp [ending,resumes]
        rw [Covered.closing ends] at covered ⊢
        rw [if_pos tenth]
        simp only [Account.note]
        omega

theorem install_accounted (valid : Accounted account s) (allowed : reports s .install = true)
    (message : ServerMessage) (plain : ∀ dropped, message ≠ .bufferFull dropped) :
    Accounted (account.after s .install) { s with
      session := StreamingSession.install params s.session s.clock s.nextEngine
      receiver := .sending [message] .read
      nextEngine := s.nextEngine + 1
      log := s.log ++ [.configured s.nextEngine] } := by
  have told : account.after s .install = ⟨0,0,⟨0,0⟩,⟨0,0⟩⟩ := rfl
  have untold : tail s.flusher = 0 := by simpa [reports] using allowed
  have none_left : warned [message] = 0 :=
    warned_other (fun found present => by rw [List.mem_singleton.mp present]; exact plain)
  rw [told]
  refine ⟨valid.window,?_,?_,?_⟩
  · dsimp only
    split <;> rfl
  · exact fun _ => ⟨rfl,rfl,none_left⟩
  · intro _
    refine ⟨rfl,?_⟩
    show Covered 0 0 (warned [message]) s.flusher
    rw [none_left]
    simp [Covered,untold]

theorem warned_step (move : Move params s action next) (silent : action ≠ .send)
    (deaf : ∀ data, action ≠ .binary data) :
    warned (unsent next.receiver) = warned (unsent s.receiver) := by
  cases move with
  | send => exact absurd rfl silent
  | binary => exact absurd rfl (deaf _)
  | text pc live ran =>
    rw [pc]
    refine warned_other (fun message present dropped same => ?_)
    rcases handleJsonMessage_cases ran with ⟨_,refusal⟩ | ⟨_,_,rfl,_⟩ | ⟨_,rfl,_⟩ | ⟨_,rfl⟩
    · obtain ⟨_,_,rfl⟩ := unsent_refusal refusal present
      cases same
    all_goals cases present
  | close pc =>
    rw [pc]
    refine warned_other (fun message present dropped same => ?_)
    obtain ⟨_,_,rfl⟩ := unsent_afterClose _ _ present
    cases same
  | finalPass pc ran =>
    rw [pc]
    rcases handleEnd_cases ran with ⟨_,rfl,_⟩ | ⟨_,_,_,_,_,_,rfl⟩
    · rfl
    · rfl
  | tick | wake | exit | tryLockFails | cycle | flushSend | relock => rfl
  | accept pc | acceptFails pc | readFails pc | acquire pc | acquireFails pc | install pc
  | installFails pc | join pc | release pc | destroy pc | destroyJoin pc | destroyRelease pc =>
    rw [pc]
    rfl

theorem accounted_preserved (start : Handshake s) (valid : Accounted account s)
    (allowed : reports s action = true) (move : Move params s action next) :
    Accounted (account.after s action) next := by
  have pending := warned_step move
  have kept := kept_accounted valid move
  cases move with
  | send pc => exact send_accounted valid pc (.send pc : Move params s .send _)
  | flushSend pc => exact flushSend_accounted valid pc allowed (.flushSend pc : Move params s .flushSend _)
  | binary pc live ran => exact binary_accounted valid pc allowed ran
  | install pc => exact install_accounted valid allowed _ (fun _ impossible => by cases impossible)
  | relock pc ran => exact relock_accounted valid pc ran
  | cycle pc ran =>
    refine begins_accounted valid (by rw [pc]; rfl) (cycle_begins ran) ?_
    rintro message continuation rfl
    exact (cycle_regular ran).next
  | text pc live ran =>
    refine kept ?_ (pending (fun same => by cases same) (fun _ same => by cases same)) (.inl rfl)
    rcases handleJsonMessage_cases ran with ⟨rfl,_⟩ | ⟨_,rfl,_⟩ | ⟨rfl,_⟩ | ⟨rfl,_⟩ <;> rfl
  | finalPass pc ran =>
    refine kept ?_ (pending (fun same => by cases same) (fun _ same => by cases same)) (.inl rfl)
    rcases handleEnd_cases ran with ⟨_,_,_,_,_,_,_,_,rfl⟩ | ⟨_,_,_,_,_,rfl,_⟩ <;> rfl
  | release pc ran | destroyRelease pc ran =>
    refine kept ?_ (pending (fun same => by cases same) (fun _ same => by cases same)) (.inl rfl)
    rcases releaseModel_cases ran with ⟨_,_,rfl⟩ | ⟨_,_,rfl⟩ <;> rfl
  | accept pc =>
    exact kept rfl (pending (fun same => by cases same) (fun _ same => by cases same))
      (.inr ⟨by rw [start pc]; rfl,rfl⟩)
  | wake pc | exit pc | tryLockFails pc =>
    exact kept rfl (pending (fun same => by cases same) (fun _ same => by cases same))
      (.inr ⟨by rw [pc]; rfl,rfl⟩)
  | _ =>
    exact kept rfl (pending (fun same => by cases same) (fun _ same => by cases same)) (.inl rfl)

theorem marks_snoc (trace : List (State × Action)) (s : State) (action : Action) :
    marks (trace ++ [(s,action)]) = marks trace ++ (mark s action).toList := by
  simp only [marks,List.filterMap_append]
  cases noted : mark s action <;> simp [noted]

theorem accountOf_marks (trace : List (State × Action)) (s : State) (action : Action) :
    accountOf (marks (trace ++ [(s,action)])) = (accountOf (marks trace)).after s action := by
  rw [marks_snoc,Account.after]
  cases mark s action with
  | none => simp
  | some noted => simp

theorem mark_ended (noted : mark s action = some .ended) : clearing s.flusher = true := by
  cases action with
  | relock outcome =>
    simp only [mark] at noted
    split at noted
    · assumption
    · cases noted
  | binary data | send | flushSend =>
    simp only [mark] at noted
    split at noted <;> cases noted
  | _ => cases noted

def Closed (noted : List Mark) : Prop :=
  Machine.Justified (fun before mark => mark = .ended → Balanced (accountOf before)) noted

theorem runs_accounted (path : Runs params (initial now) trace s)
    (allowed : ∀ entry ∈ trace, reports entry.1 entry.2 = true) :
    Accounted (accountOf (marks trace)) s ∧ Closed (marks trace) := by
  refine path.history (I := fun past s => Accounted (accountOf (marks past)) s ∧ Closed (marks past))
    (C := fun s action => reports s action = true) allowed
    ⟨initial_accounted now,Machine.justified_nil⟩ ?_
  rintro past t action next prior ⟨valid,closed⟩ permitted one
  rw [accountOf_marks]
  refine ⟨accounted_preserved (runs_handshake params prior) valid permitted one.2,?_⟩
  rw [marks_snoc]
  refine Machine.justified_append.mpr ⟨closed,?_⟩
  cases noted : mark t action with
  | none => exact Machine.justified_nil
  | some found =>
    refine Machine.justified_singleton.mpr ?_
    rw [List.append_nil]
    rintro rfl
    exact balanced_of_clearing valid (mark_ended noted)

theorem drops_accounted (path : Runs params (initial now) trace s)
    (allowed : ∀ entry ∈ trace, reports entry.1 entry.2 = true)
    (position : marks trace = before ++ .ended :: after) :
    (accountOf before).episode.reported = (accountOf before).episode.dropped ∧
    (accountOf (before ++ [.ended])).totalReported = (accountOf (before ++ [.ended])).totalDropped := by
  obtain ⟨episode,total⟩ := (runs_accounted path allowed).2 before .ended after position rfl
  refine ⟨episode,?_⟩
  rw [accountOf_snoc]
  exact total

-- A pass over the full buffer that commits eleven seconds of it.
def draining : Outcome := ⟨⟨true,some []⟩,.decoded [⟨some (bytes "hola"),1100⟩] none⟩

theorem pass_draining (longer : StreamingWhisperEngine) (size : longer.getBufferSize = 320000)
    (ungated : longer.vadGate = none) :
    ∃ used, longer.transcribeSlidingWindow false draining = (used,.ok ⟨[],bytes "hola"⟩) ∧
      used.getBufferSize = 144000 := by
  have decided : StreamingWhisperEngine.commit none false longer.getBufferSize longer.getBufferSize
      [⟨some (bytes "hola"),1100⟩] = (⟨[],bytes "hola"⟩,.front 176000) := by
    rw [size]
    decide
  replace size : longer.audioBuffer.length = 320000 := size
  have cut : (Erase.front 176000).apply longer.audioBuffer = longer.audioBuffer.drop 176000 :=
    if_pos (by omega)
  refine ⟨_,StreamingWhisperEngine.transcribeSlidingWindow_ungated ungated ?_ rfl decided,?_⟩
  · rw [StreamingWhisperEngine.getBufferSize,size]
    decide
  · simp [StreamingWhisperEngine.getBufferSize,cut,size]

-- The window in which the last report of the episode is on its way.
def closingState (used : StreamingWhisperEngine) : State :=
  { pausedState used with
    flusher := .sending (.bufferFull 1) (.resume 0 320000 ⟨[],bytes "hola"⟩)
    log := (pausedState used).log ++
      [.dereferenced 0 (some 0),.pass ⟨[],bytes "hola"⟩,.dereferenced 0 (some 0)] }

theorem pass_closes (longer : StreamingWhisperEngine) (size : longer.getBufferSize = 320000)
    (ungated : longer.vadGate = none) : ∃ used, used.getBufferSize = 144000 ∧
      Step defaultParams { pausedState longer with flusher := .awake } (.cycle true draining)
        (closingState used) := by
  obtain ⟨used,passed,left⟩ := pass_draining longer size ungated
  have due : triggered defaultParams (pausedState longer).session longer.getBufferSize 0 = true := by
    rw [size]
    rfl
  have ran : cycle defaultParams (pausedState longer).session 0 true draining =
      ⟨(closingState used).session,(closingState used).flusher,
        [.dereferenced 0 (some 0),.pass ⟨[],bytes "hola"⟩,.dereferenced 0 (some 0)]⟩ := by
    unfold cycle
    change (if !triggered defaultParams (pausedState longer).session longer.getBufferSize 0
      then _ else _) = _
    rw [due]
    have drained : used.getBufferSize < lowWaterMark := by rw [left]; decide
    change inferPass (pausedState longer).session 0 longer.getBufferSize draining = _
    simp [inferPass,pausedState,passed,afterPass,drained,size,closingState,Flushed.after,
      warningIntervalChunks,filledState]
  exact ⟨used,left,rfl,.cycle rfl ran⟩

theorem mark_binary (one : Step params s (.binary data) next) :
    mark s (.binary data) =
      if next.session.droppedChunks = s.session.droppedChunks then none else some .dropped := by
  cases one.2 with
  | binary pc live ran =>
    rcases handleBinaryMessage_drops ran with ⟨kept,counter,_⟩ | ⟨dropped,counter,_⟩
    · simp [mark,kept,counter]
    · simp [mark,dropped,counter]

theorem reports_waiting (pc : s.flusher = .waiting) (data : List UInt8) :
    reports s (.binary data) = true := by
  simp [reports,ending,resuming,clearing,pc]

def closingSchedule : List Action := FlowControl.fillSchedule ++ [.wake,.cycle true draining]

theorem closing_run : ∃ used trace, used.getBufferSize = 144000 ∧
    trace.map Prod.snd = closingSchedule ∧ Runs defaultParams (initial 0) trace (closingState used) ∧
    (∀ entry ∈ trace, reports entry.1 entry.2 = true) ∧ marks trace = [.configured,.dropped] := by
  obtain ⟨same,path,kept⟩ := runGuarded_visited defaultParams
    (show runGuarded defaultParams reports (initial 0) configSchedule = some configuredState from rfl)
  have opened : marks (visited defaultParams (initial 0) configSchedule) = [.configured] := rfl
  obtain ⟨half,longer,size,ungated,first,second,third,fourth⟩ := fill_moves
  obtain ⟨used,left,sixth⟩ := pass_closes longer size ungated
  have fifth : Step defaultParams (pausedState longer) .wake { pausedState longer with flusher := .awake } :=
    ⟨rfl,.wake rfl rfl⟩
  refine ⟨used,_,left,?_,.step (.step (.step (.step (.step (.step path first) second) third) fourth) fifth) sixth,
    ?_,?_⟩
  · simp [same,closingSchedule,FlowControl.fillSchedule]
  · intro entry present
    simp only [List.mem_append,List.mem_singleton] at present
    rcases present with (((((old | rfl) | rfl) | rfl) | rfl) | rfl) | rfl
    · exact kept entry old
    · exact reports_waiting rfl _
    · exact reports_waiting rfl _
    · exact reports_waiting rfl _
    all_goals rfl
  · simp only [marks_snoc,opened,mark_binary first,mark_binary second,mark_binary third]
    rfl

def finishSchedule : List Action := [.flushSend,.relock silence,.flushSend,.relock silence]

theorem drops_accounted_one_dropped : ∃ trace s, Runs defaultParams (initial 0) trace s ∧
    (∀ entry ∈ trace, reports entry.1 entry.2 = true) ∧
    marks trace = [.configured,.dropped,.reported 1,.resumed] ++ [.ended] ∧
    (accountOf [.configured,.dropped,.reported 1,.resumed]).episode.reported =
      (accountOf [.configured,.dropped,.reported 1,.resumed]).episode.dropped := by
  obtain ⟨used,trace,_,_,path,kept,noted⟩ := closing_run
  obtain ⟨s,ran⟩ : ∃ s, runGuarded defaultParams reports (closingState used) finishSchedule = some s :=
    ⟨_,rfl⟩
  obtain ⟨_,last,met⟩ := runGuarded_visited defaultParams ran
  have whole : marks (trace ++ visited defaultParams (closingState used) finishSchedule) =
      [.configured,.dropped,.reported 1,.resumed] ++ [.ended] := by
    rw [marks,List.filterMap_append,← marks,noted]
    rfl
  have allowed : ∀ entry ∈ trace ++ visited defaultParams (closingState used) finishSchedule,
      reports entry.1 entry.2 = true := by
    intro entry present
    rcases List.mem_append.mp present with old | new
    · exact kept entry old
    · exact met entry new
  exact ⟨_,s,path.append last,allowed,whole,(drops_accounted (path.append last) allowed whole).1⟩

-- Two frames fill the drained buffer again while the last report is on its way,
-- and the third is counted only to be forgotten.
def refilledState (received : Nat) (longer : StreamingWhisperEngine) : State :=
  { closingState longer with session := { (closingState longer).session with
      bytesReceivedInWindow := received, lastAudioTime := 0 } }

theorem drop_in_window_unreported : ∃ trace s before,
    trace.map Prod.snd = closingSchedule ++ [.binary (frame 160000),.binary (frame 160000),
      .binary (frame 160000)] ++ finishSchedule ∧
    Runs defaultParams (initial 0) trace s ∧ marks trace = before ++ [.ended] ∧
    (accountOf before).episode.dropped = 2 ∧ (accountOf before).episode.reported = 1 := by
  obtain ⟨used,trace,size,same,path,_,noted⟩ := closing_run
  obtain ⟨half,first,_,half_size⟩ := frame_taken defaultParams (closingState used)
    160000 rfl rfl rfl rfl (by rw [size]; decide) (by decide) (by decide) (FlowControl.filled_recent 0 used)
  replace half_size : half.getBufferSize = 304000 := by
    rw [half_size,size]
    decide
  replace first : Step defaultParams (closingState used) (.binary (frame 160000))
    (refilledState (1280000 + 640000 + 640000) half) := ⟨rfl,first⟩
  obtain ⟨longer,second,_,full⟩ := frame_taken defaultParams (refilledState (1280000 + 640000 + 640000) half)
    160000 rfl rfl rfl rfl (by rw [half_size]; decide) (by decide) (by decide)
    (FlowControl.filled_recent 0 used)
  replace full : longer.getBufferSize = 464000 := by
    rw [full,half_size]
    decide
  replace second : Step defaultParams (refilledState (1280000 + 640000 + 640000) half)
    (.binary (frame 160000)) (refilledState (1280000 + 640000 + 640000 + 640000) longer) := ⟨rfl,second⟩
  let lost : State := { refilledState (1280000 + 640000 + 640000 + 640000 + 640000) longer with
    session := { (refilledState (1280000 + 640000 + 640000 + 640000 + 640000) longer).session with
      droppedChunks := 2 } }
  have third : Step defaultParams (refilledState (1280000 + 640000 + 640000 + 640000) longer)
      (.binary (frame 160000)) lost :=
    ⟨rfl,frame_dropped defaultParams (refilledState (1280000 + 640000 + 640000 + 640000) longer)
      160000 rfl rfl rfl rfl (by rw [full]; decide) (by decide) (by decide)
      (FlowControl.filled_recent 0 used)⟩
  obtain ⟨s,ran⟩ : ∃ s, runGuarded defaultParams (fun _ _ => true) lost finishSchedule = some s := ⟨_,rfl⟩
  obtain ⟨actions,last,_⟩ := runGuarded_visited defaultParams ran
  refine ⟨_,s,[.configured,.dropped,.dropped,.reported 1,.resumed],?_,
    (Machine.Runs.step (.step (.step path first) second) third).append last,?_,rfl,rfl⟩
  · simp [same,actions]
  · have before : marks (trace ++ [(closingState used,.binary (frame 160000))] ++
        [(refilledState (1280000 + 640000 + 640000) half,.binary (frame 160000))] ++
        [(refilledState (1280000 + 640000 + 640000 + 640000) longer,.binary (frame 160000))]) =
        [.configured,.dropped,.dropped] := by
      simp only [marks_snoc,noted,mark_binary first,mark_binary second,mark_binary third]
      rfl
    rw [marks,List.filterMap_append,← marks,before]
    rfl

end JotaTranscriber.DropAccounting

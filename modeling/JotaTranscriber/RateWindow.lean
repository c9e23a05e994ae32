import JotaTranscriber.SessionRuns

-- The binary rate limit, over a whole session.
namespace JotaTranscriber.RateWindow
open SessionMachine StreamingSession

variable {params : SessionParams} {now start : Instant} {trace past : List (State × Action)}
  {s after : State} {action : Action} {data : List UInt8}

-- A frame that only the rate limit can still stop.
def admitted (session : StreamingSession) (data : List UInt8) : Bool :=
  session.configured && 4 ≤ data.length && data.length ≤ maxFrameBytes && data.length % 4 = 0

-- "Rate limit exceeded".
def refused (params : SessionParams) : State × Action → Bool
  | (s,.binary data) => admitted s.session data &&
      (handleBinaryMessage params s.session s.clock data).2 = .closing .policy
  | _ => false

def arrival : State × Action → Option (Instant × Nat)
  | (s,.binary data) => if admitted s.session data then some (s.clock,data.length) else none
  | _ => none

def arrivals (trace : List (State × Action)) : List (Instant × Nat) := trace.filterMap arrival

def chunks (params : SessionParams) (trace : List (State × Action)) : List (Instant × Nat) :=
  trace.filterMap fun entry => if refused params entry then none else arrival entry

def total : List (Instant × Nat) → Nat
  | [] => 0
  | frame :: frames => frame.2 + total frames

def handed (params : SessionParams) (start : Instant) (trace : List (State × Action)) : Nat :=
  total ((chunks params trace).filter fun frame => start ≤ frame.1 && frame.1 < start + seconds 3)

def received (start : Instant) (trace : List (State × Action)) : Nat :=
  total ((arrivals trace).filter fun frame => start ≤ frame.1)

def averageBytes : Nat := 204800

-- Never more than 600 KB in the first three seconds of a window, and a session
-- is closed only for more than 200 KB/s since its window began.
structure Enforced (params : SessionParams) (now : Instant) (trace : List (State × Action)) : Prop where
  bounded : ∀ past s, past <+: trace → Runs params (initial now) past s →
    handed params s.session.rateLimitStart past ≤ maxBytesPerWindow
  exceeded : ∀ past s data, past ++ [(s,.binary data)] <+: trace → refused params (s,.binary data) = true →
    averageBytes * (s.clock - s.session.rateLimitStart) <
      (received s.session.rateLimitStart past + data.length) * seconds 1

-- The frames of one window, by their times: the first to come three seconds or
-- more after the start of a window opens the next.
structure Window where
  start : Instant
  opening : Nat
  inside : Nat

namespace Window

def bytes (window : Window) : Nat := window.opening + window.inside

def holds (window : Window) (frame : Instant × Nat) : Bool := frame.1 < window.start + seconds 3

def next (window : Window) (frame : Instant × Nat) : Window :=
  if window.holds frame then { window with inside := window.inside + frame.2 }
  else ⟨frame.1,frame.2,0⟩

-- A window takes 600 KB with its opening frame counted. The frame behind it
-- keeps to 600 KB with the others, or to the average rate it does not.
def paced (window : Window) (frame : Instant × Nat) : Bool :=
  if window.holds frame then window.bytes + frame.2 ≤ maxBytesPerWindow
  else window.inside + frame.2 ≤ maxBytesPerWindow ||
    averageBytes * (frame.1 - window.start) < (window.bytes + frame.2 : Nat) * seconds 1

end Window

def Paced (window : Window) : List (Instant × Nat) → Prop
  | [] => True
  | frame :: frames => window.paced frame = true ∧ Paced (window.next frame) frames

theorem paced_snoc {window : Window} {frames : List (Instant × Nat)} {frame : Instant × Nat} :
    Paced window (frames ++ [frame]) ↔
      Paced window frames ∧ (frames.foldl Window.next window).paced frame = true := by
  induction frames generalizing window with
  | nil => simp [Paced]
  | cons head rest ih => simp only [List.cons_append,Paced,List.foldl_cons,ih,and_assoc]

def current (now : Instant) (trace : List (State × Action)) : Window :=
  (arrivals trace).foldl Window.next ⟨now,0,0⟩

theorem arrivals_snoc (past : List (State × Action)) (entry : State × Action) :
    arrivals (past ++ [entry]) = arrivals past ++ (arrival entry).toList := by
  rw [arrivals,List.filterMap_append]
  cases came : arrival entry <;> simp [arrivals,came]

theorem total_append (frames more : List (Instant × Nat)) :
    total (frames ++ more) = total frames + total more := by
  induction frames with
  | nil => exact (Nat.zero_add _).symm
  | cons frame rest ih => simp only [List.cons_append,total,ih,Nat.add_assoc]

theorem received_snoc (start : Instant) (past : List (State × Action)) (entry : State × Action) :
    received start (past ++ [entry]) = received start past +
      total ((arrival entry).toList.filter fun frame => start ≤ frame.1) := by
  rw [received,arrivals_snoc,List.filter_append,total_append,received]

theorem handed_snoc (params : SessionParams) (start : Instant) (past : List (State × Action))
    (entry : State × Action) : handed params start (past ++ [entry]) = handed params start past +
      if refused params entry then 0 else
        total ((arrival entry).toList.filter fun frame =>
          start ≤ frame.1 && frame.1 < start + seconds 3) := by
  rw [handed,chunks,List.filterMap_append,List.filter_append,total_append,handed,chunks]
  cases stopped : refused params entry with
  | true => simp [stopped,total]
  | false => cases came : arrival entry <;> simp [stopped,came]

theorem elapsed_iff (clock start : Instant) :
    (clock - start).tdiv (seconds 1) ≥ 3 ↔ ¬ clock < start + seconds 3 := by
  simp only [Instant] at *
  have unit : seconds 1 = 1000000000 := rfl
  have three : seconds 3 = 3000000000 := rfl
  rcases Int.le_total start clock with later | earlier
  · rw [Int.tdiv_eq_ediv_of_nonneg (Int.sub_nonneg_of_le later),unit,three]
    omega
  · have negative : (clock - start).tdiv (seconds 1) ≤ 0 :=
      Int.tdiv_le_tdiv (by decide) (Int.sub_nonpos_of_le earlier)
    rw [three]
    omega

theorem handled_unadmitted (params : SessionParams) (session : StreamingSession) (clock : Instant)
    (barred : admitted session data = false) :
    (handleBinaryMessage params session clock data).1 = session := by
  unfold handleBinaryMessage
  split
  · rfl
  split
  · rfl
  split
  · rfl
  split
  · rfl
  · simp_all [admitted]

theorem processAudioChunk_counters (session : StreamingSession) (clock : Instant) (audio : List Sample) :
    (session.processAudioChunk clock audio).1.rateLimitStart = session.rateLimitStart ∧
      (session.processAudioChunk clock audio).1.bytesReceivedInWindow = session.bytesReceivedInWindow := by
  rcases session.processAudioChunk_cases clock audio with
    ⟨_,unchanged⟩ | ⟨_,_,_,⟨_,dropped⟩ | ⟨_,taken⟩⟩
  · rw [unchanged]; exact ⟨rfl,rfl⟩
  · rw [dropped]; exact ⟨rfl,rfl⟩
  · rw [taken]; exact ⟨rfl,rfl⟩

theorem sendThen_open (messages : List ServerMessage) (kind : CloseKind) :
    sendThen messages .read ≠ .closing kind := by
  rcases sendThen_cases messages .read with ⟨_,⟨_,same⟩ | ⟨_,impossible,_⟩⟩ | ⟨_,same⟩
  · rw [same]; exact fun impossible => by cases impossible
  · cases impossible
  · rw [same]; exact fun impossible => by cases impossible

-- What handleBinaryMessage does with the counters: for three seconds it only
-- counts, then it starts again or closes the session.
theorem handled_cases {session counted : StreamingSession} {clock : Instant} {receiver : Receiver}
    (valid : admitted session data = true)
    (ran : handleBinaryMessage params session clock data = (counted,receiver)) :
    (clock < session.rateLimitStart + seconds 3 ∧ receiver ≠ .closing .policy ∧
      counted.rateLimitStart = session.rateLimitStart ∧
      counted.bytesReceivedInWindow = session.bytesReceivedInWindow + data.length) ∨
    (¬ clock < session.rateLimitStart + seconds 3 ∧
      session.bytesReceivedInWindow + data.length ≤ maxBytesPerWindow ∧ receiver ≠ .closing .policy ∧
      counted.rateLimitStart = clock ∧ counted.bytesReceivedInWindow = 0) ∨
    ¬ clock < session.rateLimitStart + seconds 3 ∧
      maxBytesPerWindow < session.bytesReceivedInWindow + data.length ∧ receiver = .closing .policy ∧
      counted.rateLimitStart = session.rateLimitStart := by
  simp only [admitted,Bool.and_eq_true,decide_eq_true_eq] at valid
  obtain ⟨⟨⟨ready,long⟩,short⟩,aligned⟩ := valid
  simp only [handleBinaryMessage,ready,Bool.not_true,Bool.false_eq_true,if_false,
    if_neg (Nat.not_lt_of_le short),if_neg (Nat.not_lt_of_le long),aligned,ne_eq,not_true,
    elapsed_iff] at ran
  by_cases inside : clock < session.rateLimitStart + seconds 3
  · simp only [inside,not_true,false_and,if_false] at ran
    cases ran
    exact .inl ⟨inside,sendThen_open _ _,processAudioChunk_counters _ _ _⟩
  by_cases exceeds : maxBytesPerWindow < session.bytesReceivedInWindow + data.length
  · rw [if_pos ⟨inside,exceeds⟩] at ran
    cases ran
    exact .inr (.inr ⟨inside,exceeds,rfl,rfl⟩)
  · rw [if_neg fun both => exceeds both.2,if_pos inside] at ran
    cases ran
    exact .inr (.inl ⟨inside,Nat.le_of_not_lt exceeds,sendThen_open _ _,
      processAudioChunk_counters _ _ _⟩)

theorem counters_step (move : Move params s action after) (other : arrival (s,action) = none) :
    after.session.rateLimitStart = s.session.rateLimitStart ∧
      after.session.bytesReceivedInWindow = s.session.bytesReceivedInWindow := by
  by_cases receives : receives action = true
  · cases move with
    | text pc live ran =>
      rcases handleJsonMessage_cases ran with ⟨rfl,_⟩ | ⟨_,rfl,_⟩ | ⟨rfl,_⟩ | ⟨rfl,_⟩
      all_goals exact ⟨rfl,rfl⟩
    | binary pc live ran =>
      rename_i payload session receiver
      have barred : admitted s.session payload = false := by simpa [arrival] using other
      have same := handled_unadmitted params s.session s.clock barred
      rw [ran] at same
      dsimp only at same
      rw [same]
      exact ⟨rfl,rfl⟩
    | install => exact ⟨rfl,rfl⟩
    | _ => cases receives
  · have kept := received_step params move (Bool.not_eq_true _ ▸ receives)
    exact ⟨kept.rateLimitStart,kept.bytesReceivedInWindow⟩

def shut (s : State) : Prop := s.receiver = .closing .policy ∨ s.closeCalled = true

theorem shut_preserved (before : shut s) (move : Move params s action after) : shut after := by
  rcases before with closing | called
  · cases move with
    | close => exact .inr rfl
    | tick | wake | exit | tryLockFails | cycle | flushSend | relock => exact .inl closing
    | destroyJoin pc | accept pc | acceptFails pc | text pc | binary pc | readFails pc | send pc
    | acquire pc | acquireFails pc | install pc | installFails pc | join pc | finalPass pc | release pc
    | destroy pc | destroyRelease pc => rw [pc] at closing; cases closing
  · cases move with
    | close => exact .inr rfl
    | _ => exact .inr called

theorem clock_step (move : Move params s action after) : s.clock ≤ after.clock := by
  cases move with
  | tick => exact Int.le_add_of_nonneg_right (Int.natCast_nonneg _)
  | _ => exact Int.le_refl _

-- Until the session is shut, the window that the frames' times make is the one
-- of the session's own counters.
structure Tracked (params : SessionParams) (now : Instant) (trace : List (State × Action)) (s : State) :
    Prop where
  started : (current now trace).start = s.session.rateLimitStart
  counted : (current now trace).inside = s.session.bytesReceivedInWindow
  handed : handed params s.session.rateLimitStart trace = (current now trace).bytes
  received : received s.session.rateLimitStart trace = (current now trace).bytes
  inside : ∀ frame ∈ arrivals trace, frame.1 < s.session.rateLimitStart + seconds 3
  clock : s.session.rateLimitStart ≤ s.clock

section Tracking
variable {frame : Instant × Nat}

theorem chunks_arrive (present : frame ∈ chunks params trace) : frame ∈ arrivals trace := by
  obtain ⟨entry,member,came⟩ := List.mem_filterMap.mp present
  split at came
  · cases came
  · exact List.mem_filterMap.mpr ⟨entry,member,came⟩

theorem arrival_binary (came : arrival (s,action) = some frame) :
    ∃ data, action = .binary data ∧ admitted s.session data = true ∧ frame = (s.clock,data.length) := by
  cases action with
  | binary data =>
    simp only [arrival,Option.ite_none_right_eq_some,Option.some.injEq] at came
    exact ⟨data,rfl,came.1,came.2.symm⟩
  | _ => cases came

theorem refused_arrives (stopped : refused params (s,action) = true) :
    ∃ frame, arrival (s,action) = some frame := by
  cases action with
  | binary data =>
    simp only [refused,Bool.and_eq_true] at stopped
    exact ⟨_,if_pos stopped.1⟩
  | _ => cases stopped

theorem received_fresh (tracked : Tracked params now trace s)
    (late : s.session.rateLimitStart + seconds 3 ≤ start) : received start trace = 0 := by
  have none_left : (arrivals trace).filter (fun frame => start ≤ frame.1) = [] := by
    rw [List.filter_eq_nil_iff]
    intro frame present
    have early := tracked.inside frame present
    simp only [Instant,decide_eq_true_eq] at *
    omega
  rw [received,none_left]
  rfl

theorem handed_fresh (tracked : Tracked params now trace s)
    (late : s.session.rateLimitStart + seconds 3 ≤ start) : handed params start trace = 0 := by
  have none_left : (chunks params trace).filter
      (fun frame => start ≤ frame.1 && frame.1 < start + seconds 3) = [] := by
    rw [List.filter_eq_nil_iff]
    intro frame present
    have early := tracked.inside frame (chunks_arrive present)
    simp only [Instant,Bool.and_eq_true,decide_eq_true_eq] at *
    omega
  rw [handed,none_left]
  rfl

theorem arrivals_other (trace : List (State × Action)) (other : arrival (s,action) = none) :
    arrivals (trace ++ [(s,action)]) = arrivals trace := by
  simp [arrivals_snoc,other]

theorem handed_other (params : SessionParams) (start : Instant) (trace : List (State × Action))
    (other : arrival (s,action) = none) :
    handed params start (trace ++ [(s,action)]) = handed params start trace := by
  simp [handed_snoc,other,total]

theorem received_other (start : Instant) (trace : List (State × Action))
    (other : arrival (s,action) = none) :
    received start (trace ++ [(s,action)]) = received start trace := by
  simp [received_snoc,other,total]

theorem current_snoc (came : arrival (s,action) = some frame) :
    current now (trace ++ [(s,action)]) = (current now trace).next frame := by
  simp [current,arrivals_snoc,came]

theorem tracked_initial (now : Instant) : Tracked params now [] (initial now) :=
  ⟨rfl,rfl,rfl,rfl,List.forall_mem_nil _,Int.le_refl _⟩

theorem refused_iff {counted : StreamingSession} {receiver : Receiver}
    (valid : admitted s.session data = true)
    (ran : handleBinaryMessage params s.session s.clock data = (counted,receiver)) :
    refused params (s,.binary data) = true ↔ receiver = .closing .policy := by
  simp [refused,valid,ran]

theorem received_arrival (came : arrival (s,action) = some frame) (later : start ≤ frame.1) :
    received start (trace ++ [(s,action)]) = received start trace + frame.2 := by
  simp [received_snoc,came,later,total]

theorem handed_arrival (came : arrival (s,action) = some frame) (taken : refused params (s,action) = false)
    (later : start ≤ frame.1) (inside : frame.1 < start + seconds 3) :
    handed params start (trace ++ [(s,action)]) = handed params start trace + frame.2 := by
  simp [handed_snoc,came,taken,later,inside,total]

theorem next_inside {window : Window} (frame : Instant × Nat) (inside : frame.1 < window.start + seconds 3) :
    window.next frame = { window with inside := window.inside + frame.2 } := by
  simp [Window.next,Window.holds,inside]

theorem next_behind {window : Window} (frame : Instant × Nat) (behind : ¬ frame.1 < window.start + seconds 3) :
    window.next frame = ⟨frame.1,frame.2,0⟩ := by
  simp [Window.next,Window.holds,behind]

theorem tracked_other (tracked : Tracked params now trace s) (move : Move params s action after)
    (other : arrival (s,action) = none) : Tracked params now (trace ++ [(s,action)]) after := by
  obtain ⟨sameStart,sameBytes⟩ := counters_step move other
  have sameCurrent : current now (trace ++ [(s,action)]) = current now trace := by
    rw [current,arrivals_other trace other,current]
  constructor
  · rw [sameCurrent,sameStart]; exact tracked.started
  · rw [sameCurrent,sameBytes]; exact tracked.counted
  · rw [sameCurrent,sameStart,handed_other params _ trace other]; exact tracked.handed
  · rw [sameCurrent,sameStart,received_other _ trace other]; exact tracked.received
  · rw [arrivals_other trace other,sameStart]; exact tracked.inside
  · rw [sameStart]; exact Int.le_trans tracked.clock (clock_step move)

theorem early_taken (valid : admitted s.session data = true)
    (inside : s.clock < s.session.rateLimitStart + seconds 3) :
    refused params (s,.binary data) = false := by
  rcases ran : handleBinaryMessage params s.session s.clock data with ⟨counted,receiver⟩
  rcases handled_cases valid ran with ⟨_,taken,_⟩ | ⟨behind,_⟩ | ⟨behind,_⟩
  · exact Bool.eq_false_iff.mpr (mt (refused_iff valid ran).mp taken)
  · exact absurd inside behind
  · exact absurd inside behind

theorem late_refused (valid : admitted s.session data = true)
    (behind : ¬ s.clock < s.session.rateLimitStart + seconds 3)
    (large : maxBytesPerWindow < s.session.bytesReceivedInWindow + data.length) :
    refused params (s,.binary data) = true := by
  rcases ran : handleBinaryMessage params s.session s.clock data with ⟨counted,receiver⟩
  rcases handled_cases valid ran with ⟨inside,_⟩ | ⟨_,small,_⟩ | ⟨_,_,closes,_⟩
  · exact absurd inside behind
  · exact absurd small (Nat.not_le_of_lt large)
  · exact (refused_iff valid ran).mpr closes

-- What one frame does to a session in step with its window: counted inside the
-- window, the first of the next one, or too much.
theorem binary_cases (tracked : Tracked params now trace s) (valid : admitted s.session data = true)
    (move : Move params s (.binary data) after) :
    (s.clock < s.session.rateLimitStart + seconds 3 ∧ refused params (s,.binary data) = false ∧
      after.session.rateLimitStart = s.session.rateLimitStart ∧
      after.session.bytesReceivedInWindow = s.session.bytesReceivedInWindow + data.length ∧
      handed params s.session.rateLimitStart (trace ++ [(s,.binary data)]) =
        (current now trace).bytes + data.length ∧
      received s.session.rateLimitStart (trace ++ [(s,.binary data)]) =
        (current now trace).bytes + data.length) ∨
    (¬ s.clock < s.session.rateLimitStart + seconds 3 ∧
      s.session.bytesReceivedInWindow + data.length ≤ maxBytesPerWindow ∧
      refused params (s,.binary data) = false ∧
      after.session.rateLimitStart = s.clock ∧ after.session.bytesReceivedInWindow = 0 ∧
      handed params s.clock (trace ++ [(s,.binary data)]) = data.length ∧
      received s.clock (trace ++ [(s,.binary data)]) = data.length) ∨
    ¬ s.clock < s.session.rateLimitStart + seconds 3 ∧
      maxBytesPerWindow < s.session.bytesReceivedInWindow + data.length ∧
      refused params (s,.binary data) = true ∧ after.receiver = .closing .policy ∧
      after.session.rateLimitStart = s.session.rateLimitStart := by
  have came : arrival (s,.binary data) = some (s.clock,data.length) := if_pos valid
  cases move with
  | binary pc live ran =>
    have stops := refused_iff valid ran
    rcases handled_cases valid ran with
      ⟨inside,taken,start,bytes⟩ | ⟨behind,small,taken,start,bytes⟩ | ⟨behind,large,closes,start⟩
    · have calm := Bool.eq_false_iff.mpr (mt stops.mp taken)
      refine .inl ⟨inside,calm,start,bytes,?_,?_⟩
      · rw [handed_arrival came calm tracked.clock inside,tracked.handed]
      · rw [received_arrival came tracked.clock,tracked.received]
    · have calm := Bool.eq_false_iff.mpr (mt stops.mp taken)
      have late := Int.not_lt.mp behind
      have ahead : s.clock < s.clock + seconds 3 := Int.lt_add_of_pos_right _ (by decide)
      refine .inr (.inl ⟨behind,small,calm,start,bytes,?_,?_⟩)
      · rw [handed_arrival came calm (Int.le_refl _) ahead,handed_fresh tracked late,Nat.zero_add]
      · rw [received_arrival came (Int.le_refl _),received_fresh tracked late,Nat.zero_add]
    · exact .inr (.inr ⟨behind,large,stops.mpr closes,closes,start⟩)

theorem tracked_next {window : Window} (came : arrival (s,action) = some frame)
    (led : (current now trace).next frame = window)
    (started : after.session.rateLimitStart = window.start)
    (counted : after.session.bytesReceivedInWindow = window.inside)
    (taken : handed params window.start (trace ++ [(s,action)]) = window.bytes)
    (all : received window.start (trace ++ [(s,action)]) = window.bytes)
    (older : ∀ frame ∈ arrivals trace, frame.1 < window.start + seconds 3)
    (newest : frame.1 < window.start + seconds 3) (clock : window.start ≤ after.clock) :
    Tracked params now (trace ++ [(s,action)]) after := by
  have follows : current now (trace ++ [(s,action)]) = window := (current_snoc came).trans led
  constructor
  · rw [follows,started]
  · rw [follows,counted]
  · rw [follows,started,taken]
  · rw [follows,started,all]
  · rw [started,arrivals_snoc,came]
    intro found present
    rcases List.mem_append.mp present with old | last
    · exact older found old
    · cases List.mem_singleton.mp last
      exact newest
  · rw [started]
    exact clock

theorem tracked_binary (tracked : Tracked params now trace s) (valid : admitted s.session data = true)
    (move : Move params s (.binary data) after) :
    Tracked params now (trace ++ [(s,.binary data)]) after ∨ shut after := by
  have came : arrival (s,.binary data) = some (s.clock,data.length) := if_pos valid
  rcases binary_cases tracked valid move with
    ⟨inside,_,start,bytes,taken,all⟩ | ⟨behind,_,_,start,bytes,taken,all⟩ | ⟨_,_,_,closes,_⟩
  · have grown := next_inside (s.clock,data.length) (tracked.started.symm ▸ inside)
    rw [tracked.started,tracked.counted] at grown
    rw [Window.bytes,tracked.counted,Nat.add_assoc] at taken all
    exact .inl (tracked_next came grown start bytes taken all tracked.inside inside
      (Int.le_trans tracked.clock (clock_step move)))
  · have opened := next_behind (s.clock,data.length) (tracked.started.symm ▸ behind)
    have ahead : s.clock < s.clock + seconds 3 := Int.lt_add_of_pos_right _ (by decide)
    have older : ∀ frame ∈ arrivals trace, frame.1 < s.clock + seconds 3 := by
      intro frame present
      exact Int.lt_of_lt_of_le (tracked.inside frame present)
        (Int.le_trans (Int.not_lt.mp behind) (Int.le_of_lt ahead))
    exact .inl (tracked_next came opened start bytes taken all older ahead (clock_step move))
  · exact .inr (.inl closes)

theorem runs_tracked (path : Runs params (initial now) trace s) : Tracked params now trace s ∨ shut s :=
  path.history (I := fun trace s => Tracked params now trace s ∨ shut s) (C := fun _ _ => True)
    (fun _ _ => trivial) (.inl (tracked_initial now))
    (fun {past s action after} _ before _ one => by
      rcases before with tracked | shuts
      · cases came : arrival (s,action) with
        | none => exact .inl (tracked_other tracked one.2 came)
        | some frame =>
          obtain ⟨data,rfl,valid,_⟩ := arrival_binary came
          exact tracked_binary tracked valid one.2
      · exact .inr (shut_preserved shuts one.2))

theorem tracked_arrival (path : Runs params (initial now) trace s) (move : Move params s action after)
    (came : arrival (s,action) = some frame) : Tracked params now trace s := by
  obtain ⟨data,rfl,_,_⟩ := arrival_binary came
  cases move with
  | binary pc live ran =>
    rcases runs_tracked path with tracked | closing | called
    · exact tracked
    · rw [pc] at closing; cases closing
    · rw [live] at called; cases called

def Allowed (params : SessionParams) (trace : List (State × Action)) (s : State) (action : Action)
    (after : State) : Prop :=
  handed params after.session.rateLimitStart (trace ++ [(s,action)]) ≤ maxBytesPerWindow ∧
  ∀ data, action = .binary data → refused params (s,.binary data) = true →
    averageBytes * (s.clock - s.session.rateLimitStart) <
      (received s.session.rateLimitStart trace + data.length) * seconds 1

theorem enforced_snoc (path : Runs params (initial now) trace s) (one : Step params s action after) :
    Enforced params now (trace ++ [(s,action)]) ↔
      Enforced params now trace ∧ Allowed params trace s action after := by
  constructor
  · intro enforced
    refine ⟨⟨?_,?_⟩,?_,?_⟩
    · intro past found earlier
      exact enforced.bounded past found (earlier.trans (List.prefix_append _ _))
    · intro past found data earlier
      exact enforced.exceeded past found data (earlier.trans (List.prefix_append _ _))
    · exact enforced.bounded _ _ (List.prefix_refl _) (.step path one)
    · rintro data rfl
      exact enforced.exceeded trace s data (List.prefix_refl _)
  · rintro ⟨enforced,bounded,exceeded⟩
    constructor
    · intro past found earlier reached
      rcases List.prefix_concat_iff.mp earlier with rfl | before
      · rw [runs_deterministic params reached (.step path one)]
        exact bounded
      · exact enforced.bounded past found before reached
    · intro past found data earlier stopped
      rcases List.prefix_concat_iff.mp earlier with same | before
      · obtain ⟨rfl,last⟩ := List.append_inj' same rfl
        cases last
        exact exceeded data rfl stopped
      · exact enforced.exceeded past found data before stopped

theorem allowed_other (tracked : handed params s.session.rateLimitStart trace ≤ maxBytesPerWindow)
    (move : Move params s action after) (other : arrival (s,action) = none) :
    Allowed params trace s action after := by
  refine ⟨?_,?_⟩
  · rw [(counters_step move other).1,handed_other params _ trace other]
    exact tracked
  · rintro data rfl stopped
    obtain ⟨frame,came⟩ := refused_arrives stopped
    cases other.symm.trans came

theorem paced_inside {window : Window} (inside : frame.1 < window.start + seconds 3) :
    window.paced frame = true ↔ window.bytes + frame.2 ≤ maxBytesPerWindow := by
  simp [Window.paced,Window.holds,inside]

theorem paced_behind {window : Window} (behind : ¬ frame.1 < window.start + seconds 3) :
    window.paced frame = true ↔ window.inside + frame.2 ≤ maxBytesPerWindow ∨
      averageBytes * (frame.1 - window.start) < (window.bytes + frame.2 : Nat) * seconds 1 := by
  simp [Window.paced,Window.holds,behind]

theorem allowed_binary (tracked : Tracked params now trace s)
    (bounded : handed params s.session.rateLimitStart trace ≤ maxBytesPerWindow)
    (valid : admitted s.session data = true) (move : Move params s (.binary data) after) :
    Allowed params trace s (.binary data) after ↔
      (current now trace).paced (s.clock,data.length) = true := by
  have unrefused (calm : refused params (s,.binary data) = false) (found : List UInt8)
      (same : Action.binary data = .binary found) : refused params (s,.binary found) ≠ true := by
    cases same
    rw [calm]
    exact Bool.false_ne_true
  rcases binary_cases tracked valid move with
    ⟨inside,calm,start,_,handed,_⟩ | ⟨behind,small,calm,start,_,handed,_⟩ |
    ⟨behind,large,stopped,_,start⟩
  · rw [paced_inside (tracked.started.symm ▸ inside),Allowed,start,handed]
    refine and_iff_left ?_
    intro found same stopped
    exact absurd stopped (unrefused calm found same)
  · rw [paced_behind (tracked.started.symm ▸ behind),Allowed,start,handed,tracked.counted]
    refine iff_of_true ⟨Nat.le_trans (Nat.le_add_left _ _) small,?_⟩ (.inl small)
    intro found same stopped
    exact absurd stopped (unrefused calm found same)
  · have total : handed params after.session.rateLimitStart
        (trace ++ [(s,.binary data)]) ≤ maxBytesPerWindow := by
      rw [start,handed_snoc,stopped]
      exact bounded
    rw [paced_behind (tracked.started.symm ▸ behind),Allowed,tracked.counted,tracked.started,
      ← tracked.received,Nat.cast_add]
    constructor
    · rintro ⟨_,exceeds⟩
      exact .inr (exceeds data rfl stopped)
    · rintro (small | exceeds)
      · exact absurd small (Nat.not_le_of_lt large)
      · refine ⟨total,?_⟩
        intro found same _
        cases same
        exact exceeds

end Tracking

-- The rule is kept by all the runs whose frames come at such a pace, and by no
-- others.
theorem rate_enforced_iff (path : Runs params (initial now) trace s) :
    Enforced params now trace ↔ Paced ⟨now,0,0⟩ (arrivals trace) := by
  induction path with
  | nil =>
    refine iff_of_true ⟨?_,?_⟩ trivial
    · intro past found earlier _
      cases List.prefix_nil.mp earlier
      exact Nat.zero_le _
    · intro past found data earlier
      simp at earlier
  | @step trace s action after prior one ih =>
    rw [enforced_snoc prior one]
    cases came : arrival (s,action) with
    | none =>
      rw [arrivals_other trace came,← ih]
      exact and_iff_left_of_imp fun enforced =>
        allowed_other (enforced.bounded trace s (List.prefix_refl trace) prior) one.2 came
    | some frame =>
      obtain ⟨data,rfl,valid,rfl⟩ := arrival_binary came
      rw [arrivals_snoc,came,Option.toList_some,paced_snoc,← ih]
      exact and_congr_right fun enforced => allowed_binary (tracked_arrival prior one.2 came)
        (enforced.bounded trace s (List.prefix_refl trace) prior) valid one.2

theorem admitted_frame {session : StreamingSession} {samples : Nat} (ready : session.configured = true)
    (some_samples : 0 < samples) (bounded : 4 * samples ≤ maxFrameBytes) :
    admitted session (frame samples) = true := by
  simp only [admitted,ready,frame,List.length_replicate,Bool.and_eq_true,decide_eq_true_eq]
  exact ⟨⟨⟨trivial,by omega⟩,bounded⟩,Nat.mul_mod_right 4 samples⟩

-- Two frames three seconds apart: the second opens a window of its own.
theorem rate_enforced_iff_reset : ∃ trace s,
    trace.map Prod.snd = configSchedule ++ [.binary (frame 32000),.tick 3000000000,.binary (frame 32000)] ∧
    Runs defaultParams (initial 0) trace s ∧ current 0 trace = ⟨3000000000,128000,0⟩ ∧
    Enforced defaultParams 0 trace := by
  obtain ⟨same,path⟩ := config_run
  obtain ⟨longer,taken,_⟩ := frame_taken defaultParams configuredState 32000 rfl rfl rfl rfl
    (by decide) (by decide) (by decide) (by decide)
  have heard : Runs defaultParams (initial 0) _ (heardState longer) := path.step ⟨rfl,taken⟩
  let later : State := { heardState longer with clock := 0 + (3000000000 : Nat) }
  have waited : Step defaultParams (heardState longer) (.tick 3000000000) later := ⟨rfl,.tick⟩
  rcases ran : handleBinaryMessage defaultParams later.session later.clock (frame 32000) with ⟨after,next⟩
  have reached := (heard.step waited).step ⟨rfl,.binary rfl rfl ran⟩
  have quiet : arrivals (visited defaultParams (initial 0) configSchedule) = [] := rfl
  have came {s : State} (ready : s.session.configured = true) :
      arrival (s,.binary (frame 32000)) = some (s.clock,128000) := by
    rw [arrival,if_pos (admitted_frame ready (by decide) (by decide)),frame,List.length_replicate]
  have both : arrivals (visited defaultParams (initial 0) configSchedule ++
      [(configuredState,.binary (frame 32000))] ++ [(heardState longer,.tick 3000000000)] ++
      [(later,.binary (frame 32000))]) = [(0,128000),(3000000000,128000)] := by
    rw [arrivals_snoc,arrivals_snoc,arrivals_snoc,quiet,came rfl,came rfl]
    rfl
  refine ⟨_,_,by simp [same],reached,?_,(rate_enforced_iff reached).mpr ?_⟩
  · rw [current,both]
    rfl
  · rw [both]
    exact ⟨by decide,by decide,trivial⟩

-- 4 bytes more than a window may take, in one frame: they are let through at
-- once. A minute later the next frame, of 4 bytes, closes the session.
def burst : List Action := configSchedule ++ [.binary (frame 153601)]

def burstState (longer : StreamingWhisperEngine) : State :=
  { configuredState with
    session := { configuredState.session with
      bytesReceivedInWindow := 614404, engine := some ⟨0,longer⟩ } }

theorem burst_let_through : ∃ past longer, past.map Prod.snd = burst ∧
    Runs defaultParams (initial 0) past (burstState longer) ∧
    handed defaultParams 0 past = 614404 ∧ received 0 past = 614404 := by
  obtain ⟨same,path⟩ := config_run
  obtain ⟨longer,taken,_⟩ := frame_taken defaultParams configuredState 153601 rfl rfl rfl rfl
    (by decide) (by decide) (by decide) (by decide)
  have valid : admitted configuredState.session (frame 153601) = true :=
    admitted_frame rfl (by decide) (by decide)
  have came : arrival (configuredState,.binary (frame 153601)) = some (0,614404) := by
    rw [arrival,if_pos valid,frame,List.length_replicate]
    rfl
  have calm : refused defaultParams (configuredState,.binary (frame 153601)) = false :=
    early_taken valid (by decide)
  refine ⟨_,longer,by simp [same,burst],path.step ⟨rfl,taken⟩,?_,?_⟩
  · rw [handed_arrival came calm (by decide) (by decide)]
    rfl
  · rw [received_arrival came (by decide)]
    rfl

theorem rate_limit_unenforced : ∃ past s trace t, past.map Prod.snd = burst ∧
    Runs defaultParams (initial 0) past s ∧
    maxBytesPerWindow < handed defaultParams s.session.rateLimitStart past ∧
    trace = past ++ [(s,.tick 60000000000)] ∧ Runs defaultParams (initial 0) trace t ∧
    refused defaultParams (t,.binary (frame 1)) = true ∧
    (received t.session.rateLimitStart trace + (frame 1).length) * seconds 1 ≤
      averageBytes * (t.clock - t.session.rateLimitStart) ∧
    ¬ Enforced defaultParams 0 past := by
  obtain ⟨past,longer,same,path,all,came⟩ := burst_let_through
  let minuteLater : State := { burstState longer with clock := 0 + (60000000000 : Nat) }
  have moved : Step defaultParams (burstState longer) (.tick 60000000000) minuteLater := ⟨rfl,.tick⟩
  have since : received 0 (past ++ [(burstState longer,.tick 60000000000)]) = 614404 :=
    (received_other 0 past rfl).trans came
  have exceeds : maxBytesPerWindow <
      handed defaultParams (burstState longer).session.rateLimitStart past := by
    rw [show (burstState longer).session.rateLimitStart = 0 from rfl,all]
    decide
  have stopped : refused defaultParams (minuteLater,.binary (frame 1)) = true :=
    late_refused (admitted_frame rfl (by decide) (by decide))
      (show ¬ (0 : Int) + (60000000000 : Nat) < 0 + seconds 3 by decide)
      (show 614400 < 614404 + 4 by decide)
  refine ⟨past,burstState longer,_,minuteLater,same,path,exceeds,rfl,path.step moved,stopped,?_,?_⟩
  · have bytes : received minuteLater.session.rateLimitStart
        (past ++ [(burstState longer,.tick 60000000000)]) = 614404 := since
    rw [bytes]
    exact (show ((614404 : Nat) + (4 : Nat)) * seconds 1 ≤
      averageBytes * (0 + (60000000000 : Nat) - 0) by decide)
  · intro enforced
    exact Nat.not_le_of_lt exceeds (enforced.bounded past _ (List.prefix_refl past) path)

end JotaTranscriber.RateWindow

import JotaTranscriber.StreamingSession

namespace JotaTranscriber
open StreamingWhisperEngine StreamingSession

-- What one stretch of flushLoop under state_mutex_ leaves behind: the session,
-- where the flush thread is afterwards, and what became visible on the way.
structure Flushed where
  session : StreamingSession
  next : Flusher
  events : List Event

def Flushed.after (events : List Event) (rest : Flushed) : Flushed :=
  { rest with events := events ++ rest.events }

namespace FlushLoop

-- The idle watchdog at the top of a cycle; the trigger stands for the call of
-- forceSocketShutdown.
def watchdog (params : SessionParams) (session : StreamingSession) (now : Instant) :
    StreamingSession :=
  let idle := (now - session.lastAudioTime).tdiv (seconds 1)
  if params.sessionTimeoutSec.val > 0 ∧ session.idleShutdownTriggered = false ∧
      idle ≥ params.sessionTimeoutSec.val then
    { session with idleShutdownTriggered := true }
  else session

theorem watchdog_frame (params : SessionParams) (session : StreamingSession) (now : Instant) :
    ∃ idle, watchdog params session now = { session with idleShutdownTriggered := idle } := by
  unfold watchdog
  dsimp only
  split
  · exact ⟨true,rfl⟩
  · exact ⟨session.idleShutdownTriggered,rfl⟩

@[simp] theorem watchdog_engine (params : SessionParams) (session : StreamingSession) (now : Instant) :
    (watchdog params session now).engine = session.engine := by
  obtain ⟨idle,frame⟩ := watchdog_frame params session now
  rw [frame]

@[simp] theorem watchdog_configured (params : SessionParams) (session : StreamingSession)
    (now : Instant) : (watchdog params session now).configured = session.configured := by
  obtain ⟨idle,frame⟩ := watchdog_frame params session now
  rw [frame]

@[simp] theorem watchdog_capacityDegraded (params : SessionParams) (session : StreamingSession)
    (now : Instant) : (watchdog params session now).capacityDegraded = session.capacityDegraded := by
  obtain ⟨idle,frame⟩ := watchdog_frame params session now
  rw [frame]

-- The difference of sizes is size_t arithmetic and wraps around.
def newSamples (currentSize lastTranscribedSize : Nat) : Nat :=
  sizeT ((currentSize : Int) - lastTranscribedSize)

def triggered (params : SessionParams) (session : StreamingSession) (currentSize : Nat)
    (now : Instant) : Bool :=
  let elapsed := (now - session.lastAudioTime).tdiv (milliseconds 1)
  let enoughNewAudio := decide (newSamples currentSize session.lastTranscribedSize ≥
    msToSamples16kHz params.flushMinNewAudioMs)
  let silenceFlush := decide (elapsed > 400) && decide (currentSize > session.lastTranscribedSize)
  decide (currentSize ≥ minBufferSamples) && (enoughNewAudio || silenceFlush)

@[simp] theorem triggered_watchdog (params : SessionParams) (session : StreamingSession)
    (currentSize : Nat) (now : Instant) :
    triggered params (watchdog params session now) currentSize now =
      triggered params session currentSize now := by
  obtain ⟨idle,frame⟩ := watchdog_frame params session now
  rw [frame]
  rfl

def showable (text : Text) : Bool := !text.isEmpty && !isHallucination text

def filtered (text : Text) : Text := if showable text then text else []

-- From the hallucination guard to the end of the cycle. A pass that committed
-- something reads the buffer size through engine_ once more; appending an
-- empty text stands for the branch that leaves the transcripts alone.
def accumulate (session : StreamingSession) (cycleEngine currentSize : Nat)
    (result : TranscribeResult) : Flushed :=
  let committed := !result.committedText.isEmpty
  let kept := { session with
    rawTranscription := session.rawTranscription ++ result.committedText
    fullTranscription := session.fullTranscription ++ filtered result.committedText
    lastTranscribedSize := if committed then session.bufferSize else currentSize }
  ⟨kept,
    if committed && session.engine.isNone then .faulted
    else if showable result.committedText || showable result.partialText then
      .sending (.transcription (kept.fullTranscription ++ filtered result.partialText) false none) .finish
    else .waiting,
    if committed then [.dereferenced cycleEngine (session.engine.map OwnedEngine.id)] else []⟩

-- After the pass: the end of a saturation episode, whose messages open windows.
def afterPass (session : StreamingSession) (owned : OwnedEngine) (cycleEngine currentSize : Nat)
    (result : TranscribeResult) : Flushed :=
  if session.bufferOverflowed then
    let read := Event.dereferenced cycleEngine (some owned.id)
    if owned.engine.getBufferSize < lowWaterMark then
      if session.droppedChunks % warningIntervalChunks ≠ 0 then
        ⟨session,.sending (.bufferFull session.droppedChunks) (.resume cycleEngine currentSize result),
          [read]⟩
      else
        ⟨session,.sending (.flowControl .resume) (.clear cycleEngine currentSize result),[read]⟩
    else (accumulate session cycleEngine currentSize result).after [read]
  else accumulate session cycleEngine currentSize result

def inferPass (session : StreamingSession) (cycleEngine currentSize : Nat) (outcome : Outcome) :
    Flushed :=
  match session.engine with
  | none => ⟨session,.faulted,[.dereferenced cycleEngine none]⟩
  | some owned =>
    let read := Event.dereferenced cycleEngine (some owned.id)
    match owned.engine.transcribeSlidingWindow false outcome with
    | (engine,.error error) =>
      ⟨{ session with engine := some { owned with engine } },.crashed error,[read]⟩
    | (engine,.ok result) =>
      let owned := { owned with engine }
      (afterPass { session with engine := some owned } owned cycleEngine currentSize result).after
        [read,.pass result]

-- A cycle from the moment try_lock succeeded. `slot` is the answer of the
-- inference limiter if it is asked.
def cycle (params : SessionParams) (session : StreamingSession) (now : Instant) (slot : Bool)
    (outcome : Outcome) : Flushed :=
  let session := watchdog params session now
  match session.engine with
  | none => ⟨session,.waiting,[]⟩
  | some owned =>
    if !session.configured then ⟨session,.waiting,[]⟩
    else if !triggered params session owned.engine.getBufferSize now then ⟨session,.waiting,[]⟩
    else if !slot then
      if session.capacityDegraded then ⟨session,.waiting,[]⟩
      else ⟨{ session with capacityDegraded := true },.sending .statusBusy .skip,[]⟩
    else if session.capacityDegraded then
      ⟨{ session with capacityDegraded := false },
        .sending .statusOk (.infer owned.id owned.engine.getBufferSize),[]⟩
    else inferPass session owned.id owned.engine.getBufferSize outcome

-- The cycle once the lock is held again after a send.
def relock (session : StreamingSession) (outcome : Outcome) : Continuation → Flushed
  | .skip => ⟨session,.waiting,[]⟩
  | .infer cycleEngine currentSize => inferPass session cycleEngine currentSize outcome
  | .resume cycleEngine currentSize result =>
    ⟨session,.sending (.flowControl .resume) (.clear cycleEngine currentSize result),[]⟩
  | .clear cycleEngine currentSize result =>
    accumulate { session with bufferOverflowed := false, droppedChunks := 0 }
      cycleEngine currentSize result
  | .finish => ⟨session,.waiting,[]⟩

-- What a stretch of flushLoop can do, said once for each function. Every later
-- fact about the loop is read off these.
theorem accumulate_next (session : StreamingSession) (cycleEngine currentSize : Nat)
    (result : TranscribeResult) :
    let done := accumulate session cycleEngine currentSize result
    done.next = .waiting ∨ done.next = .faulted ∧ session.engine = none ∧ result.committedText ≠ [] ∨
      done.next = .sending (.transcription (done.session.fullTranscription ++
        filtered result.partialText) false none) .finish := by
  simp only [accumulate]
  split
  · rename_i missing
    simp only [Bool.and_eq_true,Bool.not_eq_true',List.isEmpty_eq_false_iff,Option.isNone_iff_eq_none] at missing
    exact .inr (.inl ⟨rfl,missing.2,missing.1⟩)
  · split
    · exact .inr (.inr rfl)
    · exact .inl rfl

-- Either the episode ends and a window opens with the session untouched, or the
-- pass is accumulated at once.
theorem afterPass_cases (session : StreamingSession) (owned : OwnedEngine)
    (cycleEngine currentSize : Nat) (result : TranscribeResult) :
    (session.bufferOverflowed = true ∧ owned.engine.getBufferSize < lowWaterMark ∧
      ∃ message next, afterPass session owned cycleEngine currentSize result =
          ⟨session,.sending message next,[.dereferenced cycleEngine (some owned.id)]⟩ ∧
        (message = .bufferFull session.droppedChunks ∧ next = .resume cycleEngine currentSize result ∨
          message = .flowControl .resume ∧ next = .clear cycleEngine currentSize result)) ∨
    (session.bufferOverflowed = false ∨ lowWaterMark ≤ owned.engine.getBufferSize) ∧
      ∃ reads, (reads = [] ∨ reads = [.dereferenced cycleEngine (some owned.id)]) ∧
        afterPass session owned cycleEngine currentSize result =
          (accumulate session cycleEngine currentSize result).after reads := by
  unfold afterPass
  split
  · rename_i overflowed
    split
    · rename_i drained
      refine .inl ⟨overflowed,drained,?_⟩
      split
      · exact ⟨_,_,rfl,.inl ⟨rfl,rfl⟩⟩
      · exact ⟨_,_,rfl,.inr ⟨rfl,rfl⟩⟩
    · rename_i full
      exact .inr ⟨.inr (Nat.le_of_not_lt full),_,.inr rfl,rfl⟩
  · rename_i calm
    exact .inr ⟨.inl (by simpa using calm),[],.inl rfl,rfl⟩

theorem inferPass_cases (session : StreamingSession) (cycleEngine currentSize : Nat)
    (outcome : Outcome) :
    (session.engine = none ∧ inferPass session cycleEngine currentSize outcome =
      ⟨session,.faulted,[.dereferenced cycleEngine none]⟩) ∨
    ∃ owned engine, session.engine = some owned ∧
      ((∃ error, owned.engine.transcribeSlidingWindow false outcome = (engine,.error error) ∧
        inferPass session cycleEngine currentSize outcome =
          ⟨{ session with engine := some ⟨owned.id,engine⟩ },.crashed error,
            [.dereferenced cycleEngine (some owned.id)]⟩) ∨
      ∃ result, owned.engine.transcribeSlidingWindow false outcome = (engine,.ok result) ∧
        inferPass session cycleEngine currentSize outcome =
          (afterPass { session with engine := some ⟨owned.id,engine⟩ } ⟨owned.id,engine⟩
            cycleEngine currentSize result).after
            [.dereferenced cycleEngine (some owned.id),.pass result]) := by
  unfold inferPass
  cases owner : session.engine with
  | none => exact .inl ⟨rfl,rfl⟩
  | some owned =>
    refine .inr ?_
    rcases ran : owned.engine.transcribeSlidingWindow false outcome with ⟨engine,answer⟩
    refine ⟨owned,engine,rfl,?_⟩
    cases answer with
    | error error => exact .inl ⟨error,ran,by simp [ran]⟩
    | ok result => exact .inr ⟨result,ran,by simp [ran]⟩

theorem cycle_cases (params : SessionParams) (session : StreamingSession) (now : Instant)
    (slot : Bool) (outcome : Outcome) :
    let watched := watchdog params session now
    (cycle params session now slot outcome = ⟨watched,.waiting,[]⟩ ∧
      ∀ owned, watched.engine = some owned → watched.configured = true →
        triggered params watched owned.engine.getBufferSize now = true → slot = false) ∨
    ∃ owned, watched.engine = some owned ∧ watched.configured = true ∧
      triggered params watched owned.engine.getBufferSize now = true ∧
      (slot = false ∧ watched.capacityDegraded = false ∧ cycle params session now slot outcome =
          ⟨{ watched with capacityDegraded := true },.sending .statusBusy .skip,[]⟩ ∨
        slot = true ∧ watched.capacityDegraded = true ∧ cycle params session now slot outcome =
          ⟨{ watched with capacityDegraded := false },
            .sending .statusOk (.infer owned.id owned.engine.getBufferSize),[]⟩ ∨
        slot = true ∧ watched.capacityDegraded = false ∧ cycle params session now slot outcome =
          inferPass watched owned.id owned.engine.getBufferSize outcome) := by
  unfold cycle
  generalize watchdog params session now = watched
  dsimp only
  cases owner : watched.engine with
  | none => exact .inl ⟨rfl,fun _ found => by cases found⟩
  | some owned =>
    cases ready : watched.configured with
    | false => exact .inl ⟨rfl,fun _ _ found => by cases found⟩
    | true =>
      cases due : triggered params watched owned.engine.getBufferSize now with
      | false => exact .inl (by simp [due])
      | true =>
        cases slot <;> cases watched.capacityDegraded <;> simp [due]

def carries (message : ServerMessage) : Continuation → Prop
  | .skip => message = .statusBusy
  | .infer _ _ => message = .statusOk
  | .resume _ _ _ => ∃ dropped, message = .bufferFull dropped
  | .clear _ _ _ => message = .flowControl .resume
  | .finish => ∃ text, message = .transcription text false none

def parked : Flusher → Prop
  | .waiting | .faulted | .crashed _ => True
  | .sending message next => carries message next
  | _ => False

theorem watchdog_framed (params : SessionParams) (session : StreamingSession) (now : Instant) :
    Framed session (watchdog params session now) := by
  obtain ⟨idle,frame⟩ := watchdog_frame params session now
  rw [frame]
  exact ⟨rfl,rfl,rfl⟩

-- Where a stretch leaves the thread, and that it only reads engine_ and runs
-- passes: nothing is sent under state_mutex_.
structure Regular (session : StreamingSession) (done : Flushed) : Prop where
  next : parked done.next
  events : ∀ event ∈ done.events,
    (∃ cycleEngine found, event = .dereferenced cycleEngine found) ∨ ∃ result, event = .pass result
  frame : Framed session done.session

theorem Regular.after (regular : Regular session done)
    (events : ∀ event ∈ earlier, (∃ cycleEngine found, event = .dereferenced cycleEngine found) ∨
      ∃ result, event = .pass result) : Regular session (done.after earlier) := by
  refine ⟨regular.next,?_,regular.frame⟩
  intro event present
  rcases List.mem_append.mp present with old | new
  · exact events event old
  · exact regular.events event new

theorem Regular.from (frame : Framed session middle) (regular : Regular middle done) :
    Regular session done :=
  ⟨regular.next,regular.events,frame.trans regular.frame⟩

theorem Regular.countP_eq_zero (regular : Regular session done) (p : Event → Bool)
    (reads : ∀ cycleEngine found, p (.dereferenced cycleEngine found) = false)
    (passes : ∀ result, p (.pass result) = false) : done.events.countP p = 0 := by
  rw [List.countP_eq_zero]
  intro event present
  rcases regular.events event present with ⟨cycleEngine,found,rfl⟩ | ⟨result,rfl⟩
  · rw [reads]; exact Bool.false_ne_true
  · rw [passes]; exact Bool.false_ne_true

theorem accumulate_regular (session : StreamingSession) (cycleEngine currentSize : Nat)
    (result : TranscribeResult) :
    Regular session (accumulate session cycleEngine currentSize result) := by
  refine ⟨?_,?_,rfl,rfl,rfl⟩
  · rcases accumulate_next session cycleEngine currentSize result with waits | ⟨faults,_⟩ | sends
    · rw [waits]; trivial
    · rw [faults]; trivial
    · rw [sends]; exact ⟨_,rfl⟩
  · intro event present
    simp only [accumulate] at present
    split at present
    · exact .inl ⟨_,_,List.mem_singleton.mp present⟩
    · cases present

theorem afterPass_regular (session : StreamingSession) (owned : OwnedEngine)
    (cycleEngine currentSize : Nat) (result : TranscribeResult) :
    Regular session (afterPass session owned cycleEngine currentSize result) := by
  rcases afterPass_cases session owned cycleEngine currentSize result with
    ⟨_,_,message,next,opened,kind⟩ | ⟨_,reads,kind,direct⟩
  · rw [opened]
    refine ⟨?_,fun event present => .inl ⟨_,_,List.mem_singleton.mp present⟩,.refl session⟩
    rcases kind with ⟨rfl,rfl⟩ | ⟨rfl,rfl⟩
    · exact ⟨_,rfl⟩
    · rfl
  · rw [direct]
    refine (accumulate_regular session cycleEngine currentSize result).after ?_
    intro event present
    rcases kind with rfl | rfl
    · cases present
    · exact .inl ⟨_,_,List.mem_singleton.mp present⟩

theorem inferPass_regular (session : StreamingSession) (cycleEngine currentSize : Nat)
    (outcome : Outcome) : Regular session (inferPass session cycleEngine currentSize outcome) := by
  rcases inferPass_cases session cycleEngine currentSize outcome with
    ⟨_,faults⟩ | ⟨owned,used,present,⟨error,_,fails⟩ | ⟨result,_,passes⟩⟩
  · rw [faults]
    exact ⟨trivial,fun event present => .inl ⟨_,_,List.mem_singleton.mp present⟩,.refl session⟩
  all_goals
    have frame : Framed session { session with engine := some ⟨owned.id,used⟩ } :=
      ⟨by simp [present],rfl,rfl⟩
  · rw [fails]
    exact ⟨trivial,fun event present => .inl ⟨_,_,List.mem_singleton.mp present⟩,frame⟩
  · rw [passes]
    refine .from frame ((afterPass_regular _ _ _ _ _).after ?_)
    intro event present
    rcases List.mem_cons.mp present with rfl | present
    · exact .inl ⟨_,_,rfl⟩
    · exact .inr ⟨_,List.mem_singleton.mp present⟩

theorem cycle_regular (ran : cycle params session now slot outcome = done) :
    Regular session done := by
  subst ran
  refine .from (watchdog_framed params session now) ?_
  rcases cycle_cases params session now slot outcome with
    ⟨quiet,_⟩ | ⟨owned,_,_,_,⟨_,_,busy⟩ | ⟨_,_,free⟩ | ⟨_,_,direct⟩⟩
  · rw [quiet]; exact ⟨trivial,List.forall_mem_nil _,.refl _⟩
  · rw [busy]; exact ⟨rfl,List.forall_mem_nil _,rfl,rfl,rfl⟩
  · rw [free]; exact ⟨rfl,List.forall_mem_nil _,rfl,rfl,rfl⟩
  · rw [direct]; exact inferPass_regular _ _ _ _

theorem relock_regular (ran : relock session outcome next = done) : Regular session done := by
  subst ran
  cases next with
  | skip => exact ⟨trivial,List.forall_mem_nil _,.refl session⟩
  | infer cycleEngine currentSize => exact inferPass_regular _ _ _ _
  | resume cycleEngine currentSize result => exact ⟨rfl,List.forall_mem_nil _,.refl session⟩
  | clear cycleEngine currentSize result =>
    let cleared := { session with bufferOverflowed := false, droppedChunks := 0 }
    have frame : Framed session cleared := ⟨rfl,rfl,rfl⟩
    exact .from frame (accumulate_regular cleared cycleEngine currentSize result)
  | finish => exact ⟨trivial,List.forall_mem_nil _,.refl session⟩

theorem watchdog_steady (params : SessionParams) (session : StreamingSession) (now : Instant) :
    Steady session (watchdog params session now) := by
  unfold watchdog
  dsimp only
  split
  · exact ⟨rfl,fun _ => rfl⟩
  · exact .refl session

theorem inferPass_steady (session : StreamingSession) (cycleEngine currentSize : Nat)
    (outcome : Outcome) : Steady session (inferPass session cycleEngine currentSize outcome).session := by
  rcases inferPass_cases session cycleEngine currentSize outcome with
    ⟨_,faults⟩ | ⟨owned,used,_,⟨_,_,fails⟩ | ⟨result,_,passed⟩⟩
  · rw [faults]; exact .refl session
  · rw [fails]; exact ⟨rfl,fun shut => shut⟩
  · rw [passed]
    rcases afterPass_cases { session with engine := some ⟨owned.id,used⟩ } ⟨owned.id,used⟩
        cycleEngine currentSize result with
      ⟨_,_,_,_,opened,_⟩ | ⟨_,_,_,direct⟩
    · rw [opened]; exact ⟨rfl,fun shut => shut⟩
    · rw [direct]; exact ⟨rfl,fun shut => shut⟩

theorem cycle_watched (params : SessionParams) (session : StreamingSession) (now : Instant)
    (slot : Bool) (outcome : Outcome) :
    Steady (watchdog params session now) (cycle params session now slot outcome).session := by
  rcases cycle_cases params session now slot outcome with
    ⟨quiet,_⟩ | ⟨owned,_,_,_,⟨_,_,busy⟩ | ⟨_,_,free⟩ | ⟨_,_,direct⟩⟩
  · rw [quiet]; exact .refl _
  · rw [busy]; exact ⟨rfl,fun shut => shut⟩
  · rw [free]; exact ⟨rfl,fun shut => shut⟩
  · rw [direct]; exact inferPass_steady _ _ _ _

theorem cycle_steady (ran : cycle params session now slot outcome = done) :
    Steady session done.session := by
  subst ran
  exact (watchdog_steady params session now).trans (cycle_watched params session now slot outcome)

theorem relock_steady (ran : relock session outcome next = done) : Steady session done.session := by
  subst ran
  cases next with
  | skip | resume | finish => exact .refl session
  | infer cycleEngine currentSize => exact inferPass_steady _ _ _ _
  | clear => exact ⟨rfl,fun shut => shut⟩

theorem inferPass_received (session : StreamingSession) (cycleEngine currentSize : Nat)
    (outcome : Outcome) : Received session (inferPass session cycleEngine currentSize outcome).session := by
  rcases inferPass_cases session cycleEngine currentSize outcome with
    ⟨_,faults⟩ | ⟨owned,used,_,⟨_,_,fails⟩ | ⟨result,_,passed⟩⟩
  · rw [faults]; exact .refl session
  · rw [fails]; exact ⟨rfl,rfl,rfl,rfl⟩
  · rw [passed]
    rcases afterPass_cases { session with engine := some ⟨owned.id,used⟩ } ⟨owned.id,used⟩
        cycleEngine currentSize result with
      ⟨_,_,_,_,opened,_⟩ | ⟨_,_,_,direct⟩
    · rw [opened]; exact ⟨rfl,rfl,rfl,rfl⟩
    · rw [direct]; exact ⟨rfl,rfl,rfl,rfl⟩

theorem cycle_received (ran : cycle params session now slot outcome = done) :
    Received session done.session := by
  subst ran
  obtain ⟨idle,frame⟩ := watchdog_frame params session now
  have watched : Received session (watchdog params session now) := by
    rw [frame]
    exact ⟨rfl,rfl,rfl,rfl⟩
  rcases cycle_cases params session now slot outcome with
    ⟨quiet,_⟩ | ⟨owned,_,_,_,⟨_,_,busy⟩ | ⟨_,_,free⟩ | ⟨_,_,direct⟩⟩
  · rw [quiet]; exact watched
  · rw [busy]; exact watched.trans ⟨rfl,rfl,rfl,rfl⟩
  · rw [free]; exact watched.trans ⟨rfl,rfl,rfl,rfl⟩
  · rw [direct]; exact watched.trans (inferPass_received _ _ _ _)

theorem relock_received (ran : relock session outcome next = done) : Received session done.session := by
  subst ran
  cases next with
  | skip | resume | finish => exact .refl session
  | infer cycleEngine currentSize => exact inferPass_received _ _ _ _
  | clear => exact ⟨rfl,rfl,rfl,rfl⟩

def reaches (params : SessionParams) (session : StreamingSession) (now : Instant) : Bool :=
  match session.engine with
  | none => false
  | some owned => session.configured && triggered params session owned.engine.getBufferSize now

-- A pass that has nothing to tell the client: no saturation episode ends with
-- it and none of its text may be shown.
def silent (session : StreamingSession) (outcome : Outcome) : Bool :=
  match session.engine with
  | none => true
  | some owned =>
    match owned.engine.transcribeSlidingWindow false outcome with
    | (_,.error _) => true
    | (engine,.ok result) =>
      !(session.bufferOverflowed && decide (engine.getBufferSize < lowWaterMark)) &&
        !showable result.committedText && !showable result.partialText

theorem silent_watchdog (params : SessionParams) (session : StreamingSession) (now : Instant)
    (outcome : Outcome) : silent (watchdog params session now) outcome = silent session outcome := by
  obtain ⟨idle,frame⟩ := watchdog_frame params session now
  rw [frame]
  rfl

def tells (params : SessionParams) (session : StreamingSession) (now : Instant) (slot : Bool)
    (outcome : Outcome) : Bool :=
  reaches params session now &&
    if slot then session.capacityDegraded || !silent session outcome else !session.capacityDegraded

def unheard : Flusher → Bool
  | .waiting | .crashed _ | .faulted => true
  | _ => false

theorem accumulate_unheard (session : StreamingSession) (cycleEngine currentSize : Nat)
    (result : TranscribeResult)
    (untold : (showable result.committedText || showable result.partialText) = false) :
    unheard (accumulate session cycleEngine currentSize result).next = true := by
  simp only [accumulate,untold,Bool.false_eq_true,if_false]
  split <;> rfl

theorem inferPass_unheard (session : StreamingSession) (cycleEngine currentSize : Nat)
    (quiet : silent session outcome = true) :
    unheard (inferPass session cycleEngine currentSize outcome).next = true := by
  rcases inferPass_cases session cycleEngine currentSize outcome with
    ⟨_,faults⟩ | ⟨found,used,present,⟨_,_,fails⟩ | ⟨result,ran,passed⟩⟩
  · rw [faults]; rfl
  · rw [fails]; rfl
  · simp only [silent,present,ran,Bool.and_eq_true,Bool.not_eq_true'] at quiet
    obtain ⟨⟨steady,uncommitted⟩,unshown⟩ := quiet
    have untold : (showable result.committedText || showable result.partialText) = false := by
      rw [uncommitted,unshown]
      rfl
    rw [passed]
    rcases afterPass_cases { session with engine := some ⟨found.id,used⟩ } ⟨found.id,used⟩
        cycleEngine currentSize result with
      ⟨overflowed,drained,_⟩ | ⟨_,_,_,direct⟩
    · have ending : (session.bufferOverflowed && decide (used.getBufferSize < lowWaterMark)) = true :=
        Bool.and_eq_true_iff.mpr ⟨overflowed,decide_eq_true drained⟩
      rw [ending] at steady
      cases steady
    · rw [direct]
      exact accumulate_unheard _ cycleEngine currentSize result untold

theorem cycle_unheard (params : SessionParams) (session : StreamingSession) (now : Instant)
    (quiet : tells params session now slot outcome = false) :
    unheard (cycle params session now slot outcome).next = true := by
  rcases cycle_cases params session now slot outcome with
    ⟨idle,_⟩ | ⟨found,present,ready,due,kind⟩
  · rw [idle]; rfl
  · rw [watchdog_engine] at present
    rw [watchdog_configured] at ready
    rw [triggered_watchdog] at due
    have reached : reaches params session now = true := by simp [reaches,present,ready,due]
    rw [watchdog_capacityDegraded] at kind
    simp only [tells,reached,Bool.true_and] at quiet
    rcases kind with ⟨rfl,steady,_⟩ | ⟨rfl,degraded,_⟩ | ⟨rfl,steady,direct⟩
    · simp [steady] at quiet
    · simp [degraded] at quiet
    · rw [direct]
      refine inferPass_unheard _ found.id found.engine.getBufferSize ?_
      rw [silent_watchdog]
      simpa [steady] using quiet

end FlushLoop

-- The locked part of handleEnd. `slot` is whether the bounded wait for an
-- inference slot succeeded; an exception of the pass leaves handleEnd.
structure Finalized where
  session : StreamingSession
  next : Receiver
  events : List Event

-- The fallback: the raw transcript when every commit was filtered out.
def finalText (full raw : Text) : Text := if full.isEmpty && !raw.isEmpty then raw else full

def StreamingSession.finish (session : StreamingSession) (incompleteReason : Option Text) :
    StreamingSession × Receiver :=
  let text := finalText session.fullTranscription session.rawTranscription
  ({ session with fullTranscription := text },
    .sending [.transcription text true incompleteReason] (.close .final))

def StreamingSession.handleEnd (session : StreamingSession) (slot : Bool) (outcome : Outcome) :
    Finalized :=
  match session.engine with
  | none =>
    let (done,next) := session.finish none
    ⟨done,next,[.forced []]⟩
  | some owned =>
    if slot then
      match owned.engine.transcribeSlidingWindow true outcome with
      | (engine,.error error) =>
        ⟨{ session with engine := some { owned with engine } },.unwinding,[.finalFailed error]⟩
      | (engine,.ok result) =>
        let (done,next) := { session with
          engine := some { owned with engine }
          fullTranscription := session.fullTranscription ++ result.committedText }.finish none
        ⟨done,next,[.forced result.committedText]⟩
    else
      let (done,next) := session.finish (some (bytes "gpu_saturated_timeout"))
      ⟨done,next,[.forced []]⟩

theorem StreamingSession.handleEnd_cases
    (ran : StreamingSession.handleEnd session slot outcome = ⟨after,next,events⟩) :
    (∃ error, next = .unwinding ∧ events = [.finalFailed error] ∧
      ∃ owned engine, session.engine = some owned ∧ slot = true ∧
        owned.engine.transcribeSlidingWindow true outcome = (engine,.error error) ∧
        after = { session with engine := some ⟨owned.id,engine⟩ }) ∨
    ∃ text engine reason, events = [.forced text] ∧
      engine.map OwnedEngine.id = session.engine.map OwnedEngine.id ∧
      after = { session with
        engine := engine
        fullTranscription := finalText (session.fullTranscription ++ text) session.rawTranscription } ∧
      next = .sending [.transcription (finalText (session.fullTranscription ++ text)
        session.rawTranscription) true reason] (.close .final) := by
  unfold StreamingSession.handleEnd at ran
  cases owner : session.engine with
  | none =>
    simp only [owner,StreamingSession.finish,Finalized.mk.injEq] at ran
    obtain ⟨rfl,rfl,rfl⟩ := ran
    exact .inr ⟨[],none,none,rfl,rfl,by simp,by simp⟩
  | some owned =>
    cases slot with
    | false =>
      simp only [owner,StreamingSession.finish,Finalized.mk.injEq,Bool.false_eq_true,if_false] at ran
      obtain ⟨rfl,rfl,rfl⟩ := ran
      exact .inr ⟨[],some owned,some (bytes "gpu_saturated_timeout"),rfl,rfl,by simp,by simp⟩
    | true =>
      rcases passed : owned.engine.transcribeSlidingWindow true outcome with ⟨engine,answer⟩
      cases answer with
      | error error =>
        simp only [owner,passed,if_true,Finalized.mk.injEq] at ran
        obtain ⟨rfl,rfl,rfl⟩ := ran
        exact .inl ⟨error,rfl,rfl,owned,engine,rfl,rfl,passed,rfl⟩
      | ok result =>
        simp only [owner,passed,StreamingSession.finish,if_true,Finalized.mk.injEq] at ran
        obtain ⟨rfl,rfl,rfl⟩ := ran
        exact .inr ⟨result.committedText,some ⟨owned.id,engine⟩,none,rfl,rfl,by simp,by simp⟩

theorem StreamingSession.handleEnd_timed_out (session : StreamingSession) (outcome : Outcome) :
    (session.handleEnd false outcome).events = [.forced []] := by
  unfold StreamingSession.handleEnd
  cases session.engine <;> rfl

theorem StreamingSession.handleEnd_steady
    (ran : StreamingSession.handleEnd session slot outcome = ⟨after,next,events⟩) :
    Steady session after := by
  rcases StreamingSession.handleEnd_cases ran with
    ⟨_,_,_,_,_,_,_,_,rfl⟩ | ⟨_,_,_,_,_,rfl,_⟩
  · exact ⟨rfl,fun shut => shut⟩
  · exact ⟨rfl,fun shut => shut⟩

theorem StreamingSession.handleEnd_framed
    (ran : StreamingSession.handleEnd session slot outcome = ⟨after,next,events⟩) :
    Framed session after := by
  rcases StreamingSession.handleEnd_cases ran with
    ⟨_,_,_,owned,used,present,_,_,rfl⟩ | ⟨_,_,_,_,same,rfl,_⟩
  · exact ⟨by simp [present],rfl,rfl⟩
  · exact ⟨same,rfl,rfl⟩

end JotaTranscriber

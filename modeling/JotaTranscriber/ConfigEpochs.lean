import JotaTranscriber.Transcript
import JotaTranscriber.FlowControl

namespace JotaTranscriber.ConfigEpochs
open SessionMachine StreamingSession FlushLoop Transcript
open FlowControl (admitted handleBinaryMessage_chunk)

def ComposedOf (texts : List Text) (text : Text) : Prop :=
  ∃ parts : List Text, (∀ part ∈ parts, part ∈ texts) ∧ text = parts.flatten

theorem composedOf_nil (texts : List Text) : ComposedOf texts [] :=
  ⟨[],List.forall_mem_nil _,rfl⟩

theorem ComposedOf.single (present : text ∈ texts) : ComposedOf texts text :=
  ⟨[text],fun _ found => List.mem_singleton.mp found ▸ present,by simp⟩

theorem ComposedOf.append (left : ComposedOf texts text) (right : ComposedOf texts more) :
    ComposedOf texts (text ++ more) := by
  obtain ⟨parts,known,rfl⟩ := left
  obtain ⟨others,found,rfl⟩ := right
  refine ⟨parts ++ others,?_,List.flatten_append.symm⟩
  intro part present
  rcases List.mem_append.mp present with old | new
  · exact known part old
  · exact found part new

theorem ComposedOf.mono (included : texts ⊆ others) (composed : ComposedOf texts text) :
    ComposedOf others text := by
  obtain ⟨parts,known,rfl⟩ := composed
  exact ⟨parts,fun part present => included (known part present),rfl⟩

theorem ComposedOf.of_nil (composed : ComposedOf [] text) : text = [] := by
  obtain ⟨parts,known,rfl⟩ := composed
  cases parts with
  | nil => rfl
  | cons part rest => cases known part List.mem_cons_self

theorem ComposedOf.filtered (composed : ComposedOf texts text) :
    ComposedOf texts (FlushLoop.filtered text) := by
  unfold FlushLoop.filtered
  split
  · exact composed
  · exact composedOf_nil texts

def words : Event → List Text
  | .pass result => [result.committedText,result.partialText]
  | .forced text => [text]
  | _ => []

def produced (log : List Event) : List Text := log.flatMap words

@[simp] theorem produced_append (log new : List Event) :
    produced (log ++ new) = produced log ++ produced new := by
  simp [produced]

-- The part of a log that belongs to the engine of the last config.
def epoch : List Event → List Event :=
  List.foldl (fun past event => if isConfigured event then [] else past ++ [event]) []

@[simp] theorem epoch_configured (log : List Event) (engine : Nat) :
    epoch (log ++ [.configured engine]) = [] := by
  simp [epoch,List.foldl_append,isConfigured]

theorem epoch_append (log : List Event) (same : ∀ event ∈ new, isConfigured event = false) :
    epoch (log ++ new) = epoch log ++ new := by
  induction new generalizing log with
  | nil => simp
  | cons event rest ih =>
    have first : epoch (log ++ [event]) = epoch log ++ [event] := by
      simp [epoch,List.foldl_append,same event List.mem_cons_self]
    rw [List.append_cons,ih _ (fun other present => same other (List.mem_cons_of_mem _ present)),first]
    simp

theorem fold_epoch_suffix (past after : List Event) :
    after.foldl (fun past event => if isConfigured event then [] else past ++ [event]) past <:+
      past ++ after := by
  induction after generalizing past with
  | nil => simp
  | cons event rest ih =>
    rw [List.foldl_cons]
    split
    · exact (ih []).trans ((List.suffix_cons _ _).trans (List.suffix_append _ _))
    · simpa using ih (past ++ [event])

theorem epoch_suffix (split : log = before ++ .configured installed :: after) : epoch log <:+ after := by
  have resumed : epoch log = after.foldl
      (fun past event => if isConfigured event then [] else past ++ [event])
      (epoch (before ++ [.configured installed])) := by
    rw [split,List.append_cons]
    exact List.foldl_append
  rw [resumed,epoch_configured]
  exact fold_epoch_suffix [] after

theorem produced_subset (part : log <:+ longer) : produced log ⊆ produced longer := by
  obtain ⟨front,rfl⟩ := part
  rw [produced_append]
  exact List.subset_append_right _ _

def announces : Event → Bool
  | .sent (.ready ..) => true
  | _ => false

-- Once a config has been answered with ready, only its own text may be told.
def Answers (log : List Event) (text : Text) : Prop :=
  ∀ before engine after, log = before ++ .configured engine :: after →
    after.any announces = true → ComposedOf (produced after) text

theorem answers_of_epoch (composed : ComposedOf (produced (epoch log)) text) : Answers log text := by
  intro before engine after split _
  exact composed.mono (produced_subset (epoch_suffix split))

theorem Answers.extend (answers : Answers log text) (quiet : new.any announces = false) :
    Answers (log ++ new) text := by
  intro before engine after split ready
  rcases List.append_eq_append_iff.mp split with ⟨middle,rfl,later⟩ | ⟨middle,rfl,later⟩
  · rw [later] at quiet
    simp [ready] at quiet
  · cases middle with
    | nil =>
      rw [show new = .configured engine :: after from later.symm] at quiet
      simp [ready] at quiet
    | cons head rest =>
      obtain ⟨rfl,same⟩ := List.cons.inj later
      rw [show after = rest ++ new from same] at ready ⊢
      rw [List.any_append,quiet,Bool.or_false] at ready
      rw [produced_append]
      exact (answers before engine rest rfl ready).mono (List.subset_append_left _ _)

-- A result that would still change the transcripts, and the one that the
-- windows of an ending episode carry on.
def speaks (result : TranscribeResult) : Bool :=
  !result.committedText.isEmpty || showable result.partialText

def carried : Flusher → Option TranscribeResult
  | .sending _ (.resume _ _ result) | .sending _ (.clear _ _ result)
  | .relocking (.resume _ _ result) | .relocking (.clear _ _ result) => some result
  | _ => none

def transcribing : Flusher → Bool
  | .sending (.transcription ..) _ => true
  | _ => false

-- The order the two threads would have to keep: a config takes effect when the
-- flush thread carries no text of the old engine, and ready is sent when it has
-- none left to send.
def separated (s : State) : Action → Bool
  | .install => (carried s.flusher).all fun result => !speaks result
  | .send =>
    match s.receiver with
    | .sending (.ready .. :: _) _ => !transcribing s.flusher
    | _ => true
  | _ => true

structure Spoken (texts : List Text) (session : StreamingSession) : Prop where
  full : ComposedOf texts session.fullTranscription
  raw : ComposedOf texts session.rawTranscription

def Known (texts : List Text) (result : TranscribeResult) : Prop :=
  speaks result = true → result.committedText ∈ texts ∧ result.partialText ∈ texts

theorem Spoken.mono (spoken : Spoken texts session) (same : after.transcripts = session.transcripts)
    (included : texts ⊆ others) : Spoken others after := by
  obtain ⟨full,raw⟩ := Prod.mk.inj same
  exact ⟨by rw [full]; exact spoken.full.mono included,by rw [raw]; exact spoken.raw.mono included⟩

theorem Known.mono (included : texts ⊆ others) (known : Known texts result) : Known others result :=
  fun speaking => ⟨included (known speaking).1,included (known speaking).2⟩

theorem Known.committed (known : Known texts result) : ComposedOf texts result.committedText := by
  cases silent : result.committedText.isEmpty with
  | true => rw [List.isEmpty_iff.mp silent]; exact composedOf_nil texts
  | false => exact .single (known (by simp [speaks,silent])).1

theorem Known.partialText (known : Known texts result) :
    ComposedOf texts (filtered result.partialText) := by
  unfold filtered
  split
  · rename_i shown
    exact .single (known (by simp [speaks,shown])).2
  · exact composedOf_nil texts

-- A stretch of flushLoop whose text is all its own.
structure Voiced (texts : List Text) (session : StreamingSession) (flusher : Flusher) : Prop where
  spoken : Spoken texts session
  carried : ∀ result, carried flusher = some result → Known texts result
  window : ∀ text final reason next, flusher = .sending (.transcription text final reason) next →
    ComposedOf texts text

theorem Voiced.of_quiet (spoken : Spoken texts session) (holds : ConfigEpochs.carried flusher = none)
    (silent : transcribing flusher = false) : Voiced texts session flusher := by
  refine ⟨spoken,?_,?_⟩
  · intro result found
    rw [holds] at found; cases found
  · rintro text final reason next rfl
    cases silent

theorem accumulate_silent (session : StreamingSession) (cycleEngine currentSize : Nat)
    (result : TranscribeResult) :
    produced (accumulate session cycleEngine currentSize result).events = [] := by
  simp only [accumulate]
  split <;> rfl

theorem afterPass_silent (session : StreamingSession) (owned : OwnedEngine)
    (cycleEngine currentSize : Nat) (result : TranscribeResult) :
    produced (afterPass session owned cycleEngine currentSize result).events = [] := by
  rcases afterPass_cases session owned cycleEngine currentSize result with
    ⟨_,_,_,_,opened,_⟩ | ⟨_,reads,kind,direct⟩
  · rw [opened]; rfl
  · rw [direct,Flushed.after,produced_append,accumulate_silent]
    rcases kind with rfl | rfl <;> rfl

theorem inferPass_produced (session : StreamingSession) (cycleEngine currentSize : Nat)
    (outcome : Outcome) :
    let done := inferPass session cycleEngine currentSize outcome
    produced done.events = [] ∨ ∃ owned used result, session.engine = some owned ∧
      owned.engine.transcribeSlidingWindow false outcome = (used,.ok result) ∧
      produced done.events = [result.committedText,result.partialText] := by
  dsimp only
  rcases inferPass_cases session cycleEngine currentSize outcome with
    ⟨_,faults⟩ | ⟨owned,used,present,⟨error,_,fails⟩ | ⟨result,ran,passed⟩⟩
  · rw [faults]; exact .inl rfl
  · rw [fails]; exact .inl rfl
  · refine .inr ⟨owned,used,result,present,ran,?_⟩
    rw [passed,Flushed.after,produced_append,afterPass_silent]
    rfl

theorem accumulate_voiced (session : StreamingSession) (cycleEngine currentSize : Nat)
    (spoken : Spoken texts session) (known : Known texts result) :
    let done := accumulate session cycleEngine currentSize result
    Voiced texts done.session done.next := by
  dsimp only
  have kept : Spoken texts (accumulate session cycleEngine currentSize result).session :=
    ⟨spoken.full.append known.committed.filtered,spoken.raw.append known.committed⟩
  rcases accumulate_next session cycleEngine currentSize result with waits | ⟨faults,_⟩ | sends
  · rw [waits]; exact .of_quiet kept rfl rfl
  · rw [faults]; exact .of_quiet kept rfl rfl
  · rw [sends]
    refine ⟨kept,fun _ found => (by cases found),?_⟩
    intro text final reason next same
    cases same
    exact kept.full.append known.partialText

theorem afterPass_voiced (session : StreamingSession) (owned : OwnedEngine)
    (cycleEngine currentSize : Nat) (spoken : Spoken texts session) (known : Known texts result) :
    let done := afterPass session owned cycleEngine currentSize result
    Voiced texts done.session done.next := by
  dsimp only
  rcases afterPass_cases session owned cycleEngine currentSize result with
    ⟨_,_,message,next,opened,kind⟩ | ⟨_,reads,kind,direct⟩
  · rw [opened]
    refine ⟨spoken,?_,?_⟩
    · intro found same
      rcases kind with ⟨rfl,rfl⟩ | ⟨rfl,rfl⟩ <;> cases same <;> exact known
    · intro text final reason after same
      rcases kind with ⟨rfl,rfl⟩ | ⟨rfl,rfl⟩ <;> cases same
  · rw [direct]
    exact accumulate_voiced session cycleEngine currentSize spoken known

theorem inferPass_voiced (session : StreamingSession) (cycleEngine currentSize : Nat)
    (outcome : Outcome) (spoken : Spoken texts session) :
    let done := inferPass session cycleEngine currentSize outcome
    Voiced (texts ++ produced done.events) done.session done.next := by
  dsimp only
  rcases inferPass_cases session cycleEngine currentSize outcome with
    ⟨_,faults⟩ | ⟨owned,used,_,⟨error,_,fails⟩ | ⟨result,_,passed⟩⟩
  · rw [faults]
    exact .of_quiet (spoken.mono rfl (List.subset_append_left _ _)) rfl rfl
  · rw [fails]
    exact .of_quiet (spoken.mono rfl (List.subset_append_left _ _)) rfl rfl
  · rw [passed,Flushed.after,produced_append,afterPass_silent]
    exact afterPass_voiced _ _ cycleEngine currentSize
      (spoken.mono rfl (List.subset_append_left _ _)) (fun _ => ⟨by simp [produced,words],by simp [produced,words]⟩)

theorem cycle_voiced (ran : cycle params session now slot outcome = done)
    (spoken : Spoken texts session) :
    Voiced (texts ++ produced done.events) done.session done.next := by
  subst ran
  obtain ⟨idle,frame⟩ := watchdog_frame params session now
  have watched : Spoken texts (watchdog params session now) := by
    rw [frame]
    exact spoken.mono rfl (List.Subset.refl _)
  rcases cycle_cases params session now slot outcome with
    ⟨quiet,_⟩ | ⟨owned,_,_,_,⟨_,_,busy⟩ | ⟨_,_,free⟩ | ⟨_,_,direct⟩⟩
  · rw [quiet]; exact .of_quiet (watched.mono rfl (List.subset_append_left _ _)) rfl rfl
  · rw [busy]; exact .of_quiet (watched.mono rfl (List.subset_append_left _ _)) rfl rfl
  · rw [free]; exact .of_quiet (watched.mono rfl (List.subset_append_left _ _)) rfl rfl
  · rw [direct]; exact inferPass_voiced _ _ _ _ watched

theorem relock_voiced (ran : relock session outcome next = done) (spoken : Spoken texts session)
    (known : ∀ result, carried (.relocking next) = some result → Known texts result) :
    Voiced (texts ++ produced done.events) done.session done.next := by
  subst ran
  have grown : Spoken (texts ++ []) session := spoken.mono rfl (List.subset_append_left _ _)
  cases next with
  | skip => exact .of_quiet grown rfl rfl
  | infer cycleEngine currentSize => exact inferPass_voiced _ _ _ _ spoken
  | resume cycleEngine currentSize result =>
    refine ⟨grown,?_,?_⟩
    · intro found same
      cases same
      exact (known result rfl).mono (List.subset_append_left _ _)
    · intro text final reason after same
      cases same
  | clear cycleEngine currentSize result =>
    have cleared : Spoken texts { session with bufferOverflowed := false, droppedChunks := 0 } :=
      spoken.mono rfl (List.Subset.refl _)
    simp only [relock,accumulate_silent,List.append_nil]
    exact accumulate_voiced _ cycleEngine currentSize cleared (known result rfl)
  | finish => exact .of_quiet grown rfl rfl

def Own (before : List Event) : Event → Prop
  | .sent (.transcription text _ _) => Answers before text
  | _ => True

structure Isolated (s : State) : Prop where
  spoken : Spoken (produced (epoch s.log)) s.session
  carried : ∀ result, carried s.flusher = some result → Known (produced (epoch s.log)) result
  window : ∀ text final reason next, s.flusher = .sending (.transcription text final reason) next →
    Answers s.log text
  waiting : ∀ text final reason, .transcription text final reason ∈ unsent s.receiver →
    ComposedOf (produced (epoch s.log)) text
  log : Machine.Justified Own s.log

theorem initial_isolated (now : Instant) : Isolated (initial now) where
  spoken := ⟨composedOf_nil _,composedOf_nil _⟩
  carried := fun _ found => by cases found
  window := fun _ _ _ _ found => by cases found
  waiting := fun _ _ _ present => by cases present
  log := Machine.justified_nil

theorem own_plain (plain : ∀ event ∈ new, ∀ before, Own before event) :
    Machine.Justified (fun before => Own (log ++ before)) new := by
  rintro before event after rfl
  exact plain event (by simp) _

theorem own_regular (regular : Regular session done) :
    Machine.Justified (fun before => Own (log ++ before)) done.events := by
  refine own_plain (fun event present before => ?_)
  rcases regular.events event present with ⟨_,_,rfl⟩ | ⟨_,rfl⟩ <;> trivial

theorem grown (log : List Event) (same : ∀ event ∈ new, isConfigured event = false) :
    produced (epoch log) ⊆ produced (epoch (log ++ new)) := by
  rw [epoch_append log same,produced_append]
  exact List.subset_append_left _ _

theorem kept_isolated (valid : Isolated s) (extended : next.log = s.log ++ new)
    (same : ∀ event ∈ new, isConfigured event = false)
    (own : Machine.Justified (fun before => Own (s.log ++ before)) new)
    (transcripts : next.session.transcripts = s.session.transcripts)
    (holds : carried next.flusher = carried s.flusher ∨ carried next.flusher = none)
    (window : transcribing next.flusher = true →
      next.flusher = s.flusher ∧ new.any announces = false)
    (receiver : ∀ message ∈ unsent next.receiver,
      message ∈ unsent s.receiver ∨ message.isTranscription = false) : Isolated next := by
  have included := grown s.log same
  refine ⟨?_,?_,?_,?_,?_⟩
  · rw [extended]
    exact valid.spoken.mono transcripts included
  · intro result found
    rcases holds with stays | nothing
    · rw [extended]
      exact (valid.carried result (stays.symm.trans found)).mono included
    · rw [nothing] at found; cases found
  · intro text final reason continuation pc
    obtain ⟨stays,quiet⟩ := window (by rw [pc]; rfl)
    rw [extended]
    exact (valid.window text final reason continuation (stays.symm.trans pc)).extend quiet
  · intro text final reason present
    rw [extended]
    rcases receiver _ present with old | plain
    · exact (valid.waiting text final reason old).mono included
    · cases plain
  · rw [extended]
    exact Machine.justified_append.mpr ⟨valid.log,own⟩

theorem stretch_isolated (valid : Isolated s) (regular : Regular s.session done)
    (voiced : Voiced (produced (epoch s.log) ++ produced done.events) done.session done.next) :
    Isolated { s with session := done.session, flusher := done.next, log := s.log ++ done.events } := by
  have same : ∀ event ∈ done.events, isConfigured event = false := by
    intro event present
    rcases regular.events event present with ⟨_,_,rfl⟩ | ⟨_,rfl⟩ <;> rfl
  have recorded : produced (epoch (s.log ++ done.events)) =
      produced (epoch s.log) ++ produced done.events := by
    rw [epoch_append s.log same,produced_append]
  rw [← recorded] at voiced
  refine ⟨voiced.spoken,voiced.carried,?_,?_,?_⟩
  · intro text final reason continuation pc
    exact answers_of_epoch (voiced.window text final reason continuation pc)
  · intro text final reason present
    exact (valid.waiting text final reason present).mono (grown s.log same)
  · exact Machine.justified_append.mpr ⟨valid.log,own_regular regular⟩

theorem install_isolated (valid : Isolated s)
    (allowed : ((carried s.flusher).all fun result => !speaks result) = true)
    (message : ServerMessage) (plain : message.isTranscription = false) :
    Isolated { s with
      session := StreamingSession.install params s.session s.clock s.nextEngine
      receiver := .sending [message] .read
      nextEngine := s.nextEngine + 1
      log := s.log ++ [.configured s.nextEngine] } := by
  refine ⟨⟨composedOf_nil _,composedOf_nil _⟩,?_,?_,?_,?_⟩
  · intro result found speaking
    rw [show carried s.flusher = some result from found] at allowed
    simp [speaking] at allowed
  · intro text final reason continuation pc
    exact (valid.window text final reason continuation pc).extend rfl
  · intro text final reason present
    rw [← List.mem_singleton.mp present] at plain
    cases plain
  · exact Machine.justified_append.mpr ⟨valid.log,Machine.justified_singleton.mpr trivial⟩

theorem finalText_composed (full : ComposedOf texts text) (raw : ComposedOf texts other) :
    ComposedOf texts (finalText text other) := by
  unfold finalText
  split
  · exact raw
  · exact full

theorem finalPass_isolated (valid : Isolated s)
    (ran : s.session.handleEnd slot outcome = ⟨after,next,events⟩) :
    Isolated { s with session := after, receiver := next, log := s.log ++ events } := by
  rcases handleEnd_cases ran with ⟨error,rfl,rfl,_,_,_,_,_,rfl⟩ | ⟨text,_,reason,rfl,_,rfl,rfl⟩
  · exact kept_isolated valid rfl
      (fun event present => by cases List.mem_singleton.mp present; rfl)
      (own_plain fun event present _ => by cases List.mem_singleton.mp present; trivial)
      rfl (.inl rfl) (fun _ => ⟨rfl,rfl⟩) (List.forall_mem_nil _)
  · have same : ∀ event ∈ [Event.forced text], isConfigured event = false :=
      fun event present => by cases List.mem_singleton.mp present; rfl
    have included := grown s.log same
    have forced : text ∈ produced (epoch (s.log ++ [.forced text])) := by
      rw [epoch_append s.log same,produced_append]
      exact List.mem_append_right _ (List.mem_singleton.mpr rfl)
    have whole := finalText_composed ((valid.spoken.full.mono included).append (.single forced))
      (valid.spoken.raw.mono included)
    refine ⟨⟨whole,valid.spoken.raw.mono included⟩,?_,?_,?_,?_⟩
    · intro result found
      exact (valid.carried result found).mono included
    · intro shown final why continuation pc
      exact (valid.window shown final why continuation pc).extend rfl
    · intro shown final why present
      cases List.mem_singleton.mp present
      exact whole
    · exact Machine.justified_append.mpr ⟨valid.log,Machine.justified_singleton.mpr trivial⟩

theorem send_isolated (valid : Isolated s) (pc : s.receiver = .sending (message :: rest) after)
    (allowed : separated s .send = true) :
    Isolated { s with receiver := sendThen rest after, log := s.log ++ [.sent message] } := by
  refine kept_isolated valid rfl (fun event present => by cases List.mem_singleton.mp present; rfl)
    (Machine.justified_singleton.mpr ?_) rfl (.inl rfl) ?_ ?_
  · rw [List.append_nil]
    cases message with
    | transcription text final reason =>
      exact answers_of_epoch (valid.waiting text final reason (by simp [pc,unsent]))
    | _ => trivial
  · intro busy
    refine ⟨rfl,?_⟩
    cases message with
    | ready sessionId language beamSize =>
      have idle : (!transcribing s.flusher) = true := by simpa [separated,pc] using allowed
      rw [show transcribing s.flusher = true from busy] at idle
      cases idle
    | _ => rfl
  · intro found present
    rw [pc]
    exact .inl (List.mem_cons_of_mem _ (by simpa using present))

theorem flushSend_isolated (valid : Isolated s) (pc : s.flusher = .sending message continuation) :
    Isolated { s with flusher := .relocking continuation, log := s.log ++ [.sent message] } := by
  refine kept_isolated valid rfl (fun event present => by cases List.mem_singleton.mp present; rfl)
    (Machine.justified_singleton.mpr ?_) rfl (.inl ?_) (fun busy => by cases busy)
    (fun found present => .inl present)
  · rw [List.append_nil]
    cases message with
    | transcription text final reason => exact valid.window text final reason continuation pc
    | _ => trivial
  · rw [pc]
    cases continuation <;> rfl

theorem released_plain (ran : StreamingSession.releaseModel session = (after,events)) :
    ∀ event ∈ events, event = .released := by
  rcases releaseModel_events ran with rfl | rfl
  · exact List.forall_mem_nil _
  · exact fun event present => List.mem_singleton.mp present

theorem isolated_preserved (valid : Isolated s)
    (allowed : separated s action = true) (move : Move params s action next) : Isolated next := by
  have receiver (other : isFinalPass action = false) :
      ∀ message ∈ unsent next.receiver,
        message ∈ unsent s.receiver ∨ message.isTranscription = false := by
    intro message present
    rcases unsent_step params move present with old | plain | ⟨slot,outcome,rfl⟩
    · exact .inl old
    · exact .inr plain
    · cases other
  have nothing : s.log = s.log ++ [] := (List.append_nil _).symm
  cases move with
  | install pc => exact install_isolated valid allowed _ rfl
  | finalPass pc ran => exact finalPass_isolated valid ran
  | cycle pc ran =>
    exact stretch_isolated valid (cycle_regular ran) (cycle_voiced ran valid.spoken)
  | relock pc ran =>
    exact stretch_isolated valid (relock_regular ran)
      (relock_voiced ran valid.spoken (by rw [← pc]; exact valid.carried))
  | send pc => exact send_isolated valid pc allowed
  | flushSend pc => exact flushSend_isolated valid pc
  | text pc live ran =>
    exact kept_isolated valid nothing (List.forall_mem_nil _) (own_plain (List.forall_mem_nil _))
      (handleJsonMessage_transcripts ran) (.inl rfl) (fun _ => ⟨rfl,rfl⟩) (receiver rfl)
  | binary pc live ran =>
    exact kept_isolated valid nothing (List.forall_mem_nil _) (own_plain (List.forall_mem_nil _))
      (handleBinaryMessage_transcripts ran) (.inl rfl) (fun _ => ⟨rfl,rfl⟩) (receiver rfl)
  | acquire pc =>
    exact kept_isolated valid rfl (fun event present => by cases List.mem_singleton.mp present; rfl)
      (own_plain fun event present _ => by cases List.mem_singleton.mp present; trivial)
      rfl (.inl rfl) (fun _ => ⟨rfl,rfl⟩) (receiver rfl)
  | release pc ran | destroyRelease pc ran =>
    exact kept_isolated valid rfl
      (fun event present => by rw [released_plain ran event present]; rfl)
      (own_plain fun event present _ => by rw [released_plain ran event present]; trivial)
      (releaseModel_transcripts ran) (.inl rfl)
      (fun _ => ⟨rfl,List.any_eq_false.mpr fun event present => by
        rw [released_plain ran event present]; exact Bool.false_ne_true⟩) (receiver rfl)
  | accept pc | wake pc | exit pc | tryLockFails pc =>
    exact kept_isolated valid nothing (List.forall_mem_nil _) (own_plain (List.forall_mem_nil _))
      rfl (.inr rfl) (fun busy => by cases busy) (receiver rfl)
  | _ =>
    exact kept_isolated valid nothing (List.forall_mem_nil _) (own_plain (List.forall_mem_nil _))
      rfl (.inl rfl) (fun _ => ⟨rfl,rfl⟩) (receiver rfl)

theorem runs_isolated (path : Runs params (initial now) trace s)
    (allowed : ∀ entry ∈ trace, separated entry.1 entry.2 = true) : Isolated s :=
  path.guarded (C := fun s action => separated s action = true) allowed (initial_isolated now)
    (fun valid permitted one => isolated_preserved valid permitted one.2)

-- The chunks that the engine took since the last config, and the samples that
-- the preprocessor makes of them for its buffer.
def takes (session : StreamingSession) (now : Instant) (data : List UInt8) : Bool :=
  admitted session now data && session.engine.isSome &&
    decide (session.bufferSize < StreamingWhisperEngine.highWaterMark)

def chunks (params : SessionParams) : List (State × Action) → List (List Sample) :=
  List.foldl (fun past entry =>
    match entry.2 with
    | .install => []
    | .binary data =>
      if takes entry.1.session entry.1.clock data then past ++ [float32Samples params.float32 data]
      else past
    | _ => past) []

def prepare : List (List Sample) → List Sample × Sample × Sample :=
  List.foldl (fun (samples,prevRaw,prevFiltered) chunk =>
    let (prepped,lastRaw,lastFiltered) := AudioPreprocessor.process chunk prevRaw prevFiltered
    (samples ++ prepped,lastRaw,lastFiltered)) ([],0,0)

theorem chunks_other (params : SessionParams) (trace : List (State × Action)) (s : State)
    (other : action ≠ .install) (deaf : ∀ data, action ≠ .binary data) :
    chunks params (trace ++ [(s,action)]) = chunks params trace := by
  rw [chunks,List.foldl_append]
  cases action with
  | install => exact absurd rfl other
  | binary data => exact absurd rfl (deaf data)
  | _ => rfl

-- What the buffer of an engine holds, and where its filter stands.
structure Fed (audio : List Sample × Sample × Sample) (engine : StreamingWhisperEngine) : Prop where
  buffer : engine.audioBuffer <:+ audio.1
  raw : engine.hpPrevRaw = audio.2.1
  filtered : engine.hpPrevFiltered = audio.2.2

theorem processAudioChunk_fed {engine : StreamingWhisperEngine} (fed : Fed (prepare heard) engine)
    (room : engine.getBufferSize < StreamingWhisperEngine.highWaterMark) (pcm : List Sample) :
    Fed (prepare (heard ++ [pcm])) (engine.processAudioChunk pcm).2 := by
  have taken : ¬ engine.audioBuffer.length ≥ StreamingWhisperEngine.highWaterMark := Nat.not_le_of_lt room
  obtain ⟨front,whole⟩ := fed.buffer
  simp only [prepare,List.foldl_append,List.foldl_cons,List.foldl_nil] at whole ⊢
  rw [StreamingWhisperEngine.processAudioChunk,if_neg taken]
  refine ⟨?_,?_,?_⟩
  · refine (StreamingWhisperEngine.appendCapped_suffix _ _).trans ⟨front,?_⟩
    rw [← List.append_assoc,whole,fed.raw,fed.filtered]
    rfl
  · simp only [fed.raw,fed.filtered]
    rfl
  · simp only [fed.raw,fed.filtered]
    rfl

-- Between configs an engine only loses audio, except to a chunk it takes.
def Drains (before after : Option OwnedEngine) : Prop :=
  ∀ audio, (∀ owned, before = some owned → Fed audio owned.engine) →
    ∀ owned, after = some owned → Fed audio owned.engine

theorem pass_drains (present : before = some owned)
    (ran : owned.engine.transcribeSlidingWindow force outcome = (after,answer)) :
    Drains before (some ⟨owned.id,after⟩) := by
  intro audio fed found same
  cases same
  obtain ⟨buffer,raw,filtered⟩ := StreamingWhisperEngine.transcribeSlidingWindow_suffix ran
  obtain ⟨held,lastRaw,lastFiltered⟩ := fed owned present
  exact ⟨buffer.trans held,raw.trans lastRaw,filtered.trans lastFiltered⟩

theorem inferPass_engine (session : StreamingSession) (cycleEngine currentSize : Nat)
    (outcome : Outcome) :
    Drains session.engine (inferPass session cycleEngine currentSize outcome).session.engine := by
  rcases inferPass_cases session cycleEngine currentSize outcome with
    ⟨_,faults⟩ | ⟨owned,used,present,⟨error,ran,fails⟩ | ⟨result,ran,passed⟩⟩
  · rw [faults]; exact fun _ fed => fed
  · rw [fails]; exact pass_drains present ran
  · rw [passed]
    rcases afterPass_cases { session with engine := some ⟨owned.id,used⟩ } ⟨owned.id,used⟩
        cycleEngine currentSize result with
      ⟨_,_,_,_,opened,_⟩ | ⟨_,_,_,direct⟩
    · rw [opened]; exact pass_drains present ran
    · rw [direct]; exact pass_drains present ran

theorem cycle_engine (ran : cycle params session now slot outcome = done) :
    Drains session.engine done.session.engine := by
  subst ran
  have watched : (watchdog params session now).engine = session.engine := watchdog_engine _ _ _
  rcases cycle_cases params session now slot outcome with
    ⟨quiet,_⟩ | ⟨owned,_,_,_,⟨_,_,busy⟩ | ⟨_,_,free⟩ | ⟨_,_,direct⟩⟩
  · rw [quiet,← watched]; exact fun _ fed => fed
  · rw [busy,← watched]; exact fun _ fed => fed
  · rw [free,← watched]; exact fun _ fed => fed
  · rw [direct,← watched]; exact inferPass_engine _ _ _ _

theorem relock_engine (ran : relock session outcome next = done) :
    Drains session.engine done.session.engine := by
  subst ran
  cases next with
  | infer => exact inferPass_engine _ _ _ _
  | skip | resume | clear | finish => exact fun _ fed => fed

theorem handleEnd_source (ran : StreamingSession.handleEnd session slot outcome = ⟨after,next,events⟩) :
    (after.engine = session.engine ∧ ∀ text, .forced text ∈ events → text = []) ∨
    ∃ owned engine answer, session.engine = some owned ∧
      owned.engine.transcribeSlidingWindow true outcome = (engine,answer) ∧
      after.engine = some ⟨owned.id,engine⟩ ∧
      ∀ text, .forced text ∈ events → ∃ result, answer = .ok result ∧ text = result.committedText := by
  unfold StreamingSession.handleEnd at ran
  cases owner : session.engine with
  | none =>
    simp only [owner,StreamingSession.finish,Finalized.mk.injEq] at ran
    obtain ⟨rfl,_,rfl⟩ := ran
    exact .inl ⟨rfl,fun text present => by simpa using present⟩
  | some owned =>
    cases slot with
    | false =>
      simp only [owner,StreamingSession.finish,Finalized.mk.injEq,Bool.false_eq_true,if_false] at ran
      obtain ⟨rfl,_,rfl⟩ := ran
      exact .inl ⟨rfl,fun text present => by simpa using present⟩
    | true =>
      rcases passed : owned.engine.transcribeSlidingWindow true outcome with ⟨engine,answer⟩
      refine .inr ⟨owned,engine,answer,rfl,passed,?_⟩
      cases answer with
      | error error =>
        simp only [owner,passed,if_true,Finalized.mk.injEq] at ran
        obtain ⟨rfl,_,rfl⟩ := ran
        exact ⟨rfl,fun text present => by simp at present⟩
      | ok result =>
        simp only [owner,passed,StreamingSession.finish,if_true,Finalized.mk.injEq] at ran
        obtain ⟨rfl,_,rfl⟩ := ran
        exact ⟨rfl,fun text present => ⟨result,rfl,by simpa using present⟩⟩

theorem handleBinaryMessage_engine
    (ran : handleBinaryMessage params session now data = (after,next)) :
    (takes session now data = false ∧ after.engine = session.engine) ∨
    takes session now data = true ∧ ∃ owned, session.engine = some owned ∧
      owned.engine.getBufferSize < StreamingWhisperEngine.highWaterMark ∧
      after.engine = some ⟨owned.id,(owned.engine.processAudioChunk
        (float32Samples params.float32 data)).2⟩ := by
  obtain ⟨received,start,⟨refused | missing,rfl,_⟩ | ⟨accepted,owned,present,⟨full,rfl,_⟩ | ⟨room,rfl,_⟩⟩⟩ :=
    handleBinaryMessage_chunk ran
  · exact .inl ⟨by simp [takes,refused],rfl⟩
  · exact .inl ⟨by simp [takes,missing],rfl⟩
  · exact .inl ⟨by simp [takes,Nat.not_lt_of_le full],rfl⟩
  · exact .inr ⟨by simp [takes,accepted,present,room],owned,present,
      by simpa [bufferSize,present] using room,rfl⟩

-- The installed engine holds nothing but audio accepted since its config.
def Hears (params : SessionParams) (past : List (State × Action)) (s : State) : Prop :=
  ∀ owned, s.session.engine = some owned → Fed (prepare (chunks params past)) owned.engine

theorem binary_hears (hears : Hears params past s)
    (ran : handleBinaryMessage params s.session s.clock data = (after,answer)) :
    Hears params (past ++ [(s,.binary data)]) { s with session := after, receiver := answer } := by
  have fold : chunks params (past ++ [(s,.binary data)]) = if takes s.session s.clock data then
      chunks params past ++ [float32Samples params.float32 data] else chunks params past := by
    rw [chunks,List.foldl_append]
    rfl
  unfold Hears
  rw [fold]
  rcases handleBinaryMessage_engine ran with ⟨deaf,same⟩ | ⟨taken,source,present,room,grown⟩
  · simp only [deaf,Bool.false_eq_true,if_false,same]
    exact hears
  · simp only [taken,if_true,grown]
    intro owned same
    cases same
    exact processAudioChunk_fed (hears source present) room _

theorem hears_preserved (hears : Hears params past s) (move : Move params s action next) :
    Hears params (past ++ [(s,action)]) next := by
  have drained (other : action ≠ .install) (deaf : ∀ data, action ≠ .binary data)
      (drains : Drains s.session.engine next.session.engine) :
      Hears params (past ++ [(s,action)]) next := by
    unfold Hears
    rw [chunks_other params past s other deaf]
    exact drains _ hears
  cases move with
  | install pc =>
    rintro owned same
    cases same
    have reset : chunks params (past ++ [(s,.install)]) = [] := by
      rw [chunks,List.foldl_append]
      rfl
    rw [reset]
    exact ⟨List.nil_suffix,rfl,rfl⟩
  | binary pc live ran => exact binary_hears hears ran
  | text pc live ran =>
    refine drained (fun same => by cases same) (fun _ same => by cases same) ?_
    rcases handleJsonMessage_cases ran with ⟨rfl,_⟩ | ⟨_,rfl,_⟩ | ⟨rfl,_⟩ | ⟨rfl,_⟩
    all_goals exact fun _ fed => fed
  | finalPass pc ran =>
    refine drained (fun same => by cases same) (fun _ same => by cases same) ?_
    rcases handleEnd_source ran with ⟨same,_⟩ | ⟨owned,engine,answer,present,passed,after,_⟩
    · dsimp only
      rw [same]
      exact fun _ fed => fed
    · dsimp only
      rw [after]
      exact pass_drains present passed
  | release pc ran | destroyRelease pc ran =>
    refine drained (fun same => by cases same) (fun _ same => by cases same) ?_
    rcases releaseModel_cases ran with ⟨_,_,rfl⟩ | ⟨_,_,rfl⟩
    · exact fun _ _ _ found => by cases found
    · exact fun _ fed => fed
  | cycle pc ran =>
    exact drained (fun same => by cases same) (fun _ same => by cases same) (cycle_engine ran)
  | relock pc ran =>
    exact drained (fun same => by cases same) (fun _ same => by cases same) (relock_engine ran)
  | _ => exact drained (fun same => by cases same) (fun _ same => by cases same) (fun _ fed => fed)

theorem runs_hears (path : Runs params (initial now) trace s) : Hears params trace s :=
  path.history (I := Hears params) (C := fun _ _ => True) (fun _ _ => trivial)
    (fun _ found => by cases found) (fun _ hears _ one => hears_preserved hears one.2)

def Uttered (engine : Option OwnedEngine) (texts : List Text) : Prop :=
  ∀ text ∈ texts, text ≠ [] → ∃ owned force outcome after result, engine = some owned ∧
    owned.engine.transcribeSlidingWindow force outcome = (after,.ok result) ∧
    text ∈ [result.committedText,result.partialText]

theorem inferPass_uttered (session : StreamingSession) (cycleEngine currentSize : Nat)
    (outcome : Outcome) :
    Uttered session.engine (produced (inferPass session cycleEngine currentSize outcome).events) := by
  intro text present _
  rcases inferPass_produced session cycleEngine currentSize outcome with
    nothing | ⟨owned,used,result,found,ran,texts⟩
  · rw [nothing] at present; cases present
  · rw [texts] at present
    exact ⟨owned,false,outcome,used,result,found,ran,present⟩

theorem cycle_uttered (ran : cycle params session now slot outcome = done) :
    Uttered session.engine (produced done.events) := by
  subst ran
  rcases cycle_cases params session now slot outcome with
    ⟨quiet,_⟩ | ⟨owned,_,_,_,⟨_,_,busy⟩ | ⟨_,_,free⟩ | ⟨_,_,direct⟩⟩
  · rw [quiet]; exact List.forall_mem_nil _
  · rw [busy]; exact List.forall_mem_nil _
  · rw [free]; exact List.forall_mem_nil _
  · rw [direct,← watchdog_engine params session now]; exact inferPass_uttered _ _ _ _

theorem relock_uttered (ran : relock session outcome next = done) :
    Uttered session.engine (produced done.events) := by
  subst ran
  cases next with
  | infer => exact inferPass_uttered _ _ _ _
  | clear => simp only [relock,accumulate_silent]; exact List.forall_mem_nil _
  | skip | resume | finish => exact List.forall_mem_nil _

theorem handleEnd_uttered (ran : StreamingSession.handleEnd session slot outcome = ⟨after,next,events⟩) :
    Uttered session.engine (produced events) := by
  intro text present spoken
  have forced : .forced text ∈ events := by
    rcases handleEnd_cases ran with ⟨_,_,rfl,_⟩ | ⟨_,_,_,rfl,_⟩
    · cases present
    · rw [List.mem_singleton.mp present]
      exact List.mem_singleton.mpr rfl
  rcases handleEnd_source ran with ⟨_,silent⟩ | ⟨owned,engine,answer,found,passed,_,told⟩
  · exact absurd (silent text forced) spoken
  · obtain ⟨result,rfl,rfl⟩ := told text forced
    exact ⟨owned,true,outcome,engine,result,found,passed,List.mem_cons_self⟩

theorem uttered_step (move : Move params s action next) :
    ∃ new, next.log = s.log ++ new ∧ Uttered s.session.engine (produced new) := by
  have wordless (quiet : ∀ event, logs event action = true → words event = []) :
      ∃ new, next.log = s.log ++ new ∧ Uttered s.session.engine (produced new) := by
    obtain ⟨new,extended,logged⟩ := log_step params move
    refine ⟨new,extended,?_⟩
    intro text present
    obtain ⟨event,member,found⟩ := List.mem_flatMap.mp present
    rw [quiet event (logged event member)] at found
    cases found
  cases move with
  | cycle pc ran => exact ⟨_,rfl,cycle_uttered ran⟩
  | relock pc ran => exact ⟨_,rfl,relock_uttered ran⟩
  | finalPass pc ran => exact ⟨_,rfl,handleEnd_uttered ran⟩
  | _ =>
    apply wordless
    intro event logged
    cases event <;> first | rfl | cases logged

theorem epochs_isolated (path : Runs params (initial now) trace s)
    (allowed : ∀ entry ∈ trace, separated entry.1 entry.2 = true) :
    (∀ before engine after, s.log = before ++ .configured engine :: after →
      after.any announces = true →
        ComposedOf (produced after) s.session.fullTranscription ∧
        ComposedOf (produced after) s.session.rawTranscription ∧
        ∀ earlier text final reason later,
          after = earlier ++ .sent (.transcription text final reason) :: later →
            earlier.any announces = true → ComposedOf (produced earlier) text) ∧
    ∀ past t action next rest, trace = past ++ (t,action) :: rest → Step params t action next →
      ∃ new, next.log = t.log ++ new ∧
        ∀ text ∈ produced new, text ≠ [] → ∃ owned force outcome used result,
          t.session.engine = some owned ∧
          owned.engine.audioBuffer <:+ (prepare (chunks params past)).1 ∧
          owned.engine.transcribeSlidingWindow force outcome = (used,.ok result) ∧
          text ∈ [result.committedText,result.partialText] := by
  refine ⟨?_,?_⟩
  · intro before engine after split ready
    have valid := runs_isolated path allowed
    have included : produced (epoch s.log) ⊆ produced after := produced_subset (epoch_suffix split)
    refine ⟨valid.spoken.full.mono included,valid.spoken.raw.mono included,?_⟩
    rintro earlier text final reason later rfl answered
    have position : s.log = (before ++ .configured engine :: earlier) ++
        .sent (.transcription text final reason) :: later := by
      rw [split,List.append_assoc]
      rfl
    exact valid.log _ _ _ position before engine earlier rfl answered
  · intro past t action next rest position one
    have hears := runs_hears (path.split position).1
    obtain ⟨new,extended,uttered⟩ := uttered_step one.2
    refine ⟨new,extended,?_⟩
    intro text present spoken
    obtain ⟨owned,force,outcome,used,result,found,passed,told⟩ := uttered text present spoken
    exact ⟨owned,force,outcome,used,result,found,(hears owned found).buffer,passed,told⟩

def reconfigSchedule : List Action := [.text configPayload emptyView,.acquire 0,.install,.send]

theorem epochs_isolated_reconfigured : ∃ trace s before earlier,
    Runs defaultParams (initial 0) trace s ∧
    (∀ entry ∈ trace, separated entry.1 entry.2 = true) ∧
    s.log = before ++ .configured 1 ::
      (earlier ++ [.sent (.transcription (bytes "hola") true none)]) ∧
    ComposedOf (produced earlier) (bytes "hola") := by
  let ready := Event.sent (readyMessage defaultParams (create 0))
  let before := configuredState.log ++ [.acquired 0]
  let earlier := [ready,.forced (bytes "hola")]
  have logged : (runGuarded defaultParams separated (initial 0) (configSchedule ++ reconfigSchedule ++
      [.binary [0,0,0,0],.text endPayload emptyView,.exit,.join,.finalPass true greeting,.send])).map
      State.log = some (before ++ .configured 1 ::
        (earlier ++ [.sent (.transcription (bytes "hola") true none)])) := by
    decide +kernel
  obtain ⟨s,ran,split⟩ := Option.map_eq_some_iff.mp logged
  obtain ⟨trace,_,path,kept⟩ := runGuarded_sound defaultParams ran
  have isolated := (epochs_isolated path kept).1 before 1 _ split rfl
  exact ⟨trace,s,before,earlier,path,kept,split,isolated.2.2 earlier _ true none [] rfl rfl⟩

-- The second config is answered while flushLoop still has a transcription of
-- the first one to send.
theorem old_text_after_ready : ∃ trace s before earlier,
    trace.map Prod.snd = configSchedule ++ [.binary (frame 32000),.wake,.cycle true greeting] ++
      reconfigSchedule ++ [.flushSend] ∧
    Runs defaultParams (initial 0) trace s ∧
    s.log = before ++ .configured 1 ::
      (earlier ++ [.sent (.transcription (bytes "hola") false none)]) ∧
    earlier.any announces = true ∧ ¬ ComposedOf (produced earlier) (bytes "hola") := by
  obtain ⟨longer,trace,size,ungated,heard,path,_⟩ := awake_run (fun _ _ => true) rfl rfl (fun _ => rfl)
  obtain ⟨session,events,passed,_⟩ := heard_greeting longer size ungated
  let awake := awakeState longer
  let opened : State := { awake with
    session := session
    flusher := .sending (.transcription (bytes "hola") false none) .finish
    log := awake.log ++ events }
  have passes : Step defaultParams awake (.cycle true greeting) opened := ⟨rfl,.cycle rfl passed⟩
  let ready := Event.sent (readyMessage defaultParams session)
  obtain ⟨s,ran,logged⟩ : ∃ s, run defaultParams opened (reconfigSchedule ++ [.flushSend]) = some s ∧
      s.log = opened.log ++ [.acquired 0] ++ [.configured 1] ++ [ready] ++
        [.sent (.transcription (bytes "hola") false none)] := ⟨_,rfl,rfl⟩
  obtain ⟨rest,later,last⟩ := run_sound defaultParams ran
  refine ⟨_,s,opened.log ++ [.acquired 0],[ready],?_,(path.step passes).append last,
    by rw [logged]; simp,rfl,?_⟩
  · simp [heard,later]
  · intro composed
    cases composed.of_nil

end JotaTranscriber.ConfigEpochs

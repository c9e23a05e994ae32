import JotaTranscriber.FinalMessage

namespace JotaTranscriber.Transcript
open SessionMachine StreamingSession FlushLoop FinalMessage

-- The results of the flush passes, the commits of handleEnd and the successful
-- configs of a run, as its log records them.
def passes (log : List Event) : List TranscribeResult :=
  log.filterMap fun
    | .pass result => some result
    | _ => none

def forcedCommits (log : List Event) : List Text :=
  log.filterMap fun
    | .forced text => some text
    | _ => none

def isConfigured : Event → Bool
  | .configured _ => true
  | _ => false

def configurations (log : List Event) : Nat := log.countP isConfigured

-- The commits that are neither empty nor hallucinated, and all of them.
def filteredCommits (results : List TranscribeResult) : Text :=
  results.flatMap fun result => filtered result.committedText

def rawCommits (results : List TranscribeResult) : Text :=
  results.flatMap TranscribeResult.committedText

@[simp] theorem passes_append (log new : List Event) : passes (log ++ new) = passes log ++ passes new := by
  simp [passes]

@[simp] theorem forcedCommits_append (log new : List Event) :
    forcedCommits (log ++ new) = forcedCommits log ++ forcedCommits new := by
  simp [forcedCommits]

@[simp] theorem configurations_append (log new : List Event) :
    configurations (log ++ new) = configurations log + configurations new := by
  simp [configurations]

@[simp] theorem filteredCommits_append (earlier later : List TranscribeResult) :
    filteredCommits (earlier ++ later) = filteredCommits earlier ++ filteredCommits later := by
  simp [filteredCommits]

structure Settled (results : List TranscribeResult) (session : StreamingSession) : Prop where
  full : session.fullTranscription = filteredCommits results
  raw : session.rawTranscription = rawCommits results

-- The windows of an ending episode lie between a pass and its accumulation.
def Window (results : List TranscribeResult) (session : StreamingSession) : Continuation → Prop
  | .resume _ _ result | .clear _ _ result =>
    ∃ earlier, results = earlier ++ [result] ∧ Settled earlier session
  | _ => Settled results session

-- A transcription message that is not final shows all filtered commits and the
-- filtered partial of the last pass.
def Shows (results : List TranscribeResult) (text : Text) : Prop :=
  ∃ earlier last, results = earlier ++ [last] ∧
    text = filteredCommits results ++ filtered last.partialText

def Progress (results : List TranscribeResult) (session : StreamingSession) : Flusher → Prop
  | .sending message next => carries message next ∧ Window results session next ∧
    ∀ text final reason, message = .transcription text final reason → Shows results text
  | .relocking next => Window results session next
  | _ => Settled results session

theorem Window.framed (window : Window results session continuation)
    (same : after.transcripts = session.transcripts) : Window results after continuation := by
  obtain ⟨full,raw⟩ := Prod.mk.inj same
  cases continuation with
  | resume | clear =>
    obtain ⟨earlier,last,kept⟩ := window
    exact ⟨earlier,last,full.trans kept.full,raw.trans kept.raw⟩
  | skip | infer | finish => exact ⟨full.trans window.full,raw.trans window.raw⟩

theorem Progress.framed (progress : Progress results session flusher)
    (same : after.transcripts = session.transcripts) : Progress results after flusher := by
  obtain ⟨full,raw⟩ := Prod.mk.inj same
  cases flusher with
  | sending message next => exact ⟨progress.1,progress.2.1.framed same,progress.2.2⟩
  | relocking next => exact Window.framed progress same
  | _ => exact ⟨full.trans progress.full,raw.trans progress.raw⟩

theorem progress_idle (resting : idle flusher = true) :
    Progress results session flusher ↔ Settled results session := by
  cases flusher <;> first | rfl | cases resting

theorem accumulate_progress (session : StreamingSession) (cycleEngine currentSize : Nat)
    (result : TranscribeResult) (settled : Settled earlier session) :
    let done := accumulate session cycleEngine currentSize result
    Progress (earlier ++ [result]) done.session done.next ∧ passes done.events = [] := by
  dsimp only
  have kept : Settled (earlier ++ [result])
      (accumulate session cycleEngine currentSize result).session := by
    constructor
    · simp [accumulate,settled.full,filteredCommits]
    · simp [accumulate,settled.raw,rawCommits]
  refine ⟨?_,?_⟩
  · rcases accumulate_next session cycleEngine currentSize result with waits | ⟨faults,_⟩ | sends
    · rw [waits]; exact kept
    · rw [faults]; exact kept
    · rw [sends]
      refine ⟨⟨_,rfl⟩,kept,?_⟩
      intro text final reason same
      cases same
      exact ⟨earlier,result,rfl,by rw [kept.full]⟩
  · simp only [accumulate]
    split <;> rfl

theorem afterPass_progress (session : StreamingSession) (owned : OwnedEngine)
    (cycleEngine currentSize : Nat) (result : TranscribeResult) (settled : Settled earlier session) :
    let done := afterPass session owned cycleEngine currentSize result
    Progress (earlier ++ [result]) done.session done.next ∧ passes done.events = [] := by
  dsimp only
  rcases afterPass_cases session owned cycleEngine currentSize result with
    ⟨_,_,message,next,opened,kind⟩ | ⟨_,reads,kind,direct⟩
  · rw [opened]
    refine ⟨?_,rfl⟩
    rcases kind with ⟨rfl,rfl⟩ | ⟨rfl,rfl⟩
    · exact ⟨⟨_,rfl⟩,⟨earlier,rfl,settled⟩,nofun⟩
    · exact ⟨rfl,⟨earlier,rfl,settled⟩,nofun⟩
  · obtain ⟨progress,silent⟩ := accumulate_progress session cycleEngine currentSize result settled
    rw [direct]
    refine ⟨progress,?_⟩
    rcases kind with rfl | rfl <;> simpa [Flushed.after,passes] using silent

theorem inferPass_progress (session : StreamingSession) (cycleEngine currentSize : Nat)
    (outcome : Outcome) (settled : Settled results session) :
    let done := inferPass session cycleEngine currentSize outcome
    Progress (results ++ passes done.events) done.session done.next := by
  dsimp only
  rcases inferPass_cases session cycleEngine currentSize outcome with
    ⟨_,faults⟩ | ⟨owned,used,_,⟨error,_,fails⟩ | ⟨result,_,passed⟩⟩
  · rw [faults]
    exact (List.append_nil results).symm ▸ settled
  · rw [fails]
    exact (List.append_nil results).symm ▸ ⟨settled.full,settled.raw⟩
  · have used_settled : Settled results { session with engine := some ⟨owned.id,used⟩ } :=
      ⟨settled.full,settled.raw⟩
    obtain ⟨progress,silent⟩ := afterPass_progress _ ⟨owned.id,used⟩ cycleEngine currentSize result
      used_settled
    rw [passed]
    have recorded : passes ((afterPass { session with engine := some ⟨owned.id,used⟩ }
        ⟨owned.id,used⟩ cycleEngine currentSize result).after
        [.dereferenced cycleEngine (some owned.id),.pass result]).events = [result] := by
      rw [Flushed.after,passes_append,silent]
      rfl
    rw [recorded]
    exact progress

theorem cycle_progress (ran : cycle params session now slot outcome = done)
    (settled : Settled results session) :
    Progress (results ++ passes done.events) done.session done.next := by
  subst ran
  obtain ⟨idle,frame⟩ := watchdog_frame params session now
  have watched : Settled results (watchdog params session now) := by
    rw [frame]
    exact ⟨settled.full,settled.raw⟩
  rcases cycle_cases params session now slot outcome with
    ⟨quiet,_⟩ | ⟨owned,_,_,_,⟨_,_,busy⟩ | ⟨_,_,free⟩ | ⟨_,_,direct⟩⟩
  · rw [quiet]
    exact (List.append_nil results).symm ▸ watched
  · rw [busy]
    exact (List.append_nil results).symm ▸ ⟨rfl,⟨watched.full,watched.raw⟩,nofun⟩
  · rw [free]
    exact (List.append_nil results).symm ▸ ⟨rfl,⟨watched.full,watched.raw⟩,nofun⟩
  · rw [direct]
    exact inferPass_progress _ _ _ _ watched

theorem relock_progress (ran : relock session outcome next = done)
    (window : Window results session next) :
    Progress (results ++ passes done.events) done.session done.next := by
  subst ran
  cases next with
  | skip => exact (List.append_nil results).symm ▸ window
  | infer cycleEngine currentSize => exact inferPass_progress _ _ _ _ window
  | resume cycleEngine currentSize result =>
    exact (List.append_nil results).symm ▸ ⟨rfl,window,nofun⟩
  | clear cycleEngine currentSize result =>
    obtain ⟨earlier,rfl,settled⟩ := window
    have cleared : Settled earlier { session with bufferOverflowed := false, droppedChunks := 0 } :=
      ⟨settled.full,settled.raw⟩
    obtain ⟨progress,silent⟩ := accumulate_progress _ cycleEngine currentSize result cleared
    simp only [relock,silent,List.append_nil]
    exact progress
  | finish => exact (List.append_nil results).symm ▸ window

-- What each entry of a log says about the passes before it.
def Told (before : List Event) : Event → Prop
  | .sent (.transcription text false _) => Shows (passes before) text
  | .sent (.transcription text true _) => ∃ forced, forcedCommits before = [forced] ∧
    text = finalText (filteredCommits (passes before) ++ forced) (rawCommits (passes before))
  | .pass _ | .forced _ => forcedCommits before = []
  | _ => True

structure Transcribed (s : State) : Prop where
  fresh : configurations s.log = 0 →
    s.session.engine = none ∧ passes s.log = [] ∧ idle s.flusher = true
  progress : forcedCommits s.log = [] → Progress (passes s.log) s.session s.flusher
  pending : ∀ message ∈ unsent s.receiver, message.isTranscription = false ∨
    ∃ text reason forced, message = .transcription text true reason ∧
      forcedCommits s.log = [forced] ∧
      text = finalText (filteredCommits (passes s.log) ++ forced) (rawCommits (passes s.log))
  log : Machine.Justified Told s.log

theorem initial_transcribed (now : Instant) : Transcribed (initial now) :=
  ⟨fun _ => ⟨rfl,rfl,rfl⟩,fun _ => ⟨rfl,rfl⟩,List.forall_mem_nil _,Machine.justified_nil⟩

structure Silent (new : List Event) : Prop where
  passes : passes new = []
  forced : forcedCommits new = []
  configured : configurations new = 0
  told : ∀ event ∈ new, ∀ before, Told before event

theorem silent_nil : Silent [] := ⟨rfl,rfl,rfl,List.forall_mem_nil _⟩

theorem silent_acquired (ctx : Nat) : Silent [.acquired ctx] :=
  ⟨rfl,rfl,rfl,fun event present _ => by cases List.mem_singleton.mp present; trivial⟩

theorem silent_release (ran : StreamingSession.releaseModel session = (after,events)) :
    Silent events := by
  rcases releaseModel_events ran with rfl | rfl
  · exact silent_nil
  · exact ⟨rfl,rfl,rfl,fun event present _ => by cases List.mem_singleton.mp present; trivial⟩

theorem silent_finalFailed (error : InferenceError) : Silent [.finalFailed error] :=
  ⟨rfl,rfl,rfl,fun event present _ => by cases List.mem_singleton.mp present; trivial⟩

theorem told_append (told : Machine.Justified Told log) (silent : Silent new) :
    Machine.Justified Told (log ++ new) := by
  refine Machine.justified_append.mpr ⟨told,?_⟩
  intro before event after split
  exact silent.told event (by rw [split]; simp) _

-- A step that neither passes, forces, configures nor sends, and keeps the
-- transcripts and the place of the flush thread in its cycle.
theorem quiet_preserved (valid : Transcribed s) (extended : next.log = s.log ++ new)
    (silent : Silent new)
    (engine : s.session.engine = none → next.session.engine = none)
    (transcripts : next.session.transcripts = s.session.transcripts)
    (flusher : next.flusher = s.flusher ∨ idle s.flusher = true ∧ idle next.flusher = true)
    (receiver : ∀ message ∈ unsent next.receiver,
      message ∈ unsent s.receiver ∨ message.isTranscription = false) : Transcribed next := by
  have same : passes next.log = passes s.log := by simp [extended,silent.passes]
  have forced : forcedCommits next.log = forcedCommits s.log := by simp [extended,silent.forced]
  refine ⟨?_,?_,?_,?_⟩
  · intro none_yet
    rw [extended,configurations_append,silent.configured] at none_yet
    obtain ⟨missing,nothing,resting⟩ := valid.fresh none_yet
    refine ⟨engine missing,same.trans nothing,?_⟩
    rcases flusher with stays | ⟨_,rests⟩
    · rw [stays]; exact resting
    · exact rests
  · intro unforced
    rw [forced] at unforced
    rw [same]
    have progress := (valid.progress unforced).framed transcripts
    rcases flusher with stays | ⟨rested,rests⟩
    · rw [stays]; exact progress
    · exact (progress_idle rests).mpr ((progress_idle rested).mp progress)
  · intro message present
    rw [forced,same]
    rcases receiver message present with old | plain
    · exact valid.pending message old
    · exact .inl plain
  · rw [extended]
    exact told_append valid.log silent

theorem forcedCommits_eq_nil (unforced : ∀ text, .forced text ∉ log) : forcedCommits log = [] := by
  rw [List.eq_nil_iff_forall_not_mem]
  intro text present
  obtain ⟨event,member,found⟩ := List.mem_filterMap.mp present
  cases event <;> cases found
  exact unforced text member

theorem regular_unforced (regular : Regular session done) (part : ∀ event ∈ events, event ∈ done.events) :
    forcedCommits events = [] := by
  apply forcedCommits_eq_nil
  intro text present
  rcases regular.events _ (part _ present) with ⟨_,_,impossible⟩ | ⟨_,impossible⟩ <;> cases impossible

theorem regular_configurations (regular : Regular session done) : configurations done.events = 0 :=
  regular.countP_eq_zero isConfigured (fun _ _ => rfl) (fun _ => rfl)

theorem stretch_preserved (valid : Transcribed s) (opened : Opened s)
    (regular : Regular s.session done)
    (progress : Progress (passes s.log ++ passes done.events) done.session done.next)
    (fresh : s.session.engine = none → idle s.flusher = true →
      done.events = [] ∧ idle done.next = true) :
    Transcribed { s with session := done.session, flusher := done.next, log := s.log ++ done.events } := by
  have unforced := forcedCommits_eq_nil opened.unforced
  refine ⟨?_,?_,?_,?_⟩
  · intro none_yet
    rw [configurations_append,regular_configurations regular] at none_yet
    obtain ⟨missing,nothing,resting⟩ := valid.fresh none_yet
    obtain ⟨quiet,rests⟩ := fresh missing resting
    exact ⟨regular.frame.engine_none missing,by simp [quiet,nothing],rests⟩
  · intro _
    rw [passes_append]
    exact progress
  · intro message present
    rcases valid.pending message present with plain | ⟨_,_,_,_,forced,_⟩
    · exact .inl plain
    · rw [unforced] at forced; cases forced
  · refine Machine.justified_append.mpr ⟨valid.log,?_⟩
    intro before event after split
    have part : ∀ event ∈ before, event ∈ done.events := by
      intro event present
      rw [split]
      exact List.mem_append_left _ present
    rcases regular.events event (by rw [split]; simp) with ⟨_,_,rfl⟩ | ⟨_,rfl⟩
    · trivial
    · show forcedCommits (s.log ++ before) = []
      rw [forcedCommits_append,unforced,regular_unforced regular part]
      rfl

theorem sent_told (told : Machine.Justified Told log) (holds : Told log (.sent message)) :
    Machine.Justified Told (log ++ [.sent message]) :=
  Machine.justified_append.mpr ⟨told,Machine.justified_singleton.mpr (by rwa [List.append_nil])⟩

theorem told_plain (plain : message.isTranscription = false) : Told before (.sent message) := by
  cases message with
  | transcription => cases plain
  | _ => trivial

theorem send_preserved (valid : Transcribed s)
    (pc : s.receiver = .sending (message :: rest) after) :
    Transcribed { s with receiver := sendThen rest after, log := s.log ++ [.sent message] } := by
  have told : Told s.log (.sent message) := by
    rcases valid.pending message (by simp [pc,unsent]) with plain | ⟨_,_,forced,rfl,once,text⟩
    · exact told_plain plain
    · exact ⟨forced,once,text⟩
  refine ⟨?_,?_,?_,sent_told valid.log told⟩
  · simpa [configurations,passes,isConfigured] using valid.fresh
  · simpa [forcedCommits,passes] using valid.progress
  · intro found present
    have before := valid.pending found (by
      rw [pc]
      exact List.mem_cons_of_mem _ (by simpa using present))
    simpa [forcedCommits,passes] using before

theorem flushSend_preserved (valid : Transcribed s) (opened : Opened s)
    (pc : s.flusher = .sending message continuation) :
    Transcribed { s with flusher := .relocking continuation, log := s.log ++ [.sent message] } := by
  have unforced := forcedCommits_eq_nil opened.unforced
  have progress := valid.progress unforced
  rw [pc] at progress
  obtain ⟨_,window,shows⟩ := progress
  have told : Told s.log (.sent message) := by
    cases message with
    | transcription text final reason =>
      cases final with
      | false => exact shows text false reason rfl
      | true => cases opened.flusher _ _ pc
    | _ => trivial
  refine ⟨?_,?_,?_,sent_told valid.log told⟩
  · intro none_yet
    have resting := (valid.fresh (by simpa [configurations,isConfigured] using none_yet)).2.2
    rw [pc] at resting
    cases resting
  · intro _
    simpa [passes,Progress] using window
  · simpa [forcedCommits,passes] using valid.pending

theorem install_preserved (valid : Transcribed s)
    (few : configurations (s.log ++ [.configured s.nextEngine]) ≤ 1)
    (message : ServerMessage) (plain : message.isTranscription = false) :
    Transcribed { s with
      session := StreamingSession.install params s.session s.clock s.nextEngine
      receiver := .sending [message] .read
      nextEngine := s.nextEngine + 1
      log := s.log ++ [.configured s.nextEngine] } := by
  have none_yet : configurations s.log = 0 := by
    simpa [configurations,isConfigured] using few
  obtain ⟨_,nothing,resting⟩ := valid.fresh none_yet
  refine ⟨?_,?_,?_,?_⟩
  · intro impossible
    simp [configurations,isConfigured] at impossible
  · intro _
    have same : passes (s.log ++ [.configured s.nextEngine]) = [] := by
      rw [passes_append,nothing]
      rfl
    rw [same]
    cases pc : s.flusher <;> rw [pc] at resting <;> first | exact ⟨rfl,rfl⟩ | cases resting
  · intro found present
    cases List.mem_singleton.mp present
    exact .inl plain
  · exact Machine.justified_append.mpr ⟨valid.log,Machine.justified_singleton.mpr trivial⟩

theorem finalPass_preserved (valid : Transcribed s) (opened : Opened s)
    (pc : s.receiver = .finalizing) (ran : s.session.handleEnd slot outcome = ⟨after,next,events⟩) :
    Transcribed { s with session := after, receiver := next, log := s.log ++ events } := by
  have unforced := forcedCommits_eq_nil opened.unforced
  have progress := valid.progress unforced
  rw [opened.joined pc] at progress
  have missing := (handleEnd_framed ran).engine_none
  rcases handleEnd_cases ran with ⟨error,rfl,rfl,_,_,_,_,_,rfl⟩ | ⟨text,_,reason,rfl,_,rfl,rfl⟩
  · exact quiet_preserved valid rfl (silent_finalFailed error) missing rfl (.inl rfl)
      (List.forall_mem_nil _)
  · refine ⟨?_,?_,?_,?_⟩
    · intro none_yet
      obtain ⟨none_present,nothing,resting⟩ := valid.fresh
        (by simpa [configurations,isConfigured] using none_yet)
      exact ⟨missing none_present,by simpa [passes] using nothing,resting⟩
    · intro impossible
      simp [forcedCommits] at impossible
    · intro message present
      cases List.mem_singleton.mp present
      refine .inr ⟨_,reason,text,rfl,?_,?_⟩
      · rw [forcedCommits_append,unforced]
        rfl
      · rw [progress.full,progress.raw,passes_append]
        simp [passes]
    · refine Machine.justified_append.mpr ⟨valid.log,Machine.justified_singleton.mpr ?_⟩
      rw [List.append_nil]
      exact unforced

theorem releaseModel_none (ran : StreamingSession.releaseModel session = (after,events))
    (missing : session.engine = none) : after.engine = none := by
  rcases releaseModel_cases ran with ⟨_,_,rfl⟩ | ⟨_,_,rfl⟩
  · rfl
  · exact missing

theorem transcribed_preserved (phase : Phase s) (start : Handshake s) (valid : Transcribed s)
    (few : configurations next.log ≤ 1) (move : Move params s action next) : Transcribed next := by
  have receiver (other : isFinalPass action = false) :
      ∀ message ∈ unsent next.receiver,
        message ∈ unsent s.receiver ∨ message.isTranscription = false := by
    intro message present
    rcases unsent_step params move present with old | plain | ⟨slot,outcome,rfl⟩
    · exact .inl old
    · exact .inr plain
    · cases other
  have unchanged : s.log = s.log ++ [] := (List.append_nil _).symm
  cases move with
  | install pc => exact install_preserved valid few _ rfl
  | finalPass pc ran => exact finalPass_preserved valid (opened_of_finalizing phase pc) pc ran
  | cycle pc ran =>
    have opened := opened_of_flusher phase (by rw [pc]; nofun)
    have progress := valid.progress (forcedCommits_eq_nil opened.unforced)
    rw [pc] at progress
    refine stretch_preserved valid opened (cycle_regular ran) (cycle_progress ran progress) ?_
    intro missing _
    rcases cycle_cases params s.session s.clock _ _ with ⟨quiet,_⟩ | ⟨_,present,_⟩
    · rw [quiet] at ran; cases ran; exact ⟨rfl,rfl⟩
    · rw [watchdog_engine,missing] at present; cases present
  | relock pc ran =>
    have opened := opened_of_flusher phase (by rw [pc]; nofun)
    have progress := valid.progress (forcedCommits_eq_nil opened.unforced)
    rw [pc] at progress
    refine stretch_preserved valid opened (relock_regular ran) (relock_progress ran progress) ?_
    intro _ resting
    rw [pc] at resting
    cases resting
  | send pc => exact send_preserved valid pc
  | flushSend pc => exact flushSend_preserved valid (opened_of_flusher phase (by rw [pc]; nofun)) pc
  | text pc live ran =>
    exact quiet_preserved valid unchanged silent_nil (handleJsonMessage_framed ran).engine_none
      (handleJsonMessage_transcripts ran) (.inl rfl) (receiver rfl)
  | binary pc live ran =>
    exact quiet_preserved valid unchanged silent_nil (handleBinaryMessage_framed ran).engine_none
      (handleBinaryMessage_transcripts ran) (.inl rfl) (receiver rfl)
  | accept pc =>
    exact quiet_preserved valid unchanged silent_nil id rfl (.inr ⟨by rw [start pc]; rfl,rfl⟩)
      (receiver rfl)
  | acquire pc =>
    exact quiet_preserved valid rfl (silent_acquired _) id rfl (.inl rfl) (receiver rfl)
  | release pc ran =>
    exact quiet_preserved valid rfl (silent_release ran) (releaseModel_none ran)
      (releaseModel_transcripts ran) (.inl rfl) (receiver rfl)
  | destroyRelease pc ran =>
    exact quiet_preserved valid rfl (silent_release ran) (releaseModel_none ran)
      (releaseModel_transcripts ran) (.inl rfl) (receiver rfl)
  | wake pc | exit pc | tryLockFails pc =>
    exact quiet_preserved valid unchanged silent_nil id rfl (.inr ⟨by rw [pc]; rfl,rfl⟩)
      (receiver rfl)
  | _ => exact quiet_preserved valid unchanged silent_nil id rfl (.inl rfl) (receiver rfl)

theorem runs_transcribed (path : Runs params (initial now) trace s)
    (few : configurations s.log ≤ 1) : Transcribed s := by
  have valid : configurations s.log ≤ 1 → Transcribed s :=
    path.history (I := fun _ s => configurations s.log ≤ 1 → Transcribed s)
      (C := fun _ _ => True) (fun _ _ => trivial) (fun _ => initial_transcribed now)
      (fun prior before _ one few => by
        obtain ⟨new,extended,_⟩ := log_step params one.2
        rw [extended,configurations_append] at few
        exact transcribed_preserved (runs_phase prior) (runs_handshake params prior)
          (before (by omega)) (by rw [extended,configurations_append]; exact few) one.2)
  exact valid few

-- Nothing is passed or forced after a forced commit.
theorem told_after (told : Machine.Justified Told (before ++ after))
    (forced : forcedCommits before ≠ []) : passes after = [] ∧ forcedCommits after = [] := by
  have later := (Machine.justified_append.mp told).2
  have never (event : Event) (present : event ∈ after)
      (kind : ∀ earlier, Told earlier event → forcedCommits earlier = []) : False := by
    obtain ⟨middle,rest,rfl⟩ := List.append_of_mem present
    have empty := kind _ (later middle event rest rfl)
    rw [forcedCommits_append,List.append_eq_nil_iff] at empty
    exact forced empty.1
  refine ⟨?_,?_⟩
  · rw [List.eq_nil_iff_forall_not_mem]
    intro result present
    obtain ⟨event,member,found⟩ := List.mem_filterMap.mp present
    cases event <;> cases found
    exact never _ member (fun _ told => told)
  · apply forcedCommits_eq_nil
    intro text present
    exact never _ present (fun _ told => told)

theorem finalPass_forced (opened : Opened s)
    (ran : s.session.handleEnd slot outcome = ⟨after,next,events⟩) (untimed : slot = false) :
    forcedCommits (s.log ++ events) = [[]] := by
  subst untimed
  have answer := s.session.handleEnd_timed_out outcome
  rw [ran] at answer
  rw [show events = [.forced []] from answer,forcedCommits_append,
    forcedCommits_eq_nil opened.unforced]
  rfl

theorem forced_step (phase : Phase s) (move : Move params s action next) :
    forcedCommits next.log = forcedCommits s.log ∨
    forcedCommits s.log = [] ∧ ∃ slot outcome, action = .finalPass slot outcome ∧
      (slot = false → forcedCommits next.log = [[]]) := by
  by_cases final : ∃ slot outcome, action = .finalPass slot outcome
  · obtain ⟨slot,outcome,rfl⟩ := final
    cases move with
    | finalPass pc ran =>
      have opened := opened_of_finalizing phase pc
      exact .inr ⟨forcedCommits_eq_nil opened.unforced,slot,outcome,rfl,finalPass_forced opened ran⟩
  · obtain ⟨new,extended,logged⟩ := log_step params move
    have nothing : forcedCommits new = [] := by
      apply forcedCommits_eq_nil
      intro text present
      exact final (finalPass_of_concluding rfl (logged _ present))
    rw [extended,forcedCommits_append,nothing,List.append_nil]
    exact .inl rfl

-- When the wait for a slot timed out, the forced commit is empty.
def TimedOut (trace : List (State × Action)) (s : State) : Prop :=
  ∀ t outcome, (t,.finalPass false outcome) ∈ trace → forcedCommits s.log = [[]]

theorem timed_out_preserved (phase : Phase s) (before : TimedOut past s)
    (move : Move params s action next) : TimedOut (past ++ [(s,action)]) next := by
  intro t outcome present
  rcases forced_step phase move with same | ⟨unforced,slot,answer,rfl,empty⟩
  · rcases List.mem_append.mp present with old | last
    · rw [same]; exact before t outcome old
    · obtain ⟨rfl,rfl⟩ := Prod.mk.inj (List.mem_singleton.mp last)
      cases move with
      | finalPass pc ran => exact finalPass_forced (opened_of_finalizing phase pc) ran rfl
  · rcases List.mem_append.mp present with old | last
    · rw [before t outcome old] at unforced; cases unforced
    · have taken := (Prod.mk.inj (List.mem_singleton.mp last)).2
      injection taken with timed
      exact empty timed.symm

theorem runs_timed_out (path : Runs params (initial now) trace s) : TimedOut trace s :=
  path.history (I := TimedOut) (C := fun _ _ => True) (fun _ _ => trivial)
    (fun _ _ present => absurd present List.not_mem_nil)
    (fun prior before _ one => timed_out_preserved (runs_phase prior) before one.2)

theorem finalText_eq (full raw : Text) : finalText full raw = if full ≠ [] then full else raw := by
  cases full with
  | nil => cases raw <;> rfl
  | cons => rfl

theorem filteredCommits_grow (before after : List Event) :
    filteredCommits (passes before) <+: filteredCommits (passes (before ++ after)) := by
  rw [passes_append,filteredCommits_append]
  exact List.prefix_append _ _

theorem prefix_finalText (shown : part <+: full) (forced raw : Text) :
    part <+: finalText (full ++ forced) raw := by
  rw [finalText_eq]
  split
  · exact shown.trans (List.prefix_append _ _)
  · rename_i empty
    have nothing : full = [] := (List.append_eq_nil_iff.mp (not_not.mp empty)).1
    rw [nothing] at shown
    rw [List.prefix_nil.mp shown]
    exact List.nil_prefix

theorem final_text_told (told : Machine.Justified Told log)
    (split : log = before ++ .sent (.transcription text true reason) :: after) :
    ∃ forced, forcedCommits log = [forced] ∧
      text = finalText (filteredCommits (passes log) ++ forced) (rawCommits (passes log)) := by
  obtain ⟨forced,alone,composed⟩ := told before _ after split
  rw [split] at told ⊢
  obtain ⟨no_pass,no_force⟩ := told_after told (by rw [alone]; nofun)
  rw [forcedCommits_append,no_force,passes_append,no_pass,List.append_nil,List.append_nil]
  exact ⟨forced,alone,composed⟩

theorem transcript_accumulates (path : Runs params (initial now) trace s)
    (once : configurations s.log = 1) :
    (∀ before text reason after, s.log = before ++ .sent (.transcription text true reason) :: after →
      ∃ forced, forcedCommits s.log = [forced] ∧
        (∀ t outcome, (t,.finalPass false outcome) ∈ trace → forced = []) ∧
        text = (if filteredCommits (passes s.log) ++ forced ≠ [] then
          filteredCommits (passes s.log) ++ forced else rawCommits (passes s.log)) ∧
        (text = [] → forced = [] ∧ ∀ result ∈ passes s.log, result.committedText = [])) ∧
    (∀ before text reason after, s.log = before ++ .sent (.transcription text false reason) :: after →
      (∃ earlier last, passes before = earlier ++ [last] ∧
        (text = filteredCommits (passes before) ++ last.partialText ∨
          text = filteredCommits (passes before))) ∧
      (∀ middle later reason' rest, after = middle ++ .sent (.transcription later false reason') :: rest →
        filteredCommits (passes before) <+:
          filteredCommits (passes (before ++ .sent (.transcription text false reason) :: middle))) ∧
      ∀ middle later reason' rest, after = middle ++ .sent (.transcription later true reason') :: rest →
        filteredCommits (passes before) <+: later) := by
  have told := (runs_transcribed path (Nat.le_of_eq once)).log
  refine ⟨?_,?_⟩
  · intro before text reason after split
    obtain ⟨forced,alone,composed⟩ := final_text_told told split
    rw [finalText_eq] at composed
    refine ⟨forced,alone,?_,composed,?_⟩
    · intro t outcome present
      rw [runs_timed_out path t outcome present] at alone
      exact (List.singleton_inj.mp alone).symm
    · intro empty
      rw [composed] at empty
      by_cases nothing : filteredCommits (passes s.log) ++ forced = []
      · rw [if_neg (not_not_intro nothing)] at empty
        exact ⟨(List.append_eq_nil_iff.mp nothing).2,List.flatMap_eq_nil_iff.mp empty⟩
      · rw [if_pos nothing] at empty
        exact absurd empty nothing
  · intro before text reason after split
    refine ⟨?_,?_,?_⟩
    · obtain ⟨earlier,last,results,shown⟩ := told before _ after split
      refine ⟨earlier,last,results,?_⟩
      rw [shown,filtered]
      split
      · exact .inl rfl
      · exact .inr (List.append_nil _)
    · intro middle later reason' rest _
      exact filteredCommits_grow _ _
    · intro middle later reason' rest tail
      have position : s.log = (before ++ .sent (.transcription text false reason) :: middle) ++
          .sent (.transcription later true reason') :: rest := by
        rw [split,tail,List.append_assoc]
        rfl
      obtain ⟨forced,_,composed⟩ := told _ _ rest position
      rw [composed]
      exact prefix_finalText (filteredCommits_grow _ _) forced _

-- A configured session that has taken audio and made passes.
def midState (received last : Nat) (full raw : Text) (log : List Event) (engine : StreamingWhisperEngine) :
    State :=
  { configuredState with
    session := { configuredState.session with
      bytesReceivedInWindow := received
      lastTranscribedSize := last
      fullTranscription := full
      rawTranscription := raw
      engine := some ⟨0,engine⟩ }
    log := configuredState.log ++ log }

-- Its next frame, of the first rate-limit window.
theorem mid_frame {engine : StreamingWhisperEngine} (samples : Nat) (ungated : engine.vadGate = none)
    (room : engine.getBufferSize + samples < StreamingWhisperEngine.highWaterMark) (some_samples : 0 < samples)
    (bounded : 4 * samples ≤ maxFrameBytes) :
    ∃ longer, Move defaultParams (midState received last full raw log engine) (.binary (frame samples))
        (midState (received + 4 * samples) last full raw log longer) ∧
      longer.vadGate = none ∧ longer.getBufferSize = engine.getBufferSize + samples := by
  obtain ⟨longer,taken,same,size⟩ := frame_taken defaultParams (midState received last full raw log engine)
    samples rfl rfl rfl rfl (show engine.getBufferSize < _ by omega) some_samples bounded
    (show (0 : Int).tdiv (seconds 1) < 3 by decide)
  refine ⟨longer,taken,same.trans ungated,size.trans (Nat.min_eq_right (room.le.trans (by decide)))⟩

def hears (segments : List Segment) : Outcome := ⟨⟨true,some []⟩,.decoded segments none⟩

def passEvents (result : TranscribeResult) : List Event :=
  [.dereferenced 0 (some 0),.pass result,.dereferenced 0 (some 0)]

-- Its next pass, of which three seconds are committed.
theorem mid_pass {engine : StreamingWhisperEngine} (rest : Nat) (ungated : engine.vadGate = none)
    (size : engine.getBufferSize = 48000 + rest) (more : 0 < rest)
    (due : triggered defaultParams (midState received last full raw log engine).session engine.getBufferSize 0 = true)
    (decided : StreamingWhisperEngine.commit none false engine.getBufferSize engine.getBufferSize segments =
      (result,.front 48000))
    (committed : result.committedText.isEmpty = false) :
    ∃ used, used.vadGate = none ∧ used.getBufferSize = rest ∧
      Move defaultParams { midState received last full raw log engine with flusher := .awake }
        (.cycle true (hears segments))
        { midState received rest (full ++ filtered result.committedText)
            (raw ++ result.committedText) (log ++ passEvents result) used with
          flusher :=
            if showable result.committedText || showable result.partialText then
              .sending (.transcription (full ++ filtered result.committedText ++ filtered result.partialText)
                false none) .finish
            else .waiting } := by
  let used := { engine with audioBuffer := (Erase.front 48000).apply engine.audioBuffer }
  have passed : engine.transcribeSlidingWindow false (hears segments) = (used,.ok result) :=
    StreamingWhisperEngine.transcribeSlidingWindow_ungated ungated (by omega) rfl decided
  have cut : used.audioBuffer = engine.audioBuffer.drop 48000 :=
    if_pos (show 48000 < engine.getBufferSize by omega)
  have left : used.getBufferSize = rest := by
    rw [StreamingWhisperEngine.getBufferSize,cut,List.length_drop,← StreamingWhisperEngine.getBufferSize,size]
    omega
  refine ⟨used,ungated,left,?_⟩
  have moved := cycle_passed defaultParams { midState received last full raw log engine with flusher := .awake }
    rfl rfl rfl rfl rfl rfl due passed
  simpa [accumulate,committed,midState,passEvents,bufferSize,left] using moved

-- A session of two frames of ten seconds. The first pass commits three seconds
-- and shows a partial, what the second commits is filtered out, and the commit of
-- handleEnd is the rest.
def opening : List Segment := [⟨some (bytes "hola"),300⟩,⟨some (bytes " que"),900⟩]
def repetition : List Segment := [⟨some (bytes " si si si si"),300⟩]
def farewell : List Segment := [⟨some (bytes " adios"),200⟩]

def openingLog : List Event :=
  passEvents ⟨bytes " que",bytes "hola"⟩ ++ [.sent (.transcription (bytes "hola que") false none)]

def repetitionLog : List Event := openingLog ++ passEvents ⟨[],bytes " si si si si"⟩

theorem opening_run : ∃ half trace, half.vadGate = none ∧ half.getBufferSize = 112000 ∧
    trace.map Prod.snd = configSchedule ++
      [.binary (frame 160000),.wake,.cycle true (hears opening),.flushSend,.relock silence] ∧
    Runs defaultParams (initial 0) trace
      (midState 640000 112000 (bytes "hola") (bytes "hola") openingLog half) := by
  obtain ⟨same,path⟩ := config_run
  obtain ⟨first,taken,ungated,size⟩ := frame_taken defaultParams configuredState
    160000 rfl rfl rfl rfl (by decide) (by decide) (by decide) (by decide)
  replace size : first.getBufferSize = 160000 := size.trans (by decide)
  have due : triggered defaultParams (midState 640000 0 [] [] [] first).session first.getBufferSize 0 = true := by
    rw [size]
    rfl
  have kept : StreamingWhisperEngine.commit none false first.getBufferSize first.getBufferSize opening =
      (⟨bytes " que",bytes "hola"⟩,.front 48000) := by
    rw [size]
    decide +kernel
  obtain ⟨half,half_ungated,half_size,passed⟩ := mid_pass 112000 ungated size (by decide) due kept rfl
  have shown : filtered (bytes "hola") = bytes "hola" ∧ filtered (bytes " que") = bytes " que" ∧
      showable (bytes "hola") = true := by
    decide +kernel
  rw [shown.1,shown.2.1,shown.2.2] at passed
  let told : State :=
    { midState 640000 112000 (bytes "hola") (bytes "hola") (passEvents ⟨bytes " que",bytes "hola"⟩) half with
      flusher := .sending (.transcription (bytes "hola que") false none) .finish }
  obtain ⟨late,late_same,shows⟩ := run_sound defaultParams
    (show run defaultParams told [.flushSend,.relock silence] =
      some (midState 640000 112000 (bytes "hola") (bytes "hola") openingLog half) from rfl)
  refine ⟨half,_,half_ungated,half_size,?_,
    (((path.step ⟨rfl,taken⟩).step ⟨rfl,.wake rfl rfl⟩).step ⟨rfl,passed⟩).append shows⟩
  simp [same,late_same]

theorem repetition_run (half_ungated : half.vadGate = none) (half_size : half.getBufferSize = 112000) :
    ∃ last trace, last.vadGate = none ∧ last.getBufferSize = 224000 ∧
      trace.map Prod.snd = [.binary (frame 160000),.wake,.cycle true (hears repetition)] ∧
      Runs defaultParams (midState 640000 112000 (bytes "hola") (bytes "hola") openingLog half) trace
        (midState (640000 + 4 * 160000) 224000 (bytes "hola") (bytes "hola si si si si") repetitionLog last) := by
  have room : half.getBufferSize + 160000 < StreamingWhisperEngine.highWaterMark := by
    rw [half_size]
    decide
  obtain ⟨longer,taken,ungated,size⟩ := mid_frame 160000 half_ungated room (by decide) (by decide)
  rw [half_size] at size
  have due : triggered defaultParams (midState (640000 + 4 * 160000) 112000 (bytes "hola") (bytes "hola")
      openingLog longer).session longer.getBufferSize 0 = true := by
    rw [size]
    rfl
  have skipped : StreamingWhisperEngine.commit none false longer.getBufferSize longer.getBufferSize repetition =
      (⟨[],bytes " si si si si"⟩,.front 48000) := by
    rw [size]
    decide +kernel
  obtain ⟨last,last_ungated,last_size,passed⟩ := mid_pass 224000 ungated size (by decide) due skipped rfl
  have hidden : filtered (bytes " si si si si") = [] ∧ showable (bytes " si si si si") = false ∧
      showable [] = false := by
    decide +kernel
  rw [hidden.1,hidden.2.1,hidden.2.2] at passed
  exact ⟨last,_,last_ungated,last_size,rfl,
    ((Machine.Runs.single ⟨rfl,taken⟩).step ⟨rfl,.wake rfl rfl⟩).step ⟨rfl,passed⟩⟩

theorem transcript_accumulates_passes : ∃ trace s before,
    trace.map Prod.snd = configSchedule ++ [.binary (frame 160000),.wake,.cycle true (hears opening),.flushSend,
      .relock silence,.binary (frame 160000),.wake,.cycle true (hears repetition),.text endPayload emptyView,
      .exit,.join,.finalPass true (hears farewell),.send] ∧
    Runs defaultParams (initial 0) trace s ∧
    passes s.log = [⟨bytes " que",bytes "hola"⟩,⟨[],bytes " si si si si"⟩] ∧
    s.log = before ++ [.sent (.transcription (bytes "hola adios") true none)] ∧
    ∃ forced, forcedCommits s.log = [forced] ∧
      bytes "hola adios" = (if filteredCommits (passes s.log) ++ forced ≠ [] then
        filteredCommits (passes s.log) ++ forced else rawCommits (passes s.log)) := by
  obtain ⟨half,early,half_ungated,half_size,early_same,opens⟩ := opening_run
  obtain ⟨last,middle,ungated,size,middle_same,repeats⟩ := repetition_run half_ungated half_size
  let heard := midState (640000 + 4 * 160000) 224000 (bytes "hola") (bytes "hola si si si si") repetitionLog last
  let waited : State :=
    { heard with session := heard.session.stopFlushLoop, receiver := .finalizing, flusher := .exited }
  obtain ⟨late,late_same,waits⟩ := run_sound defaultParams
    (show run defaultParams heard [.text endPayload emptyView,.exit,.join] = some waited from rfl)
  have rest : StreamingWhisperEngine.commit none true last.getBufferSize last.getBufferSize farewell =
      (⟨[],bytes " adios"⟩,.all) := by
    rw [size]
    decide +kernel
  have forced : last.transcribeSlidingWindow true (hears farewell) = _ :=
    StreamingWhisperEngine.transcribeSlidingWindow_ungated ungated (by omega) rfl rest
  have answered : waited.session.handleEnd true (hears farewell) =
      ⟨{ waited.session with
          engine := some ⟨0,{ last with audioBuffer := Erase.all.apply last.audioBuffer }⟩
          fullTranscription := bytes "hola adios" },
        .sending [.transcription (bytes "hola adios") true none] (.close .final),[.forced (bytes " adios")]⟩ := by
    show StreamingSession.handleEnd { waited.session with engine := some ⟨0,last⟩ } true _ = _
    simp only [StreamingSession.handleEnd,forced,if_true]
    rfl
  let before := configuredState.log ++ repetitionLog ++ [.forced (bytes " adios")]
  have whole := (((opens.append repeats).append waits).step ⟨rfl,.finalPass rfl answered⟩).step ⟨rfl,.send rfl⟩
  have once : configurations (before ++ [.sent (.transcription (bytes "hola adios") true none)]) = 1 := rfl
  obtain ⟨added,alone,_,text,_⟩ := (transcript_accumulates whole once).1 before _ none [] rfl
  refine ⟨_,_,before,?_,whole,rfl,rfl,added,alone,text⟩
  simp [early_same,middle_same,late_same]

end JotaTranscriber.Transcript

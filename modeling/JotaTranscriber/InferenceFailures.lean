import JotaTranscriber.FinalMessage

namespace JotaTranscriber.InferenceFailures
open SessionMachine StreamingSession FlushLoop FinalMessage

-- A step that runs a pass which throws: a flush cycle that is due, has a slot
-- and is not held up by a busy phase, the pass after such a phase, or the
-- forced pass of handleEnd.
def failing (params : SessionParams) (s : State) : Action → Bool
  | .cycle slot outcome =>
    match s.session.engine with
    | some owned => s.session.configured &&
      triggered params s.session owned.engine.getBufferSize s.clock && slot &&
      !s.session.capacityDegraded && owned.engine.throws outcome
    | none => false
  | .relock outcome =>
    match s.flusher,s.session.engine with
    | .relocking (.infer _ _),some owned => owned.engine.throws outcome
    | _,_ => false
  | .finalPass slot outcome =>
    match s.session.engine with
    | some owned => slot && owned.engine.throws outcome
    | none => false
  | _ => false

def crashed : Flusher → Bool
  | .crashed _ => true
  | _ => false

theorem accumulate_not_crashed (session : StreamingSession) (cycleEngine currentSize : Nat)
    (result : TranscribeResult) :
    crashed (accumulate session cycleEngine currentSize result).next = false := by
  rcases accumulate_next session cycleEngine currentSize result with waits | ⟨faults,_⟩ | sends
  · rw [waits]; rfl
  · rw [faults]; rfl
  · rw [sends]; rfl

theorem afterPass_not_crashed (session : StreamingSession) (owned : OwnedEngine)
    (cycleEngine currentSize : Nat) (result : TranscribeResult) :
    crashed (afterPass session owned cycleEngine currentSize result).next = false := by
  rcases afterPass_cases session owned cycleEngine currentSize result with
    ⟨_,_,_,_,opened,_⟩ | ⟨_,_,_,direct⟩
  · rw [opened]; rfl
  · rw [direct]; exact accumulate_not_crashed session cycleEngine currentSize result

theorem inferPass_crashed (session : StreamingSession) (cycleEngine currentSize : Nat)
    (outcome : Outcome) :
    crashed (inferPass session cycleEngine currentSize outcome).next =
      match session.engine with
      | some owned => owned.engine.throws outcome
      | none => false := by
  rcases inferPass_cases session cycleEngine currentSize outcome with
    ⟨missing,faults⟩ | ⟨owned,used,present,⟨error,answer,fails⟩ | ⟨result,answer,passed⟩⟩
  · rw [faults,missing]; rfl
  · have thrown := (owned.engine.transcribeSlidingWindow_throws false outcome).mp
      ⟨error,by rw [answer]⟩
    rw [fails,present]
    exact thrown.symm
  · have returned : owned.engine.throws outcome = false := by
      rw [← Bool.not_eq_true,← owned.engine.transcribeSlidingWindow_throws false outcome,answer]
      rintro ⟨error,impossible⟩
      cases impossible
    rw [passed,present]
    exact (afterPass_not_crashed _ _ _ _ _).trans returned.symm

theorem cycle_crashed (s : State) (ran : cycle params s.session s.clock slot outcome = done) :
    crashed done.next = failing params s (.cycle slot outcome) := by
  subst ran
  have cases_of := cycle_cases params s.session s.clock slot outcome
  simp only [watchdog_engine,watchdog_configured,watchdog_capacityDegraded,triggered_watchdog] at cases_of
  rcases cases_of with
    ⟨quiet,blocked⟩ | ⟨owned,present,ready,due,⟨rfl,_,busy⟩ | ⟨_,degraded,free⟩ | ⟨rfl,calm,direct⟩⟩
  · rw [quiet]
    cases present : s.session.engine with
    | none => simp [failing,present,crashed]
    | some owned =>
      by_cases runs : s.session.configured = true ∧
          triggered params s.session owned.engine.getBufferSize s.clock = true
      · simp [failing,present,crashed,blocked owned present runs.1 runs.2]
      · have skipped : (s.session.configured &&
            triggered params s.session owned.engine.getBufferSize s.clock) = false := by
          rw [← Bool.not_eq_true,Bool.and_eq_true]
          exact runs
        simp [failing,present,crashed,skipped]
  · rw [busy]; simp [failing,present,crashed]
  · rw [free]; simp [failing,present,degraded,crashed]
  · rw [direct,inferPass_crashed,watchdog_engine,present]
    simp [failing,present,ready,due,calm]

theorem relock_crashed (params : SessionParams) (s : State) (pc : s.flusher = .relocking continuation)
    (ran : relock s.session outcome continuation = done) :
    crashed done.next = failing params s (.relock outcome) := by
  subst ran
  cases continuation with
  | infer cycleEngine currentSize =>
    rw [relock,inferPass_crashed]
    simp only [failing,pc]
    cases s.session.engine <;> rfl
  | clear cycleEngine currentSize result =>
    rw [relock,accumulate_not_crashed]
    simp [failing,pc]
  | skip | resume | finish => simp [relock,failing,pc,crashed]

def FinalFailed (log : List Event) : Prop := ∃ error, .finalFailed error ∈ log

theorem handleEnd_failed (params : SessionParams) (s : State)
    (ran : s.session.handleEnd slot outcome = ⟨after,next,events⟩) :
    FinalFailed events ↔ failing params s (.finalPass slot outcome) = true := by
  unfold handleEnd at ran
  cases present : s.session.engine with
  | none =>
    simp only [present,Finalized.mk.injEq] at ran
    obtain ⟨_,_,rfl⟩ := ran
    simp [FinalFailed,failing,present]
  | some owned =>
    have throws := owned.engine.transcribeSlidingWindow_throws true outcome
    cases slot with
    | false =>
      simp only [present,Bool.false_eq_true,if_false,Finalized.mk.injEq] at ran
      obtain ⟨_,_,rfl⟩ := ran
      simp [FinalFailed,failing,present]
    | true =>
      rcases answer : owned.engine.transcribeSlidingWindow true outcome with ⟨used,reply⟩
      rw [answer] at throws
      simp only [present,if_true,answer] at ran
      cases reply with
      | error error =>
        cases ran
        simp [FinalFailed,failing,present,← throws]
      | ok result =>
        cases ran
        simp [FinalFailed,failing,present,← throws]

theorem finalFailed_append : FinalFailed (log ++ new) ↔ FinalFailed log ∨ FinalFailed new := by
  constructor
  · rintro ⟨error,present⟩
    rcases List.mem_append.mp present with old | last
    · exact .inl ⟨error,old⟩
    · exact .inr ⟨error,last⟩
  · rintro (⟨error,old⟩ | ⟨error,last⟩)
    · exact ⟨error,List.mem_append_left _ old⟩
    · exact ⟨error,List.mem_append_right _ last⟩

theorem finalFailed_step (move : Move params s action next)
    (other : isFinalPass action = false) : FinalFailed next.log ↔ FinalFailed s.log := by
  obtain ⟨new,extended,logged⟩ := log_step params move
  have silent : ¬ FinalFailed new := by
    rintro ⟨error,present⟩
    obtain ⟨slot,outcome,rfl⟩ := finalPass_of_concluding rfl (logged _ present)
    cases other
  rw [extended,finalFailed_append,or_iff_left silent]

theorem alive_not_crashed (alive : flusher.alive = true) : crashed flusher = false := by
  cases flusher with
  | crashed => cases alive
  | _ => rfl

-- A pass that throws in a step is seen at once: the process is gone or the
-- handler of 'end' has been left.
def Failed (s : State) : Prop := crashed s.flusher = true ∨ FinalFailed s.log

theorem failed_step (one : Step params s action next) :
    Failed next ↔ Failed s ∨ failing params s action = true := by
  obtain ⟨alive,move⟩ := one
  have calm := alive_not_crashed alive
  have same := finalFailed_step move
  have quiet (waits : crashed next.flusher = false) (unfinal : isFinalPass action = false)
      (other : failing params s action = false) : Failed next ↔ Failed s ∨ failing params s action = true := by
    simp [Failed,waits,calm,other,same unfinal]
  cases move with
  | cycle pc ran =>
    have kept := same rfl
    simp only [Failed,calm,kept,← cycle_crashed s ran,Bool.false_eq_true,false_or,or_comm]
  | relock pc ran =>
    have kept := same rfl
    simp only [Failed,calm,kept,← relock_crashed params s pc ran,Bool.false_eq_true,false_or,or_comm]
  | finalPass pc ran =>
    simp [Failed,calm,finalFailed_append,← handleEnd_failed params s ran]
  | accept | wake | exit | tryLockFails | flushSend => exact quiet rfl rfl rfl
  | _ => exact quiet calm rfl rfl

theorem runs_failed (path : Runs params (initial now) trace s) :
    Failed s ↔ ∃ entry ∈ trace, failing params entry.1 entry.2 = true := by
  refine path.history (I := fun trace s => Failed s ↔ ∃ entry ∈ trace, failing params entry.1 entry.2 = true)
    (C := fun _ _ => True) (fun _ _ => trivial) (by simp [Failed,initial,crashed,FinalFailed]) ?_
  intro past s action next _ before _ one
  rw [failed_step one,before]
  constructor
  · rintro (⟨entry,present,failed⟩ | failed)
    · exact ⟨entry,List.mem_append_left _ present,failed⟩
    · exact ⟨(s,action),by simp,failed⟩
  · rintro ⟨entry,present,failed⟩
    rcases List.mem_append.mp present with old | last
    · exact .inl ⟨entry,old,failed⟩
    · cases List.mem_singleton.mp last
      exact .inr failed

-- After a failure in handleEnd the receive thread only leaves run(), and the
-- flush thread has already ended: nothing is sent any more.
structure Abandoned (s : State) : Prop where
  flusher : s.flusher = .exited
  receiver : leaving s.receiver = true
  sent : NoFinal (sentMessages s.log)

theorem abandoned_preserved (abandoned : Abandoned s) (move : Move params s action next) :
    Abandoned next := by
  obtain ⟨ended,leaves,sent⟩ := abandoned
  have still := halted_step params (by rw [ended]; rfl) move
  cases move with
  | tick => exact ⟨ended,leaves,sent⟩
  | release pc ran =>
    refine ⟨ended,rfl,?_⟩
    rcases releaseModel_events ran with rfl | rfl <;> simpa [sentMessages] using sent
  | destroy => exact ⟨ended,rfl,sent⟩
  | destroyJoin => exact ⟨ended,rfl,sent⟩
  | destroyRelease pc ran =>
    refine ⟨ended,rfl,?_⟩
    rcases releaseModel_events ran with rfl | rfl <;> simpa [sentMessages] using sent
  | wake | exit | tryLockFails | cycle | flushSend | relock => cases still
  | accept pc | acceptFails pc | text pc | binary pc | readFails pc | send pc | close pc | acquire pc
  | acquireFails pc | install pc | installFails pc | join pc | finalPass pc =>
    rw [pc] at leaves; cases leaves

theorem finalFailed_abandons (phase : Phase s) (before : FinalFailed s.log → Abandoned s)
    (move : Move params s action next) (failed : FinalFailed next.log) : Abandoned next := by
  by_cases already : FinalFailed s.log
  · exact abandoned_preserved (before already) move
  · obtain ⟨new,extended,logged⟩ := log_step params move
    rw [extended] at failed
    obtain ⟨error,present⟩ := (finalFailed_append.mp failed).resolve_left already
    obtain ⟨slot,outcome,rfl⟩ := finalPass_of_concluding rfl (logged _ present)
    cases move with
    | finalPass pc ran =>
      have opened := opened_of_finalizing phase pc
      cases List.append_cancel_left extended
      rcases handleEnd_cases ran with ⟨_,rfl,rfl,_⟩ | ⟨_,_,_,rfl,_⟩
      · exact ⟨opened.joined pc,rfl,by simpa [sentMessages] using opened.sent⟩
      · cases List.mem_singleton.mp present

theorem runs_abandoned (path : Runs params (initial now) trace s) (failed : FinalFailed s.log) :
    Abandoned s := by
  have valid : FinalFailed s.log → Abandoned s :=
    path.history (I := fun _ s => FinalFailed s.log → Abandoned s) (C := fun _ _ => True)
      (fun _ _ => trivial) (fun ⟨_,impossible⟩ => by cases impossible)
      (fun prior before _ one failed => finalFailed_abandons (runs_phase prior) before one.2 failed)
  exact valid failed

-- No exception left the flush thread, and a failure while 'end' was handled
-- still gave the client one final message with the committed text. Nothing is
-- sent after such a failure, so the question may be asked in any later state.
structure Contained (s : State) : Prop where
  flusher : ∀ error, s.flusher ≠ .crashed error
  ended : ∀ error, .finalFailed error ∈ s.log → ∃ reason,
    (sentMessages s.log).filter ServerMessage.isFinal =
      [.transcription s.session.fullTranscription true reason]

theorem failures_contained_iff (path : Runs params (initial now) trace s) :
    Contained s ↔ ∀ entry ∈ trace, failing params entry.1 entry.2 = false := by
  have exact_failures := runs_failed path
  constructor
  · intro contained entry present
    by_contra thrown
    rcases exact_failures.mpr ⟨entry,present,by simpa using thrown⟩ with gone | ⟨error,logged⟩
    · cases pc : s.flusher with
      | crashed error => exact contained.flusher error pc
      | _ => rw [pc] at gone; cases gone
    · obtain ⟨reason,sent⟩ := contained.ended error logged
      have silent := (runs_abandoned path ⟨error,logged⟩).sent
      have member : .transcription s.session.fullTranscription true reason ∈
          (sentMessages s.log).filter ServerMessage.isFinal := by rw [sent]; simp
      cases silent _ (List.mem_filter.mp member).1
  · intro calm
    have fine : ¬ Failed s := by
      intro failed
      obtain ⟨entry,present,thrown⟩ := exact_failures.mp failed
      rw [calm entry present] at thrown
      cases thrown
    refine ⟨?_,?_⟩
    · intro error pc
      exact fine (.inl (by rw [pc]; rfl))
    · intro error logged
      exact absurd (.inr ⟨error,logged⟩) fine

def endSchedule (outcome : Outcome) : List Action :=
  configSchedule ++ [.binary (frame 1),.text endPayload emptyView,.exit,.join,.finalPass true outcome]

theorem failures_contained_iff_quiet_end : ∃ trace s, Runs defaultParams (initial 0) trace s ∧
    (∀ entry ∈ trace, failing defaultParams entry.1 entry.2 = false) ∧
    sentMessages s.log =
      [readyMessage defaultParams (create 0),.transcription [] true none] ∧ Contained s := by
  have replayed : (runGuarded defaultParams (fun s action => !failing defaultParams s action) (initial 0)
      (endSchedule silence ++ [.send])).map (fun s => sentMessages s.log) =
      some [readyMessage defaultParams (create 0),.transcription [] true none] := by decide +kernel
  obtain ⟨s,ran,sent⟩ := Option.map_eq_some_iff.mp replayed
  obtain ⟨trace,_,path,calm⟩ := runGuarded_sound defaultParams ran
  have quiet : ∀ entry ∈ trace, failing defaultParams entry.1 entry.2 = false :=
    fun entry present => by simpa using calm entry present
  exact ⟨trace,s,path,quiet,sent,(failures_contained_iff path).mpr quiet⟩

def whisperFails : Outcome := ⟨⟨true,some []⟩,.failed (-6)⟩

theorem whisper_failure_escapes :
    (∃ trace s, trace.map Prod.snd = configSchedule ++ [.binary (frame 32000),.wake,.cycle true whisperFails] ∧
      Runs defaultParams (initial 0) trace s ∧ s.flusher = .crashed (.whisperFailed (-6)) ∧ ¬ Contained s) ∧
    ∃ trace s, trace.map Prod.snd = endSchedule whisperFails ++
        [.release,.destroy,.destroyJoin,.destroyRelease] ∧
      Runs defaultParams (initial 0) trace s ∧ s.receiver = .destroyed ∧
      sentMessages s.log = [readyMessage defaultParams (create 0)] ∧ ¬ Contained s := by
  refine ⟨?_,?_⟩
  · obtain ⟨longer,trace,size,ungated,heard,path,_⟩ := awake_run (fun _ _ => true) rfl rfl (fun _ => rfl)
    let awake := awakeState longer
    rcases ran : cycle defaultParams awake.session awake.clock true whisperFails with ⟨session,next,events⟩
    have passes : Step defaultParams awake (.cycle true whisperFails) { awake with
        session := session, flusher := next, log := awake.log ++ events } := ⟨rfl,.cycle rfl ran⟩
    have fails : longer.transcribeSlidingWindow false whisperFails =
        (longer,.error (.whisperFailed (-6))) := by
      have filled : longer.audioBuffer ≠ [] := List.ne_nil_of_length_pos (by
        rw [show longer.audioBuffer.length = 32000 from size]; decide)
      simp [StreamingWhisperEngine.transcribeSlidingWindow,StreamingWhisperEngine.infer,filled,ungated,
        whisperFails]
    have gone : next = .crashed (.whisperFailed (-6)) := by
      have passed := ran.symm.trans (heard_pass longer size whisperFails)
      rw [show next = _ from congrArg Flushed.next passed]
      simp [inferPass,heardState,fails]
    refine ⟨_,_,?_,path.step passes,gone,?_⟩
    · simp [heard]
    · intro contained
      exact contained.flusher _ gone
  · have replayed : (run defaultParams (initial 0) (endSchedule whisperFails ++
        [.release,.destroy,.destroyJoin,.destroyRelease])).map (fun s => (s.receiver,s.log)) =
        some (.destroyed,[.acquired 0,.configured 0,.sent (readyMessage defaultParams (create 0)),
          .finalFailed (.whisperFailed (-6)),.released]) := by decide +kernel
    obtain ⟨s,ran,ended⟩ := Option.map_eq_some_iff.mp replayed
    obtain ⟨pc,logged⟩ := Prod.mk.inj ended
    obtain ⟨trace,actions,path⟩ := run_sound defaultParams ran
    refine ⟨trace,s,actions,path,pc,by rw [logged]; rfl,?_⟩
    intro contained
    obtain ⟨reason,sent⟩ := contained.ended (.whisperFailed (-6)) (by rw [logged]; simp)
    rw [logged] at sent
    cases sent

end JotaTranscriber.InferenceFailures

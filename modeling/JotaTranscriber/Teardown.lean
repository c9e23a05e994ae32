import JotaTranscriber.WireProtocol
import JotaTranscriber.SessionHandler

-- The way to the end of a session, from wherever its two threads are.
namespace JotaTranscriber.Teardown
open SessionMachine StreamingSession

-- The rest of a cycle goes through engine_ again.
def rereads : Continuation → Bool
  | .infer .. => true
  | .resume _ _ result | .clear _ _ result => !result.committedText.isEmpty
  | .skip | .finish => false

-- run() has let the engine go under a cycle that is in a window, and that will
-- not get past the dereference after it.
def doomed (s : State) : Bool :=
  s.session.engine.isNone &&
    match s.flusher with
    | .sending _ next | .relocking next => rereads next
    | _ => false

structure Orderly (s : State) : Prop where
  stopped : s.receiver = .joining ∨ s.receiver = .destroying → s.session.flushRunning = false
  started : s.flusher = .notStarted → s.receiver = .handshake ∨ leaving s.receiver = true
  joined : s.receiver = .releasing ∨ s.receiver = .destroyed → joinable s.flusher = true
  sends : s.receiver ≠ .sending [] next

variable (params : SessionParams)

def closes (s : State) : Prop :=
  ∃ later after, Runs params s later after ∧ after.receiver = .destroyed

variable {s next : State} {action : Action}

theorem initial_orderly (now : Instant) : Orderly (initial now) where
  stopped := nofun
  started := fun _ => .inl rfl
  joined := nofun
  sends := nofun

theorem refusal_sends (refusal : Refusal receiver) : receiver ≠ .sending [] after := by
  obtain ⟨_,_,_,rfl,_⟩ := refusal
  nofun

theorem sendThen_sends (messages : List ServerMessage) (last : AfterSend) :
    sendThen messages last ≠ .sending [] after := by
  cases messages <;> cases last <;> nofun

theorem afterClose_sends (kind : CloseKind) (failed : Option Text) :
    afterClose kind failed ≠ .sending [] after := by
  cases kind <;> cases failed <;> nofun

def within : Receiver → Bool
  | .reading | .sending .. | .closing _ | .acquiring | .configuring _ | .finalizing => true
  | _ => false

theorem within_answering (answers : answering receiver = true) : within receiver = true := by
  cases receiver <;> first | rfl | cases answers

theorem Orderly.within (orderly : Orderly s) (past : s.receiver ≠ .handshake)
    (here : leaving s.receiver = false) (inside : within next.receiver = true)
    (sends : ∀ after, next.receiver ≠ .sending [] after) (same : next.flusher = s.flusher) :
    Orderly next where
  stopped := by
    rintro (pc | pc)
    all_goals rw [pc] at inside; cases inside
  started unstarted := by
    rcases orderly.started (same.symm.trans unstarted) with early | gone
    · exact absurd early past
    · rw [here] at gone; cases gone
  joined := by
    rintro (pc | pc)
    all_goals rw [pc] at inside; cases inside
  sends := sends _

theorem Orderly.leaves (pc : next.receiver = .unwinding ∨ next.receiver = .returned) : Orderly next where
  stopped := by rcases pc with pc | pc <;> rw [pc] <;> nofun
  started := fun _ => .inr (by rcases pc with pc | pc <;> rw [pc] <;> rfl)
  joined := by rcases pc with pc | pc <;> rw [pc] <;> nofun
  sends := by rcases pc with pc | pc <;> rw [pc] <;> nofun

theorem Orderly.flushed (orderly : Orderly s) (running : joinable s.flusher = false)
    (same : next.receiver = s.receiver) (steady : next.session.flushRunning = s.session.flushRunning)
    (begun : next.flusher ≠ .notStarted) : Orderly next where
  stopped pc := steady.trans (orderly.stopped (by rwa [same] at pc))
  started unstarted := absurd unstarted begun
  joined pc := by
    have ended := orderly.joined (by rwa [same] at pc)
    rw [running] at ended
    cases ended
  sends := by rw [same]; exact orderly.sends

theorem parked_begun (parked : FlushLoop.parked flusher) : flusher ≠ .notStarted := by
  rintro rfl
  exact parked

theorem orderly_preserved (orderly : Orderly s) (move : Move params s action next) : Orderly next := by
  cases move with
  | tick => exact ⟨orderly.stopped,orderly.started,orderly.joined,orderly.sends⟩
  | accept => exact ⟨nofun,nofun,nofun,nofun⟩
  | acceptFails | readFails | release => exact .leaves (by simp)
  | text pc live ran =>
    rcases handleJsonMessage_cases ran with ⟨_,refusal⟩ | ⟨_,_,rfl,_⟩ | ⟨rfl,rfl,_⟩ | ⟨_,rfl⟩
    · exact orderly.within (by rw [pc]; nofun) (by rw [pc]; rfl)
        (within_answering (answering_refusal refusal)) (fun _ => refusal_sends refusal) rfl
    · exact orderly.within (by rw [pc]; nofun) (by rw [pc]; rfl) rfl nofun rfl
    · refine ⟨fun _ => rfl,fun unstarted => ?_,nofun,nofun⟩
      rcases orderly.started unstarted with early | gone
      · rw [pc] at early; cases early
      · rw [pc] at gone; cases gone
    · exact .leaves (.inl rfl)
  | binary pc live ran =>
    have past : s.receiver ≠ .handshake := by rw [pc]; nofun
    have here : leaving s.receiver = false := by rw [pc]; rfl
    obtain ⟨_,_,_,⟨_,rfl | rfl | ⟨rfl,_⟩⟩ | ⟨_,_,_,_,rfl⟩⟩ := handleBinaryMessage_cases ran
    · exact orderly.within past here rfl nofun rfl
    · exact orderly.within past here rfl nofun rfl
    · exact orderly.within past here rfl nofun rfl
    · exact orderly.within past here (within_answering (answering_sendThen _ _))
        (fun _ => sendThen_sends _ _) rfl
  | send pc =>
    exact orderly.within (by rw [pc]; nofun) (by rw [pc]; rfl)
      (within_answering (answering_sendThen _ _)) (fun _ => sendThen_sends _ _) rfl
  | close pc =>
    exact orderly.within (by rw [pc]; nofun) (by rw [pc]; rfl)
      (within_answering (answering_afterClose _ _)) (fun _ => afterClose_sends _ _) rfl
  | acquire pc | acquireFails pc | install pc | installFails pc | join pc =>
    exact orderly.within (by rw [pc]; nofun) (by rw [pc]; rfl) rfl nofun rfl
  | finalPass pc ran =>
    rcases handleEnd_cases ran with ⟨_,rfl,_⟩ | ⟨_,_,_,_,_,_,rfl⟩
    · exact .leaves (.inl rfl)
    · exact orderly.within (by rw [pc]; nofun) (by rw [pc]; rfl) rfl nofun rfl
  | destroy pc => exact ⟨fun _ => rfl,fun _ => .inr rfl,nofun,nofun⟩
  | destroyJoin pc ended => exact ⟨nofun,fun _ => .inr rfl,fun _ => ended,nofun⟩
  | destroyRelease pc =>
    exact ⟨nofun,fun _ => .inr rfl,fun _ => orderly.joined (.inl pc),nofun⟩
  | wake pc | exit pc | tryLockFails pc | flushSend pc =>
    exact orderly.flushed (by rw [pc]; rfl) rfl rfl nofun
  | cycle pc ran =>
    exact orderly.flushed (by rw [pc]; rfl) rfl (FlushLoop.cycle_steady ran).flushRunning
      (parked_begun (FlushLoop.cycle_regular ran).next)
  | relock pc ran =>
    exact orderly.flushed (by rw [pc]; rfl) rfl (FlushLoop.relock_steady ran).flushRunning
      (parked_begun (FlushLoop.relock_regular ran).next)

theorem runs_orderly (path : Runs params (initial now) trace s) : Orderly s :=
  path.invariant (initial_orderly now) (fun orderly one => orderly_preserved params orderly one.2)

-- Backwards from the end: a step towards it, from a state that is in order.
theorem closes_step (orderly : Orderly s) (alive : s.flusher.alive = true) (move : Move params s action next)
    (rest : Orderly next → closes params next) : closes params s := by
  obtain ⟨later,after,path,gone⟩ := rest (orderly_preserved params orderly move)
  exact ⟨_,after,(Machine.Runs.single ⟨alive,move⟩).append path,gone⟩

section Parked

-- The flush thread is between two cycles or not running: the receive thread can
-- go through to the end.
def between (flusher : Flusher) : Prop :=
  flusher = .waiting ∨ flusher = .exited ∨ flusher = .notStarted

variable (orderly : Orderly s) (at_rest : between s.flusher)
include orderly at_rest

theorem closes_move (move : Move params s action next) (same : next.flusher = s.flusher)
    (rest : Orderly next → between next.flusher → closes params next) : closes params s := by
  refine closes_step params orderly ?_ move fun kept => rest kept (by rw [same]; exact at_rest)
  rcases at_rest with pc | pc | pc <;> rw [pc] <;> rfl

theorem closes_releasing (pc : s.receiver = .releasing) : closes params s :=
  closes_move params orderly at_rest (.destroyRelease pc rfl) rfl fun _ _ => ⟨[],_,.nil,rfl⟩

theorem closes_destroying (pc : s.receiver = .destroying) : closes params s := by
  have joins {s : State} (orderly : Orderly s) (pc : s.receiver = .destroying)
      (ended : s.flusher = .exited ∨ s.flusher = .notStarted) : closes params s := by
    have halted : joinable s.flusher = true := by
      rcases ended with pc | pc <;> rw [pc] <;> rfl
    exact closes_move params orderly (.inr ended) (.destroyJoin pc halted) rfl
      fun kept rest => closes_releasing params kept rest rfl
  rcases at_rest with waits | ended
  · exact closes_step params orderly (by rw [waits]; rfl) (.exit waits (orderly.stopped (.inr pc)))
      fun kept => joins kept pc (.inl rfl)
  · exact joins orderly pc ended

theorem closes_returned (pc : s.receiver = .returned) : closes params s :=
  closes_move params orderly at_rest (.destroy pc) rfl fun kept rest => closes_destroying params kept rest rfl

theorem closes_unwinding (pc : s.receiver = .unwinding) : closes params s :=
  closes_move params orderly at_rest (.release pc rfl) rfl fun kept rest => closes_returned params kept rest rfl

theorem closes_reading (pc : s.receiver = .reading) : closes params s :=
  closes_move params orderly at_rest (.readFails pc) rfl fun kept rest => closes_unwinding params kept rest rfl

theorem closes_closing (pc : s.receiver = .closing kind) : closes params s := by
  have silent : afterClose kind none = .reading := by cases kind <;> rfl
  exact closes_move params orderly at_rest (.close pc) rfl fun kept rest =>
    closes_reading params kept rest silent

theorem closes_sending (pc : s.receiver = .sending messages last) : closes params s := by
  induction messages generalizing s with
  | nil => exact absurd pc orderly.sends
  | cons message rest ih =>
    refine closes_move params orderly at_rest (.send pc) rfl fun kept idle => ?_
    cases rest with
    | nil =>
      cases last with
      | read => exact closes_reading params kept idle rfl
      | close kind => exact closes_closing params kept idle rfl
    | cons message rest => exact ih kept idle rfl

theorem closes_finalizing (pc : s.receiver = .finalizing) : closes params s := by
  rcases ran : s.session.handleEnd false silence with ⟨after,receiver,events⟩
  refine closes_move params orderly at_rest (.finalPass pc ran) rfl fun kept rest => ?_
  rcases handleEnd_cases ran with ⟨_,rfl,_⟩ | ⟨_,_,_,_,_,_,rfl⟩
  · exact closes_unwinding params kept rest rfl
  · exact closes_sending params kept rest rfl

theorem closes_joining (pc : s.receiver = .joining) : closes params s := by
  have joins {s : State} (orderly : Orderly s) (pc : s.receiver = .joining)
      (ended : s.flusher = .exited) : closes params s :=
    closes_move params orderly (.inr (.inl ended)) (.join pc ended) rfl
      fun kept rest => closes_finalizing params kept rest rfl
  rcases at_rest with waits | ended | unstarted
  · exact closes_step params orderly (by rw [waits]; rfl) (.exit waits (orderly.stopped (.inl pc)))
      fun kept => joins kept pc rfl
  · exact joins orderly pc ended
  · rcases orderly.started unstarted with early | gone
    · rw [pc] at early; cases early
    · rw [pc] at gone; cases gone

theorem closes_between : closes params s := by
  cases pc : s.receiver with
  | handshake =>
    exact closes_move params orderly at_rest (.acceptFails pc) rfl fun kept rest =>
      closes_unwinding params kept rest rfl
  | reading => exact closes_reading params orderly at_rest pc
  | sending => exact closes_sending params orderly at_rest pc
  | closing => exact closes_closing params orderly at_rest pc
  | acquiring =>
    have fails : Move params s (.acquireFails []) _ := .acquireFails pc
    exact closes_move params orderly at_rest fails rfl fun kept rest => closes_sending params kept rest rfl
  | configuring =>
    have fails : Move params s (.installFails []) _ := .installFails pc
    exact closes_move params orderly at_rest fails rfl fun kept rest => closes_sending params kept rest rfl
  | joining => exact closes_joining params orderly at_rest pc
  | finalizing => exact closes_finalizing params orderly at_rest pc
  | unwinding => exact closes_unwinding params orderly at_rest pc
  | returned => exact closes_returned params orderly at_rest pc
  | destroying => exact closes_destroying params orderly at_rest pc
  | releasing => exact closes_releasing params orderly at_rest pc
  | destroyed => exact ⟨[],s,.nil,pc⟩

end Parked

section Cycle
variable (orderly : Orderly s)
include orderly

theorem closes_sent (pc : s.flusher = .sending message last)
    (rest : ∀ {next}, Orderly next → next.flusher = .relocking last → next.session = s.session →
      closes params next) : closes params s :=
  closes_step params orderly (by rw [pc]; rfl) (.flushSend pc) fun kept => rest kept rfl rfl

theorem closes_done (pc : s.flusher = .relocking last) (done : last = .skip ∨ last = .finish) :
    closes params s := by
  have ran : FlushLoop.relock s.session silence last = ⟨s.session,.waiting,[]⟩ := by
    rcases done with rfl | rfl <;> rfl
  exact closes_step params orderly (by rw [pc]; rfl) (.relock pc ran) fun kept =>
    closes_between params kept (.inl rfl)

theorem closes_accumulated
    (parked : s.flusher = .waiting ∨ ∃ message, s.flusher = .sending message .finish) :
    closes params s := by
  rcases parked with waits | ⟨message,pc⟩
  · exact closes_between params orderly (.inl waits)
  · exact closes_sent params orderly pc fun kept opened _ => closes_done params kept opened (.inr rfl)

theorem closes_clear (pc : s.flusher = .relocking (.clear cycleEngine currentSize result))
    (sound : rereads (.clear cycleEngine currentSize result) = true → s.session.engine.isSome = true) :
    closes params s := by
  rcases ran : FlushLoop.relock s.session silence (.clear cycleEngine currentSize result) with
    ⟨after,flusher,events⟩
  have accumulated : FlushLoop.accumulate { s.session with bufferOverflowed := false, droppedChunks := 0 }
    cycleEngine currentSize result = ⟨after,flusher,events⟩ := ran
  refine closes_step params orderly (by rw [pc]; rfl) (.relock pc ran) fun kept =>
    closes_accumulated params kept ?_
  rcases FlushLoop.accumulate_next { s.session with bufferOverflowed := false, droppedChunks := 0 }
      cycleEngine currentSize result with waits | ⟨_,missing,committed⟩ | sends
  · rw [accumulated] at waits
    exact .inl waits
  · have present := sound (by simpa [rereads] using committed)
    rw [show s.session.engine = none from missing] at present
    cases present
  · rw [accumulated] at sends
    exact .inr ⟨_,sends⟩

theorem closes_resume (pc : s.flusher = .relocking (.resume cycleEngine currentSize result))
    (sound : rereads (.resume cycleEngine currentSize result) = true → s.session.engine.isSome = true) :
    closes params s := by
  have tells : Move params s (.relock silence) _ := .relock pc rfl
  refine closes_step params orderly (by rw [pc]; rfl) tells fun kept => ?_
  exact closes_sent params kept rfl fun kept opened same =>
    closes_clear params kept opened (by rw [same]; exact sound)

-- Whisper may always answer with nothing; the engine it answers for is there
-- for the rest of the cycle.
theorem closes_infer (pc : s.flusher = .relocking (.infer cycleEngine currentSize))
    (present : s.session.engine.isSome = true) : closes params s := by
  rcases ran : FlushLoop.relock s.session silence (.infer cycleEngine currentSize) with
    ⟨after,flusher,events⟩
  refine closes_step params orderly (by rw [pc]; rfl) (.relock pc ran) fun kept => ?_
  have passes : FlushLoop.inferPass s.session cycleEngine currentSize silence =
    ⟨after,flusher,events⟩ := ran
  rcases FlushLoop.inferPass_cases s.session cycleEngine currentSize silence with
    ⟨missing,_⟩ | ⟨owned,used,_,⟨_,failed,_⟩ | ⟨result,_,passed⟩⟩
  · rw [missing] at present
    cases present
  · obtain ⟨_,_,heard⟩ := SessionHandler.silence_passes owned.engine
    rw [heard] at failed
    cases failed
  · rw [passed] at passes
    rcases FlushLoop.afterPass_cases { s.session with engine := some ⟨owned.id,used⟩ }
        ⟨owned.id,used⟩ cycleEngine currentSize result with
      ⟨_,_,message,last,window,kind⟩ | ⟨_,reads,_,direct⟩
    · rw [window] at passes
      cases passes
      refine closes_sent params kept rfl fun told opened same => ?_
      rcases kind with ⟨_,rfl⟩ | ⟨_,rfl⟩
      · exact closes_resume params told opened fun _ => by rw [same]; rfl
      · exact closes_clear params told opened fun _ => by rw [same]; rfl
    · have parked := SessionHandler.accumulate_parked
        { s.session with engine := some ⟨owned.id,used⟩ } cycleEngine currentSize result rfl
      rw [direct] at passes
      cases passes
      exact closes_accumulated params kept parked

theorem closes_relocking (pc : s.flusher = .relocking last)
    (sound : rereads last = true → s.session.engine.isSome = true) : closes params s := by
  cases last with
  | skip => exact closes_done params orderly pc (.inl rfl)
  | finish => exact closes_done params orderly pc (.inr rfl)
  | infer => exact closes_infer params orderly pc (sound rfl)
  | resume => exact closes_resume params orderly pc sound
  | clear => exact closes_clear params orderly pc sound

theorem closes_sound (alive : s.flusher.alive = true) (sound : doomed s = false) : closes params s := by
  have present {last : Continuation} (kept : s.session.engine.isNone = true → rereads last = false)
      (reads : rereads last = true) : s.session.engine.isSome = true := by
    cases engine : s.session.engine with
    | some => rfl
    | none =>
      rw [kept (by rw [engine]; rfl)] at reads
      cases reads
  cases pc : s.flusher with
  | notStarted => exact closes_between params orderly (.inr (.inr pc))
  | waiting => exact closes_between params orderly (.inl pc)
  | exited => exact closes_between params orderly (.inr (.inl pc))
  | crashed | faulted => rw [pc] at alive; cases alive
  | awake =>
    exact closes_step params orderly alive (.tryLockFails pc) fun kept =>
      closes_between params kept (.inl rfl)
  | sending message last =>
    simp only [doomed,pc,Bool.and_eq_false_imp] at sound
    exact closes_sent params orderly pc fun kept opened same =>
      closes_relocking params kept opened (by rw [same]; exact present sound)
  | relocking last =>
    simp only [doomed,pc,Bool.and_eq_false_imp] at sound
    exact closes_relocking params orderly pc (present sound)

end Cycle

-- Once doomed a session stays so, until flushLoop faults.
def Sinking (s : State) : Prop :=
  leaving s.receiver = true ∧ s.receiver ≠ .releasing ∧ s.receiver ≠ .destroyed ∧
    (doomed s = true ∨ s.flusher = .faulted)

theorem sinking_doomed (path : Runs params (initial now) trace s) (lost : doomed s = true) : Sinking s := by
  have orderly := runs_orderly params path
  simp only [doomed,Bool.and_eq_true] at lost
  obtain ⟨missing,reads⟩ := lost
  have running : joinable s.flusher = false ∧ idle s.flusher = false := by
    cases pc : s.flusher with
    | sending | relocking => exact ⟨rfl,rfl⟩
    | _ => rw [pc] at reads; cases reads
  have unjoined (ended : s.receiver = .releasing ∨ s.receiver = .destroyed) : False := by
    have halted := orderly.joined ended
    rw [running.1] at halted
    cases halted
  refine ⟨?_,fun pc => unjoined (.inl pc),fun pc => unjoined (.inr pc),.inl ?_⟩
  · rcases runs_engine params path (runs_busy params path running.2) with gone | present
    · exact gone
    · rw [Option.isSome_eq_false_iff.mpr missing] at present
      cases present
  · simp only [doomed,Bool.and_eq_true]
    exact ⟨missing,reads⟩

theorem relock_doomed (missing : session.engine = none) (reads : rereads continuation = true)
    (ran : FlushLoop.relock session outcome continuation = ⟨after,flusher,events⟩) :
    flusher = .faulted ∨
      after = session ∧ ∃ message last, flusher = .sending message last ∧ rereads last = true := by
  cases continuation with
  | skip | finish => cases reads
  | infer =>
    simp only [FlushLoop.relock,FlushLoop.inferPass,missing] at ran
    cases ran
    exact .inl rfl
  | resume =>
    cases ran
    exact .inr ⟨rfl,_,_,rfl,reads⟩
  | clear cycleEngine currentSize result =>
    simp only [FlushLoop.relock,FlushLoop.accumulate,missing,Option.isNone_none,Bool.and_true] at ran
    simp only [rereads] at reads
    rw [reads] at ran
    cases ran
    exact .inl rfl

theorem releaseModel_doomed (missing : session.engine = none)
    (ran : StreamingSession.releaseModel session = (after,events)) : after.engine = none := by
  rcases releaseModel_cases ran with ⟨_,_,rfl⟩ | ⟨_,_,rfl⟩
  · rfl
  · exact missing

theorem sinking_preserved (sinking : Sinking s) (one : Step params s action next) : Sinking next := by
  obtain ⟨alive,move⟩ := one
  obtain ⟨gone,unjoined,undestroyed,lost | faulted⟩ := sinking
  swap
  · rw [faulted] at alive
    cases alive
  have away := leaving_preserved params gone move
  simp only [doomed,Bool.and_eq_true,Option.isNone_iff_eq_none] at lost
  obtain ⟨missing,reads⟩ := lost
  have stays {session : StreamingSession} (none_left : session.engine = none) :
      doomed { s with session } = true := by
    simp only [doomed,Bool.and_eq_true,Option.isNone_iff_eq_none]
    exact ⟨none_left,reads⟩
  cases move with
  | tick => exact ⟨gone,unjoined,undestroyed,.inl (stays missing)⟩
  | release pc ran => exact ⟨away,nofun,nofun,.inl (stays (releaseModel_doomed missing ran))⟩
  | destroy pc => exact ⟨away,nofun,nofun,.inl (stays missing)⟩
  | destroyJoin pc ended =>
    cases flusher : s.flusher with
    | sending | relocking => rw [flusher] at ended; cases ended
    | _ => rw [flusher] at reads; cases reads
  | destroyRelease pc => exact absurd pc unjoined
  | flushSend pc =>
    rw [pc] at reads
    refine ⟨gone,unjoined,undestroyed,.inl ?_⟩
    simp only [doomed,Bool.and_eq_true,Option.isNone_iff_eq_none]
    exact ⟨missing,reads⟩
  | relock pc ran =>
    rw [pc] at reads
    rcases relock_doomed missing reads ran with rfl | ⟨rfl,message,last,rfl,again⟩
    · exact ⟨gone,unjoined,undestroyed,.inr rfl⟩
    · refine ⟨gone,unjoined,undestroyed,.inl ?_⟩
      simp only [doomed,Bool.and_eq_true,Option.isNone_iff_eq_none]
      exact ⟨missing,again⟩
  | wake pc | exit pc | tryLockFails pc | cycle pc => rw [pc] at reads; cases reads
  | accept pc | acceptFails pc | text pc | binary pc | readFails pc | send pc | close pc | acquire pc
  | acquireFails pc | install pc | installFails pc | join pc | finalPass pc =>
    rw [pc] at gone
    cases gone

-- The destructor can be reached from every state but those in which run() has
-- already dropped the engine that an open window will read.
theorem teardown_iff (path : Runs params (initial now) trace s) (alive : s.flusher.alive = true) :
    (∃ later after, Runs params s later after ∧ after.receiver = .destroyed) ↔ doomed s = false := by
  constructor
  · rintro ⟨later,after,run,destroyed⟩
    rw [← Bool.not_eq_true]
    intro lost
    have sinking := run.invariant (sinking_doomed params path lost) (sinking_preserved params)
    exact sinking.2.2.1 destroyed
  · exact closes_sound params (runs_orderly params path) alive

theorem teardown_iff_configured : ∃ trace s, Runs defaultParams (initial 0) trace s ∧
    s.session.engine.isSome = true ∧
    ∃ later after, Runs defaultParams s later after ∧ after.receiver = .destroyed := by
  have path := config_run.2
  exact ⟨_,configuredState,path,rfl,(teardown_iff defaultParams path rfl).mpr rfl⟩

end JotaTranscriber.Teardown

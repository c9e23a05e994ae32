import JotaTranscriber.SessionRuns

namespace JotaTranscriber.Saturation
open StreamingWhisperEngine StreamingSession FlushLoop

-- A flush cycle that nothing interrupts: each window is sent and relocked at
-- once. Four windows are the most one cycle can open.
def settle (outcome : Outcome) : Nat → StreamingSession → Flusher → StreamingSession × Flusher
  | n+1,session,.sending _ next =>
    let resumed := relock session outcome next
    settle outcome n resumed.session resumed.next
  | _,session,pc => (session,pc)

def wholeCycle (params : SessionParams) (session : StreamingSession) (now : Instant) (slot : Bool)
    (outcome : Outcome) : StreamingSession × Flusher :=
  let opened := cycle params session now slot outcome
  settle outcome 4 opened.session opened.next

structure State where
  session : StreamingSession
  clock : Instant

inductive Action where
  | chunk (elapsed : Nat) (audio : List Sample)
  | cycle (elapsed : Nat) (slot : Bool) (outcome : Outcome)

-- A configured session fed chunks and flush cycles only. A cycle is admitted
-- when its pass, if it runs one, does not fail.
inductive Step (params : SessionParams) : State → Action → State → Prop where
  | chunk (nonempty : audio ≠ []) :
      Step params s (.chunk elapsed audio)
        ⟨(s.session.processAudioChunk (s.clock + elapsed) audio).1,s.clock + elapsed⟩
  | cycle {elapsed : Nat}
      (ran : wholeCycle params s.session (s.clock + elapsed) slot outcome = (after,.waiting)) :
      Step params s (.cycle elapsed slot outcome) ⟨after,s.clock + elapsed⟩

abbrev Runs (params : SessionParams) := Machine.Runs (Step params)

def configured (params : SessionParams) (origin : StreamingSession) (now : Instant) (id : Nat) : State :=
  ⟨StreamingSession.install params origin now id,now⟩

-- Some continuation brings the buffer below the mark, so that a chunk is taken.
def Recoverable (params : SessionParams) (s : State) : Prop :=
  ∃ trace next, Runs params s trace next ∧ next.session.bufferSize < highWaterMark

@[simp] theorem settle_waiting (outcome : Outcome) (n : Nat) (session : StreamingSession) :
    settle outcome n session .waiting = (session,.waiting) := by
  cases n <;> rfl

theorem settle_accumulate (session : StreamingSession) (present : session.engine = some owned)
    (n : Nat) :
    let done := accumulate session cycleEngine currentSize result
    settle outcome (n+1) done.session done.next = (done.session,.waiting) := by
  dsimp only
  rcases accumulate_next session cycleEngine currentSize result with
    waits | ⟨_,missing,_⟩ | sends
  · rw [waits,settle_waiting]
  · rw [present] at missing; cases missing
  · rw [sends]
    exact settle_waiting outcome n _

theorem settle_afterPass (session : StreamingSession) (present : session.engine = some owned)
    (n : Nat) :
    ∃ after, settle outcome (n+3) (afterPass session owned cycleEngine currentSize result).session
        (afterPass session owned cycleEngine currentSize result).next = (after,.waiting) ∧
      after.engine = some owned ∧ after.configured = session.configured ∧
      after.lastTranscribedSize =
        if result.committedText.isEmpty then currentSize else owned.engine.getBufferSize := by
  have accumulated (start : StreamingSession) (same : start.engine = some owned) :
      (accumulate start cycleEngine currentSize result).session.engine = some owned ∧
      (accumulate start cycleEngine currentSize result).session.configured = start.configured ∧
      (accumulate start cycleEngine currentSize result).session.lastTranscribedSize =
        if result.committedText.isEmpty then currentSize else owned.engine.getBufferSize := by
    refine ⟨same,rfl,?_⟩
    simp only [accumulate,bufferSize,same,Option.map_some,Option.getD_some]
    cases result.committedText.isEmpty <;> rfl
  let cleared := { session with bufferOverflowed := false, droppedChunks := 0 }
  rcases afterPass_cases session owned cycleEngine currentSize result with
    ⟨_,_,message,next,opened,kind⟩ | ⟨_,reads,_,direct⟩
  · rw [opened]
    rcases kind with ⟨rfl,rfl⟩ | ⟨rfl,rfl⟩
    · exact ⟨_,settle_accumulate cleared present n,accumulated cleared present⟩
    · exact ⟨_,settle_accumulate cleared present (n+1),accumulated cleared present⟩
  · rw [direct]
    exact ⟨_,settle_accumulate session present (n+2),accumulated session present⟩

theorem settle_inferPass (session : StreamingSession) (cycleEngine currentSize : Nat)
    (present : session.engine = some owned)
    (passed : owned.engine.transcribeSlidingWindow false outcome = (used,.ok result)) (n : Nat) :
    ∃ after, settle outcome (n+3) (inferPass session cycleEngine currentSize outcome).session
        (inferPass session cycleEngine currentSize outcome).next = (after,.waiting) ∧
      after.engine = some ⟨owned.id,used⟩ ∧ after.configured = session.configured ∧
      after.lastTranscribedSize =
        if result.committedText.isEmpty then currentSize else used.getBufferSize := by
  have ran : inferPass session cycleEngine currentSize outcome =
      (afterPass { session with engine := some ⟨owned.id,used⟩ } ⟨owned.id,used⟩
        cycleEngine currentSize result).after
        [.dereferenced cycleEngine (some owned.id),.pass result] := by
    simp [inferPass,present,passed]
  rw [ran]
  exact settle_afterPass { session with engine := some ⟨owned.id,used⟩ } rfl n

theorem settle_inferPass_failed (present : session.engine = some owned)
    (failed : owned.engine.transcribeSlidingWindow false outcome = (used,.error error)) (n : Nat) :
    settle outcome n (inferPass session cycleEngine currentSize outcome).session
      (inferPass session cycleEngine currentSize outcome).next =
      ({ session with engine := some ⟨owned.id,used⟩ },.crashed error) := by
  cases n <;> simp [inferPass,present,failed,settle]

theorem wholeCycle_cases (present : session.engine = some owned)
    (ran : wholeCycle params session now slot outcome = (after,.waiting)) :
    (after.engine = some owned ∧ after.configured = session.configured ∧
      after.lastTranscribedSize = session.lastTranscribedSize) ∨
    triggered params session owned.engine.getBufferSize now = true ∧
      ∃ used result, owned.engine.transcribeSlidingWindow false outcome = (used,.ok result) ∧
        after.engine = some ⟨owned.id,used⟩ ∧ after.configured = session.configured ∧
        after.lastTranscribedSize = if result.committedText.isEmpty then
          owned.engine.getBufferSize else used.getBufferSize := by
  obtain ⟨idle,watched⟩ := watchdog_frame params session now
  have passes (start : StreamingSession) (same : start.engine = some owned)
      (ready : start.configured = session.configured) (n : Nat)
      (due : triggered params session owned.engine.getBufferSize now = true)
      (rest : settle outcome (n+3) (inferPass start owned.id owned.engine.getBufferSize outcome).session
        (inferPass start owned.id owned.engine.getBufferSize outcome).next = (after,.waiting)) :
      triggered params session owned.engine.getBufferSize now = true ∧
      ∃ used result, owned.engine.transcribeSlidingWindow false outcome = (used,.ok result) ∧
        after.engine = some ⟨owned.id,used⟩ ∧ after.configured = session.configured ∧
        after.lastTranscribedSize = if result.committedText.isEmpty then
          owned.engine.getBufferSize else used.getBufferSize := by
    rcases answer : owned.engine.transcribeSlidingWindow false outcome with ⟨used,reply⟩
    cases reply with
    | error error => rw [settle_inferPass_failed same answer] at rest; cases rest
    | ok result =>
      obtain ⟨done,settled,owner,kept,size⟩ :=
        settle_inferPass start owned.id owned.engine.getBufferSize same answer n
      cases settled.symm.trans rest
      exact ⟨due,used,result,rfl,owner,kept.trans ready,size⟩
  unfold wholeCycle at ran
  dsimp only at ran
  rcases cycle_cases params session now slot outcome with
    ⟨quiet,_⟩ | ⟨found,owner,ready,due,kind⟩
  · rw [quiet,watched] at ran
    simp only [settle_waiting] at ran
    cases ran
    exact .inl ⟨present,rfl,rfl⟩
  · rw [watched] at owner due
    have same : found = owned := Option.some.inj (owner.symm.trans present)
    subst found
    rcases kind with ⟨_,_,busy⟩ | ⟨_,_,free⟩ | ⟨_,_,direct⟩
    · rw [busy,watched] at ran
      cases ran
      exact .inl ⟨present,rfl,rfl⟩
    · rw [free,watched] at ran
      exact .inr (passes { session with idleShutdownTriggered := idle, capacityDegraded := false }
        present rfl 0 due ran)
    · rw [direct,watched] at ran
      exact .inr (passes { session with idleShutdownTriggered := idle } present rfl 1 due ran)

theorem wholeCycle_pass (present : session.engine = some owned) (ready : session.configured = true)
    (due : triggered params session owned.engine.getBufferSize now = true)
    (passed : owned.engine.transcribeSlidingWindow false outcome = (used,.ok result)) :
    ∃ after, wholeCycle params session now true outcome = (after,.waiting) ∧
      after.engine = some ⟨owned.id,used⟩ ∧ after.configured = true ∧
      after.lastTranscribedSize = if result.committedText.isEmpty then
        owned.engine.getBufferSize else used.getBufferSize := by
  rcases cycle_cases params session now true outcome with
    ⟨_,skipped⟩ | ⟨found,owner,kept,_,⟨free,_⟩ | ⟨_,_,opened⟩ | ⟨_,_,opened⟩⟩
  · cases skipped owned (by simpa using present) (by simpa using ready) (by simpa using due)
  · cases free
  all_goals
    have same : found = owned := Option.some.inj (owner.symm.trans (by simpa using present))
    subst found
    simp only [wholeCycle,opened]
  · obtain ⟨after,settled,engine,configured,size⟩ := settle_inferPass
      { watchdog params session now with capacityDegraded := false }
      owned.id owned.engine.getBufferSize owner passed 0
    exact ⟨after,settled,engine,configured.trans kept,size⟩
  · obtain ⟨after,settled,engine,configured,size⟩ := settle_inferPass
      (watchdog params session now) owned.id owned.engine.getBufferSize owner passed 1
    exact ⟨after,settled,engine,configured.trans kept,size⟩

-- An uninterrupted cycle is a run of the session's two threads in which the
-- receive thread does not move.
theorem settle_runs (params : SessionParams) (n : Nat) (s : SessionMachine.State)
    (rest : settle outcome n s.session s.flusher = (after,.waiting)) :
    ∃ trace next, SessionMachine.Runs params s trace next ∧ next.session = after ∧
      next.flusher = .waiting ∧ next.receiver = s.receiver := by
  induction n generalizing s with
  | zero =>
    cases pc : s.flusher <;> simp only [pc,settle,Prod.mk.injEq,reduceCtorEq,and_false] at rest
    exact ⟨[],s,.nil,rest.1,pc,rfl⟩
  | succ n ih =>
    cases pc : s.flusher <;> simp only [pc,settle,Prod.mk.injEq,reduceCtorEq,and_false] at rest
    case waiting => exact ⟨[],s,.nil,rest.1,pc,rfl⟩
    case sending message next =>
      let sent : SessionMachine.State :=
        { s with flusher := .relocking next, log := s.log ++ [.sent message] }
      have first : SessionMachine.Step params s .flushSend sent := ⟨by rw [pc]; rfl,.flushSend pc⟩
      rcases relocked : relock s.session outcome next with ⟨session,pc',events⟩
      rw [relocked] at rest
      let done : SessionMachine.State :=
        { sent with session := session, flusher := pc', log := sent.log ++ events }
      have second : SessionMachine.Step params sent (.relock outcome) done :=
        ⟨rfl,.relock rfl relocked⟩
      obtain ⟨trace,final,path,kept⟩ := ih done rest
      exact ⟨_,final,Machine.Runs.append (.step (.single first) second) path,kept⟩

theorem wholeCycle_runs (s : SessionMachine.State) (pc : s.flusher = .waiting)
    (running : s.session.flushRunning = true)
    (ran : wholeCycle params s.session (s.clock + (elapsed : Nat)) slot outcome = (after,.waiting)) :
    ∃ trace next, SessionMachine.Runs params s trace next ∧ next.session = after ∧
      next.flusher = .waiting ∧ next.receiver = s.receiver := by
  have alive : s.flusher.alive = true := by rw [pc]; rfl
  let later : SessionMachine.State := { s with clock := s.clock + elapsed }
  let awake : SessionMachine.State := { later with flusher := .awake }
  rcases opened : FlushLoop.cycle params s.session later.clock slot outcome with ⟨session,next,events⟩
  simp only [wholeCycle,later] at ran opened
  rw [opened] at ran
  let cycled : SessionMachine.State :=
    { awake with session := session, flusher := next, log := awake.log ++ events }
  have first : SessionMachine.Step params s (.tick elapsed) later := ⟨alive,.tick⟩
  have second : SessionMachine.Step params later .wake awake := ⟨alive,.wake pc running⟩
  have third : SessionMachine.Step params awake (.cycle slot outcome) cycled :=
    ⟨rfl,.cycle rfl opened⟩
  obtain ⟨trace,final,path,kept⟩ := settle_runs params 4 cycled ran
  exact ⟨_,final,Machine.Runs.append (.step (.step (.single first) second) third) path,kept⟩

-- Padding so negative that no segment survives it: the gate hears nothing.
theorem gateLoop_deaf (total pad : Int) (nonnegative : 0 ≤ total) (deaf : total + pad ≤ -pad)
    (segments : List (Int × Int)) (original : List Sample) (loop : VadGate.GateLoop) :
    VadGate.gateLoop original total pad segments loop = loop := by
  induction segments generalizing loop with
  | nil => rfl
  | cons segment rest ih =>
    obtain ⟨t0,t1⟩ := segment
    have start : 0 ≤ VadGate.clampSamples total t0 := by unfold VadGate.clampSamples; omega
    have stop : VadGate.clampSamples total t1 ≤ total := by unfold VadGate.clampSamples; omega
    have dropped : min total (VadGate.clampSamples total t1 + pad) ≤
        max (max 0 (VadGate.clampSamples total t0 - pad)) loop.prevSegEnd := by omega
    simp only [VadGate.gateLoop,if_pos dropped]
    exact ih loop

theorem transcribe_deaf {engine used : StreamingWhisperEngine} (gated : engine.vadGate = some gate)
    (deaf : (engine.getBufferSize : Int) + gate.pad ≤ -gate.pad)
    (passed : engine.transcribeSlidingWindow false outcome = (used,.ok result)) :
    used.getBufferSize = engine.getBufferSize := by
  have silent (segments : List (Int × Int)) : gate.hears engine.audioBuffer segments = false := by
    have quiet := gateLoop_deaf (engine.audioBuffer.length : Int) gate.pad (Int.natCast_nonneg _)
      deaf segments engine.audioBuffer ⟨0,0,[],[]⟩
    simp [VadGate.hears,quiet]
  unfold transcribeSlidingWindow at passed
  split at passed
  · cases passed; rfl
  · rename_i nonempty
    have some_samples : engine.audioBuffer ≠ [] := by simpa using nonempty
    unfold infer at passed
    simp only [gated] at passed
    rcases gate.gate_cases engine.audioBuffer outcome.vad some_samples with
      ⟨_,_,answer⟩ | ⟨_,⟨_,answer⟩ | ⟨segments,heard,_,answer,speech⟩⟩
    · simp [answer] at passed
    · simp [answer] at passed
    · rw [silent] at speech
      simp only [answer,speech,Bool.false_eq_true,if_false] at passed
      cases passed
      rfl

-- The answer that empties a full buffer: one stretch of speech over all of it,
-- in two segments that both end at the 30 s cap.
def draining (size : Nat) : Outcome :=
  ⟨⟨true,some [(0,size)]⟩,.decoded [⟨none,3000⟩,⟨none,3000⟩] none⟩

theorem commit_draining (gate : Option VadGate) (long : maxWindowSamples ≤ size)
    (short : decodeSize ≤ maxBufferSamples) :
    commit gate false size decodeSize [⟨none,3000⟩,⟨none,3000⟩] =
      (⟨[],[]⟩,.front (samplesToErase gate 3000)) := by
  have bound : ((decodeSize : Int) - 32000).tdiv 160 ≤ 3000 := by
    have size : (decodeSize : Int) - 32000 ≤ 480000 := by
      unfold maxBufferSamples at short
      omega
    exact Int.tdiv_le_tdiv (by decide) size
  have none_before : lastSegmentBefore (((decodeSize : Int) - 32000).tdiv 160)
      [⟨none,3000⟩,⟨none,3000⟩] = none := by
    simp [lastSegmentBefore,Int.not_lt.mpr bound]
  simp [commit,long,commitPoint,none_before,concatTexts]

theorem transcribe_draining_ungated {engine : StreamingWhisperEngine} (ungated : engine.vadGate = none)
    (full : highWaterMark ≤ engine.audioBuffer.length)
    (capped : engine.audioBuffer.length ≤ maxBufferSamples) :
    ∃ used result, engine.transcribeSlidingWindow false (draining engine.audioBuffer.length) =
      (used,.ok result) ∧ used.getBufferSize < highWaterMark := by
  have long : maxWindowSamples ≤ engine.audioBuffer.length := Nat.le_trans (by decide) full
  have all : samplesToErase none 3000 = maxBufferSamples := by decide
  have rest : ¬ maxBufferSamples < engine.audioBuffer.length := Nat.not_lt.mpr capped
  have decided := commit_draining none long capped
  rw [all] at decided
  have filled : 0 < engine.getBufferSize := Nat.lt_of_lt_of_le (by decide) full
  exact ⟨_,_,transcribeSlidingWindow_ungated ungated filled rfl decided,
    by simp [getBufferSize,Erase.apply,rest,highWaterMark]⟩

-- With a gate the whole stretch is heard unless the padding swallows it, and
-- what the padding cuts off at the end is all that stays in the buffer.
theorem gate_draining (gate : VadGate) (original : List Sample)
    (hearing : -gate.pad < (original.length : Int) + gate.pad) (nonempty : original ≠ []) :
    ∃ used samples, gate.gate original (draining original.length).vad = (used,.ok ⟨samples,true⟩) ∧
      samples.length ≤ original.length ∧ used.originalTotalSamples = original.length ∧
      used.mapping = [⟨0,samples.length,max 0 (-gate.pad),
        min original.length (original.length + gate.pad)⟩] := by
  have positive : 0 < original.length := List.length_pos_iff.mpr nonempty
  generalize start : max 0 (-gate.pad) = segStart
  generalize stop : min (original.length : Int) (original.length + gate.pad) = segEnd
  have kept : segStart < segEnd := by omega
  have inside : 0 ≤ segStart ∧ segEnd ≤ original.length := by omega
  let samples := (original.drop segStart.toNat).take (segEnd - segStart).toNat
  have size : (samples.length : Int) = segEnd - segStart := by
    simp only [samples,List.length_take,List.length_drop]
    omega
  have heard : samples.isEmpty = false := by
    simpa using List.length_pos_iff.mp (show 0 < samples.length by omega)
  have looped : VadGate.gateLoop original original.length gate.pad [(0,(original.length : Int))]
      ⟨0,0,[],[]⟩ = ⟨segEnd - segStart,segEnd,samples,[⟨0,segEnd - segStart,segStart,segEnd⟩]⟩ := by
    have first : max (max 0 (VadGate.clampSamples original.length 0 - gate.pad)) 0 = segStart := by
      simp only [VadGate.clampSamples]; omega
    have last : min (original.length : Int) (VadGate.clampSamples original.length original.length +
        gate.pad) = segEnd := by
      simp only [VadGate.clampSamples]; omega
    simp only [VadGate.gateLoop,first,last,if_neg (Int.not_le.mpr kept),List.isEmpty_nil,if_true]
    simp [samples]
  have some_samples : original.isEmpty = false := by simpa using nonempty
  refine ⟨{ gate with
    loaded := true
    mapping := [⟨0,segEnd - segStart,segStart,segEnd⟩]
    originalTotalSamples := original.length },samples,?_,by omega,rfl,by rw [size]⟩
  simp [VadGate.gate,some_samples,draining,looped,heard]

theorem transcribe_draining_gated {engine : StreamingWhisperEngine} (gated : engine.vadGate = some gate)
    (hearing : -gate.pad < (engine.audioBuffer.length : Int) + gate.pad)
    (full : highWaterMark ≤ engine.audioBuffer.length)
    (capped : engine.audioBuffer.length ≤ maxBufferSamples) :
    ∃ used result, engine.transcribeSlidingWindow false (draining engine.audioBuffer.length) =
      (used,.ok result) ∧ used.getBufferSize < highWaterMark := by
  have long : maxWindowSamples ≤ engine.audioBuffer.length := Nat.le_trans (by decide) full
  have some_samples : engine.audioBuffer ≠ [] :=
    List.length_pos_iff.mp (Nat.lt_of_lt_of_le (by decide) full)
  have nonempty : engine.audioBuffer.isEmpty = false := by simpa using some_samples
  obtain ⟨used,samples,answer,short,total,mapping⟩ :=
    gate_draining gate engine.audioBuffer hearing some_samples
  unfold maxBufferSamples at capped
  let erased := (min (engine.audioBuffer.length : Int) (engine.audioBuffer.length + gate.pad)).toNat
  have cut : samplesToErase (some used) 3000 = erased := by
    have past : ¬ (3000 : Int) * 160 < samples.length := by omega
    simp only [samplesToErase,VadGate.toOriginalSamples,VadGate.mapGatedToOriginalSamples,mapping,
      total,VadGate.mapAfter,sizeT,past]
    simp
    omega
  have ran : engine.transcribeSlidingWindow false (draining engine.audioBuffer.length) =
      ({ engine with
          vadGate := some used
          language := lockLanguage engine.language none
          audioBuffer := (Erase.front erased).apply engine.audioBuffer },.ok ⟨[],[]⟩) := by
    simp only [transcribeSlidingWindow,nonempty,Bool.false_eq_true,if_false,infer,gated,answer,
      if_true]
    simp only [draining,commit_draining (some used) long (Nat.le_trans short capped),cut]
  refine ⟨_,_,ran,?_⟩
  have left : engine.audioBuffer.length - erased < highWaterMark := by
    unfold highWaterMark
    omega
  simp only [getBufferSize,Erase.apply]
  split
  · simpa using left
  · decide

-- What every run of chunks and cycles keeps: an engine within the 30 s cap,
-- with the padding it was configured with.
structure Sound (params : SessionParams) (session : StreamingSession) : Prop where
  configured : session.configured = true
  remembered : session.lastTranscribedSize ≤ maxBufferSamples
  engine : ∃ owned, session.engine = some owned ∧ owned.engine.getBufferSize ≤ maxBufferSamples ∧
    owned.engine.vadGate.map VadGate.speechPadMs =
      if params.vadModelPath.isEmpty then none else some params.vadSpeechPadMs.val

theorem configured_sound (params : SessionParams) (origin : StreamingSession) (now : Instant)
    (id : Nat) : Sound params (configured params origin now id).session := by
  refine ⟨rfl,Nat.zero_le _,_,rfl,Nat.zero_le _,?_⟩
  unfold makeEngine fresh
  dsimp only
  split <;> rfl

theorem sound_preserved_by_chunk (sound : Sound params session) :
    Sound params (session.processAudioChunk now audio).1 := by
  obtain ⟨ready,remembered,owned,present,capped,padding⟩ := sound
  rcases session.processAudioChunk_cases now audio with
    ⟨_,unchanged⟩ | ⟨found,owner,_,⟨_,dropped⟩ | ⟨room,taken⟩⟩
  · rw [unchanged]; exact ⟨ready,remembered,owned,present,capped,padding⟩
  · rw [dropped]; exact ⟨ready,remembered,owned,present,capped,padding⟩
  · rw [taken]
    have same : found = owned := Option.some.inj (owner.symm.trans present)
    subst found
    refine ⟨ready,remembered,_,rfl,?_,?_⟩
    · rw [processAudioChunk_size room]
      exact Nat.min_le_left _ _
    · rwa [processAudioChunk_vadGate]

theorem sound_preserved_by_cycle (sound : Sound params session)
    (ran : wholeCycle params session now slot outcome = (after,.waiting)) : Sound params after := by
  obtain ⟨ready,remembered,owned,present,capped,padding⟩ := sound
  rcases wholeCycle_cases present ran with
    ⟨same,kept,size⟩ | ⟨_,used,result,passed,owner,kept,size⟩
  · exact ⟨kept.trans ready,size ▸ remembered,owned,same,capped,padding⟩
  · obtain ⟨shorter,samePadding⟩ := transcribeSlidingWindow_ok passed
    refine ⟨kept.trans ready,?_,_,owner,Nat.le_trans shorter capped,samePadding.trans padding⟩
    rw [size]
    split
    · exact capped
    · exact Nat.le_trans shorter capped

theorem sound_preserved (sound : Sound params s.session) (one : Step params s action next) :
    Sound params next.session := by
  cases one with
  | chunk nonempty => exact sound_preserved_by_chunk sound
  | cycle ran => exact sound_preserved_by_cycle sound ran

theorem runs_sound (path : Runs params (configured params origin now first) trace s) :
    Sound params s.session :=
  path.invariant (I := fun s => Sound params s.session) (configured_sound params origin now first)
    sound_preserved

def configuredPad (params : SessionParams) : Int := (VadGate.create params.vadSpeechPadMs).pad

-- A full buffer that a later pass can still empty: its size differs from the one
-- the last pass left, so a pass can run, and a gate can let audio through.
def Drainable (params : SessionParams) (session : StreamingSession) : Prop :=
  session.bufferSize ≠ session.lastTranscribedSize ∧
    (params.vadModelPath.isEmpty = true ∨
      -configuredPad params < (session.bufferSize : Int) + configuredPad params)

theorem pad_configured (padding : (some gate).map VadGate.speechPadMs =
      if params.vadModelPath.isEmpty then none else some params.vadSpeechPadMs.val) :
    params.vadModelPath.isEmpty = false ∧ gate.pad = configuredPad params := by
  split at padding
  · cases padding
  · rename_i present
    simp only [Option.map_some,Option.some.injEq] at padding
    exact ⟨by simpa using present,by simp [VadGate.pad,configuredPad,VadGate.create,padding]⟩

theorem not_triggered (positive : 0 < params.flushMinNewAudioMs.val)
    (same : size = session.lastTranscribedSize) : triggered params session size now = false := by
  have bound := params.flushMinNewAudioMs.property
  have wanted : ¬ msToSamples16kHz params.flushMinNewAudioMs ≤ 0 := by
    simp only [msToSamples16kHz,sizeT]
    omega
  simp [triggered,newSamples,sizeT,same,wanted]

-- A buffer at the mark that no pass can shorten.
structure Stuck (params : SessionParams) (session : StreamingSession) : Prop where
  sound : Sound params session
  full : highWaterMark ≤ session.bufferSize
  undrainable : ¬ Drainable params session

theorem stuck_preserved_by_chunk (stuck : Stuck params session) :
    Stuck params (session.processAudioChunk now audio).1 := by
  have kept : Sound params (session.processAudioChunk now audio).1 :=
    sound_preserved_by_chunk stuck.sound
  obtain ⟨_,full,undrainable⟩ := stuck
  rcases session.processAudioChunk_cases now audio with
    ⟨_,unchanged⟩ | ⟨owned,present,_,⟨_,dropped⟩ | ⟨room,_⟩⟩
  · rw [unchanged] at kept ⊢
    exact ⟨kept,full,undrainable⟩
  · rw [dropped] at kept ⊢
    exact ⟨kept,full,undrainable⟩
  · have size : session.bufferSize = owned.engine.getBufferSize := by simp [bufferSize,present]
    omega

theorem stuck_preserved_by_cycle (positive : 0 < params.flushMinNewAudioMs.val)
    (stuck : Stuck params session)
    (ran : wholeCycle params session now slot outcome = (after,.waiting)) : Stuck params after := by
  have kept := sound_preserved_by_cycle stuck.sound ran
  obtain ⟨⟨_,_,owned,present,_,padding⟩,full,undrainable⟩ := stuck
  have size : session.bufferSize = owned.engine.getBufferSize := by simp [bufferSize,present]
  rcases wholeCycle_cases present ran with
    ⟨same,_,remembered⟩ | ⟨due,used,result,passed,owner,_,remembered⟩
  · have unchanged : after.bufferSize = session.bufferSize := by simp [bufferSize,same,present]
    refine ⟨kept,unchanged ▸ full,?_⟩
    simpa only [Drainable,unchanged,remembered] using undrainable
  · -- A due pass means the sizes differ, so the gate must be deaf, and then the
    -- pass leaves the buffer as it was.
    have differs : session.bufferSize ≠ session.lastTranscribedSize := by
      intro equal
      rw [not_triggered positive (size ▸ equal)] at due
      cases due
    have deaf := fun clear => undrainable ⟨differs,clear⟩
    cases gated : owned.engine.vadGate with
    | none =>
      rw [gated] at padding
      split at padding
      · rename_i ungated
        exact absurd (.inl ungated) deaf
      · cases padding
    | some gate =>
      rw [gated] at padding
      obtain ⟨_,pad⟩ := pad_configured padding
      have silent : (owned.engine.getBufferSize : Int) + gate.pad ≤ -gate.pad := by
        rw [pad,← size]
        exact Int.not_lt.mp (fun hears => deaf (.inr hears))
      have same := transcribe_deaf gated silent passed
      have unchanged : after.bufferSize = owned.engine.getBufferSize := by
        simp [bufferSize,owner,same]
      refine ⟨kept,by rw [unchanged,← size]; exact full,fun drainable => drainable.1 ?_⟩
      rw [unchanged,remembered,same,ite_self]

theorem stuck_preserved (positive : 0 < params.flushMinNewAudioMs.val)
    (stuck : Stuck params s.session) (one : Step params s action next) :
    Stuck params next.session := by
  cases one with
  | chunk nonempty => exact stuck_preserved_by_chunk stuck
  | cycle ran => exact stuck_preserved_by_cycle positive stuck ran

theorem runs_stuck (positive : 0 < params.flushMinNewAudioMs.val)
    (stuck : Stuck params s.session) (path : Runs params s trace next) : Stuck params next.session :=
  path.invariant (I := fun s => Stuck params s.session) stuck (stuck_preserved positive)

theorem stuck_not_recoverable (positive : 0 < params.flushMinNewAudioMs.val)
    (stuck : Stuck params s.session) : ¬ Recoverable params s := by
  rintro ⟨trace,next,path,drained⟩
  exact absurd (runs_stuck positive stuck path).full (Nat.not_le.mpr drained)

-- With the silence flush a pass becomes due if the buffer grew, and with the
-- wrap-around of the difference if it shrank.
theorem triggered_later (positive : 0 < params.flushMinNewAudioMs.val)
    (full : minBufferSamples ≤ size) (capped : size ≤ maxBufferSamples)
    (remembered : session.lastTranscribedSize ≤ maxBufferSamples)
    (differs : size ≠ session.lastTranscribedSize) (now : Instant) :
    ∃ elapsed : Nat, triggered params session size (now + elapsed) = true := by
  rcases Nat.lt_or_gt_of_ne differs with smaller | larger
  · have bound := params.flushMinNewAudioMs.property
    have wrapped : msToSamples16kHz params.flushMinNewAudioMs ≤
        newSamples size session.lastTranscribedSize := by
      simp only [msToSamples16kHz,newSamples,sizeT,maxBufferSamples] at *
      omega
    exact ⟨0,by simp [triggered,full,wrapped]⟩
  · let elapsed := (session.lastAudioTime - now + 401000000).toNat
    have quiet : 400 < (now + elapsed - session.lastAudioTime).tdiv (milliseconds 1) := by
      have late : 401 * milliseconds 1 ≤ now + elapsed - session.lastAudioTime := by
        simp only [milliseconds]
        omega
      have divided := Int.tdiv_le_tdiv (by decide : 0 < milliseconds 1) late
      have exact401 : (401 * milliseconds 1).tdiv (milliseconds 1) = 401 := by decide
      omega
    exact ⟨elapsed,by simp [triggered,full,larger,quiet]⟩

theorem drainable_recoverable (positive : 0 < params.flushMinNewAudioMs.val)
    (sound : Sound params s.session)
    (full : highWaterMark ≤ s.session.bufferSize) (drainable : Drainable params s.session) :
    Recoverable params s := by
  obtain ⟨ready,remembered,owned,present,capped,padding⟩ := sound
  have size : s.session.bufferSize = owned.engine.getBufferSize := by simp [bufferSize,present]
  obtain ⟨differs,hearing⟩ := drainable
  rw [size] at full differs hearing
  have drains : ∃ used result, owned.engine.transcribeSlidingWindow false
      (draining owned.engine.audioBuffer.length) = (used,.ok result) ∧
        used.getBufferSize < highWaterMark := by
    cases gated : owned.engine.vadGate with
    | none => exact transcribe_draining_ungated gated full capped
    | some gate =>
      rw [gated] at padding
      obtain ⟨fitted,pad⟩ := pad_configured padding
      rcases hearing with ungated | hearing
      · rw [fitted] at ungated; cases ungated
      · exact transcribe_draining_gated gated (by rw [pad]; exact hearing) full capped
  obtain ⟨used,result,passed,drained⟩ := drains
  obtain ⟨elapsed,due⟩ := triggered_later positive (Nat.le_trans (by decide) full) capped
    remembered differs s.clock
  obtain ⟨after,ran,owner,_⟩ := wholeCycle_pass present ready due passed
  exact ⟨_,⟨after,_⟩,.single (.cycle ran),by simpa [bufferSize,owner] using drained⟩

-- A full buffer is left again exactly when the last pass did not already see it
-- at its present size and the padding leaves the gate something to let through.
theorem full_buffer_recoverable_iff (params : SessionParams)
    (positive : 0 < params.flushMinNewAudioMs.val)
    (reached : Runs params (configured params origin now first) trace s) :
    Recoverable params s ↔
      s.session.bufferSize < highWaterMark ∨ Drainable params s.session := by
  have sound := runs_sound reached
  constructor
  · intro recoverable
    by_contra neither
    rw [not_or,Nat.not_lt] at neither
    exact stuck_not_recoverable positive ⟨sound,neither.1,neither.2⟩ recoverable
  · rintro (room | drainable)
    · exact ⟨[],s,.nil,room⟩
    · by_cases full : highWaterMark ≤ s.session.bufferSize
      · exact drainable_recoverable positive sound full drainable
      · exact ⟨[],s,.nil,Nat.lt_of_not_le full⟩

theorem chunk_taken (params : SessionParams) (s : State) (nonempty : audio ≠ [])
    (present : s.session.engine = some owned)
    (ready : s.session.configured = true) (room : owned.engine.getBufferSize < highWaterMark) :
    ∃ next longer, Step params s (.chunk 0 audio) next ∧ next.session.configured = true ∧
      next.session.engine = some ⟨owned.id,longer⟩ ∧ longer.vadGate = owned.engine.vadGate ∧
      longer.getBufferSize = min maxBufferSamples (owned.engine.getBufferSize + audio.length) ∧
      next.session.lastTranscribedSize = s.session.lastTranscribedSize := by
  refine ⟨_,(owned.engine.processAudioChunk audio).2,.chunk nonempty,?_⟩
  rcases s.session.processAudioChunk_cases (s.clock + (0 : Nat)) audio with
    ⟨missing | unready,_⟩ | ⟨found,owner,_,⟨full,_⟩ | ⟨_,taken⟩⟩
  · rw [present] at missing; cases missing
  · rw [ready] at unready; cases unready
  all_goals
    have same : found = owned := Option.some.inj (owner.symm.trans present)
    subst found
  · omega
  · rw [taken]
    exact ⟨ready,rfl,processAudioChunk_vadGate _ _,processAudioChunk_size room,rfl⟩

theorem chunk_dropped (params : SessionParams) (s : State) (nonempty : audio ≠ [])
    (present : s.session.engine = some owned)
    (ready : s.session.configured = true) (full : highWaterMark ≤ owned.engine.getBufferSize) :
    ∃ next, Step params s (.chunk 0 audio) next ∧ next.session.bufferOverflowed = true ∧
      next.session.engine = some owned ∧
      next.session.lastTranscribedSize = s.session.lastTranscribedSize := by
  refine ⟨_,.chunk nonempty,?_⟩
  rcases s.session.processAudioChunk_cases (s.clock + (0 : Nat)) audio with
    ⟨missing | unready,_⟩ | ⟨found,owner,_,⟨_,dropped⟩ | ⟨room,_⟩⟩
  · rw [present] at missing; cases missing
  · rw [ready] at unready; cases unready
  · rw [dropped]
    exact ⟨rfl,present,rfl⟩
  · have same : found = owned := Option.some.inj (owner.symm.trans present)
    subst found
    omega

def tenSeconds : List Sample := List.replicate 160000 0

theorem transcribe_silence {engine : StreamingWhisperEngine} (ungated : engine.vadGate = none)
    (nonempty : 0 < engine.getBufferSize) :
    ∃ used, engine.transcribeSlidingWindow false SessionMachine.silence = (used,.ok ⟨[],[]⟩) ∧
      used.getBufferSize = engine.getBufferSize := by
  have some_samples : engine.audioBuffer.isEmpty = false := by
    simpa using List.length_pos_iff.mp nonempty
  refine ⟨{ engine with language := lockLanguage engine.language none },?_,rfl⟩
  simp [transcribeSlidingWindow,some_samples,infer,ungated,SessionMachine.silence,commit,commitPoint,
    lastSegmentBefore,concatTexts,Erase.apply]

-- Two chunks fill the buffer to the mark, a pass over silence remembers its
-- size, and the next chunk is dropped.
theorem silent_run : ∃ trace s,
    trace.map Prod.snd = [.chunk 0 tenSeconds,.chunk 0 tenSeconds,.cycle 0 true SessionMachine.silence,
      .chunk 0 tenSeconds] ∧
    Runs SessionMachine.defaultParams
      (configured SessionMachine.defaultParams (.create 0) 0 0) trace s ∧
    s.session.bufferOverflowed = true ∧ Stuck SessionMachine.defaultParams s.session := by
  have length : tenSeconds.length = 160000 := List.length_replicate
  have nonempty : tenSeconds ≠ [] := List.ne_nil_of_length_pos (by rw [length]; decide)
  let params := SessionMachine.defaultParams
  let origin := configured params (.create 0) 0 0
  obtain ⟨first,one,step1,ready1,present1,ungated1,size1,last1⟩ := chunk_taken params origin
    nonempty rfl rfl (by decide)
  replace size1 : one.getBufferSize = 160000 := by rw [size1,length]; decide
  obtain ⟨second,two,step2,ready2,present2,ungated2,size2,last2⟩ := chunk_taken params first
    nonempty present1 ready1 (by rw [size1]; decide)
  replace size2 : two.getBufferSize = 320000 := by rw [size2,size1,length]; decide
  have ungated : two.vadGate = none := ungated2.trans ungated1
  obtain ⟨used,passed,kept⟩ := transcribe_silence ungated (by omega)
  have nothing : second.session.lastTranscribedSize = 0 := last2.trans last1
  have due : triggered params second.session two.getBufferSize (second.clock + (0 : Nat)) = true := by
    have enough : msToSamples16kHz params.flushMinNewAudioMs ≤ newSamples 320000 0 := by decide
    simp [triggered,size2,nothing,enough,minBufferSamples]
  obtain ⟨after,ran,present3,ready3,last3⟩ := wholeCycle_pass present2 ready2 due passed
  let third : State := ⟨after,second.clock + (0 : Nat)⟩
  have step3 : Step params second (.cycle 0 true SessionMachine.silence) third := .cycle ran
  have full : highWaterMark ≤ used.getBufferSize := by rw [kept,size2]; decide
  obtain ⟨fourth,step4,overflowed,present4,last4⟩ := chunk_dropped params third
    nonempty present3 ready3 full
  have path : Runs params origin _ fourth := .step (.step (.step (.single step1) step2) step3) step4
  refine ⟨_,fourth,by simp,path,overflowed,runs_sound path,?_,fun drainable => drainable.1 ?_⟩
  · simpa [bufferSize,present4] using full
  · simp [bufferSize,present4,last4,third,last3,kept]

theorem silent_pass_absorbs : ∃ trace s,
    trace.map Prod.snd = [.chunk 0 tenSeconds,.chunk 0 tenSeconds,.cycle 0 true SessionMachine.silence,
      .chunk 0 tenSeconds] ∧
    Runs SessionMachine.defaultParams
      (configured SessionMachine.defaultParams (.create 0) 0 0) trace s ∧
    s.session.bufferOverflowed = true ∧ ¬ Recoverable SessionMachine.defaultParams s := by
  obtain ⟨trace,s,actions,path,overflowed,stuck⟩ := silent_run
  exact ⟨trace,s,actions,path,overflowed,stuck_not_recoverable (by decide) stuck⟩

theorem silent_pass_recoverable_iff : ∃ trace s,
    Runs SessionMachine.defaultParams
      (configured SessionMachine.defaultParams (.create 0) 0 0) trace s ∧
    s.session.bufferOverflowed = true ∧
    (Recoverable SessionMachine.defaultParams s ↔
      s.session.bufferSize < highWaterMark ∨ Drainable SessionMachine.defaultParams s.session) := by
  obtain ⟨trace,s,_,path,overflowed,_⟩ := silent_run
  exact ⟨trace,s,path,overflowed,
    full_buffer_recoverable_iff SessionMachine.defaultParams (by decide) path⟩

end JotaTranscriber.Saturation

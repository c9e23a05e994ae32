import JotaTranscriber.SessionMachine

namespace JotaTranscriber.SessionMachine
open StreamingSession

variable (params : SessionParams)

-- The step relation as a function, so that a schedule can be replayed.
def advance (s : State) (action : Action) : Option State :=
  if !s.flusher.alive then none
  else
    match action with
    | .tick elapsed => some { s with clock := s.clock + elapsed }
    | .accept =>
      if s.receiver = .handshake then some { s with
        session := { s.session with flushRunning := true }, receiver := .reading, flusher := .waiting }
      else none
    | .acceptFails => if s.receiver = .handshake then some { s with receiver := .unwinding } else none
    | .text payload view =>
      if s.receiver = .reading ∧ s.closeCalled = false then
        let (session,receiver) := handleJsonMessage params s.session payload view
        some { s with session, receiver }
      else none
    | .binary payload =>
      if s.receiver = .reading ∧ s.closeCalled = false then
        let (session,receiver) := handleBinaryMessage params s.session s.clock payload
        some { s with session, receiver }
      else none
    | .readFails => if s.receiver = .reading then some { s with receiver := .unwinding } else none
    | .send =>
      match s.receiver with
      | .sending (message :: rest) next =>
        some { s with receiver := sendThen rest next, log := s.log ++ [.sent message] }
      | _ => none
    | .close failed =>
      match s.receiver with
      | .closing kind => some { s with receiver := afterClose kind failed, closeCalled := true }
      | _ => none
    | .acquire ctx =>
      if s.receiver = .acquiring then
        some { s with receiver := .configuring ctx, log := s.log ++ [.acquired ctx] }
      else none
    | .acquireFails what =>
      if s.receiver = .acquiring then some { s with receiver := configFailed what } else none
    | .install =>
      match s.receiver with
      | .configuring _ => some { s with
          session := StreamingSession.install params s.session s.clock s.nextEngine
          receiver := .sending [readyMessage params s.session] .read
          nextEngine := s.nextEngine + 1
          log := s.log ++ [.configured s.nextEngine] }
      | _ => none
    | .installFails what =>
      match s.receiver with
      | .configuring _ => some { s with
          session := s.session.installFailed, receiver := configFailed what }
      | _ => none
    | .join =>
      if s.receiver = .joining ∧ s.flusher = .exited then some { s with receiver := .finalizing } else none
    | .finalPass slot outcome =>
      if s.receiver = .finalizing then
        let done := s.session.handleEnd slot outcome
        some { s with session := done.session, receiver := done.next, log := s.log ++ done.events }
      else none
    | .release =>
      if s.receiver = .unwinding then
        let (session,events) := s.session.releaseModel
        some { s with session, receiver := .returned, log := s.log ++ events }
      else none
    | .destroy =>
      if s.receiver = .returned then
        some { s with session := s.session.stopFlushLoop, receiver := .destroying }
      else none
    | .destroyJoin =>
      if s.receiver = .destroying ∧ joinable s.flusher = true then
        some { s with receiver := .releasing }
      else none
    | .destroyRelease =>
      if s.receiver = .releasing then
        let (session,events) := s.session.releaseModel
        some { s with session, receiver := .destroyed, log := s.log ++ events }
      else none
    | .wake =>
      if s.flusher = .waiting ∧ s.session.flushRunning = true then some { s with flusher := .awake }
      else none
    | .exit =>
      if s.flusher = .waiting ∧ s.session.flushRunning = false then some { s with flusher := .exited }
      else none
    | .tryLockFails => if s.flusher = .awake then some { s with flusher := .waiting } else none
    | .cycle slot outcome =>
      if s.flusher = .awake then
        let done := FlushLoop.cycle params s.session s.clock slot outcome
        some { s with session := done.session, flusher := done.next, log := s.log ++ done.events }
      else none
    | .flushSend =>
      match s.flusher with
      | .sending message next =>
        some { s with flusher := .relocking next, log := s.log ++ [.sent message] }
      | _ => none
    | .relock outcome =>
      match s.flusher with
      | .relocking continuation =>
        let done := FlushLoop.relock s.session outcome continuation
        some { s with session := done.session, flusher := done.next, log := s.log ++ done.events }
      | _ => none

theorem guarded {condition : Prop} [Decidable condition] {result : State}
    (taken : (if condition then some result else none) = some next) : condition ∧ result = next := by
  split at taken
  · rename_i holds
    exact ⟨holds,Option.some.inj taken⟩
  · cases taken

theorem advance_of_move (alive : s.flusher.alive = true) (move : Move params s action next) :
    advance params s action = some next := by
  unfold advance
  rw [alive]
  cases move with
  | text pc live ran => simp [pc,live,ran]
  | binary pc live ran => simp [pc,live,ran]
  | finalPass pc ran => simp [pc,ran]
  | release pc ran => simp [pc,ran]
  | destroyRelease pc ran => simp [pc,ran]
  | cycle pc ran => simp [pc,ran]
  | relock pc ran => simp [pc,ran]
  | join pc ended => simp [pc,ended]
  | destroyJoin pc ended => simp [pc,ended]
  | wake pc running => simp [pc,running]
  | exit pc stopped => simp [pc,stopped]
  | tick => simp
  | accept pc | acceptFails pc | readFails pc | send pc | close pc | acquire pc | acquireFails pc
  | install pc | installFails pc | destroy pc | tryLockFails pc | flushSend pc => simp [pc]

theorem move_of_advance (ran : advance params s action = some next) : Step params s action next := by
  unfold advance at ran
  split at ran
  · cases ran
  rename_i living
  refine ⟨by simpa using living,?_⟩
  cases action with
  | tick elapsed => cases ran; exact .tick
  | send =>
    dsimp only at ran
    split at ran
    · rename_i pc
      cases ran; exact .send pc
    · cases ran
  | close failed =>
    dsimp only at ran
    split at ran
    · rename_i pc
      cases ran; exact .close pc
    · cases ran
  | install =>
    dsimp only at ran
    split at ran
    · rename_i pc
      cases ran; exact .install pc
    · cases ran
  | installFails what =>
    dsimp only at ran
    split at ran
    · rename_i pc
      cases ran; exact .installFails pc
    · cases ran
  | flushSend =>
    dsimp only at ran
    split at ran
    · rename_i pc
      cases ran; exact .flushSend pc
    · cases ran
  | relock outcome =>
    dsimp only at ran
    split at ran
    · rename_i pc
      cases ran; exact .relock pc rfl
    · cases ran
  | accept => obtain ⟨pc,rfl⟩ := guarded ran; exact .accept pc
  | acceptFails => obtain ⟨pc,rfl⟩ := guarded ran; exact .acceptFails pc
  | text payload view => obtain ⟨⟨pc,live⟩,rfl⟩ := guarded ran; exact .text pc live rfl
  | binary payload => obtain ⟨⟨pc,live⟩,rfl⟩ := guarded ran; exact .binary pc live rfl
  | readFails => obtain ⟨pc,rfl⟩ := guarded ran; exact .readFails pc
  | acquire ctx => obtain ⟨pc,rfl⟩ := guarded ran; exact .acquire pc
  | acquireFails what => obtain ⟨pc,rfl⟩ := guarded ran; exact .acquireFails pc
  | join => obtain ⟨⟨pc,ended⟩,rfl⟩ := guarded ran; exact .join pc ended
  | finalPass slot outcome => obtain ⟨pc,rfl⟩ := guarded ran; exact .finalPass pc rfl
  | release => obtain ⟨pc,rfl⟩ := guarded ran; exact .release pc rfl
  | destroy => obtain ⟨pc,rfl⟩ := guarded ran; exact .destroy pc
  | destroyJoin => obtain ⟨⟨pc,ended⟩,rfl⟩ := guarded ran; exact .destroyJoin pc ended
  | destroyRelease => obtain ⟨pc,rfl⟩ := guarded ran; exact .destroyRelease pc rfl
  | wake => obtain ⟨⟨pc,running⟩,rfl⟩ := guarded ran; exact .wake pc running
  | exit => obtain ⟨⟨pc,stopped⟩,rfl⟩ := guarded ran; exact .exit pc stopped
  | tryLockFails => obtain ⟨pc,rfl⟩ := guarded ran; exact .tryLockFails pc
  | cycle slot outcome => obtain ⟨pc,rfl⟩ := guarded ran; exact .cycle pc rfl

theorem advance_exact : advance params s action = some next ↔ Step params s action next :=
  ⟨move_of_advance params,fun one => advance_of_move params one.1 one.2⟩

theorem step_functional (first : Step params s action next) (second : Step params s action other) :
    next = other :=
  Option.some.inj (((advance_exact params).mpr first).symm.trans ((advance_exact params).mpr second))

theorem runs_deterministic (left : Runs params origin trace s) (right : Runs params origin trace next) :
    s = next :=
  left.deterministic right fun _ _ _ _ => step_functional params

def runGuarded (permitted : State → Action → Bool) (s : State) (actions : List Action) : Option State :=
  Machine.replay (advance params) permitted s actions

abbrev visited := Machine.visited (advance params)

theorem runGuarded_visited {permitted : State → Action → Bool}
    (ran : runGuarded params permitted s actions = some next) :
    (visited params s actions).map Prod.snd = actions ∧ Runs params s (visited params s actions) next ∧
      ∀ entry ∈ visited params s actions, permitted entry.1 entry.2 = true :=
  Machine.replay_visited (advance_exact params).mp ran

theorem runGuarded_sound {permitted : State → Action → Bool}
    (ran : runGuarded params permitted s actions = some next) :
    ∃ trace, trace.map Prod.snd = actions ∧ Runs params s trace next ∧
      ∀ entry ∈ trace, permitted entry.1 entry.2 = true :=
  ⟨_,runGuarded_visited params ran⟩

def run (s : State) (actions : List Action) : Option State :=
  runGuarded params (fun _ _ => true) s actions

theorem run_sound (ran : run params s actions = some next) :
    ∃ trace, trace.map Prod.snd = actions ∧ Runs params s trace next := by
  obtain ⟨trace,same,path,_⟩ := runGuarded_sound params ran
  exact ⟨trace,same,path⟩

-- The schedule of a client that opens a session, and what it leads to.
def emptyView : AuthView := ⟨[],⟨0,0,.denied⟩⟩

def configSchedule : List Action :=
  [.accept,.text configPayload emptyView,.acquire 0,.install,.send]

def configuredState : State :=
  { session := StreamingSession.install defaultParams { create 0 with flushRunning := true } 0 0
    receiver := .reading
    flusher := .waiting
    clock := 0
    closeCalled := false
    nextEngine := 1
    log := [.acquired 0,.configured 0,.sent (readyMessage defaultParams (create 0))] }

theorem config_run :
    (visited defaultParams (initial 0) configSchedule).map Prod.snd = configSchedule ∧
      Runs defaultParams (initial 0) (visited defaultParams (initial 0) configSchedule)
        configuredState := by
  obtain ⟨same,path,_⟩ := runGuarded_visited defaultParams
    (show runGuarded defaultParams (fun _ _ => true) (initial 0) configSchedule =
      some configuredState from rfl)
  exact ⟨same,path⟩

-- A binary frame of this many samples, and what it does to a configured session
-- within the first rate-limit window: below the mark it is taken, at the mark
-- it is dropped.
def frame (samples : Nat) : List UInt8 := List.replicate (4 * samples) 0

theorem handle_frame (params : SessionParams) (session : StreamingSession) (now : Instant)
    (ready : session.configured = true) (some_samples : 0 < samples)
    (bounded : 4 * samples ≤ maxFrameBytes)
    (recent : (now - session.rateLimitStart).tdiv (seconds 1) < 3) :
    ∃ counted audio, counted = { session with
        bytesReceivedInWindow := session.bytesReceivedInWindow + 4 * samples } ∧
      audio.length = samples ∧ handleBinaryMessage params session now (frame samples) =
        ((counted.processAudioChunk now audio).1,
          sendThen (counted.processAudioChunk now audio).2 .read) := by
  have length : (frame samples).length = 4 * samples := List.length_replicate
  refine ⟨_,float32Samples params.float32 (frame samples),rfl,?_,?_⟩
  · rw [length_float32Samples,length]
    omega
  · have fits : ¬ 4 * samples > maxFrameBytes := by omega
    have long : ¬ 4 * samples < 4 := by omega
    have set : (!session.configured) = false := by rw [ready]; rfl
    have whole : ¬ 4 * samples % 4 ≠ 0 := by omega
    have early : ¬ (now - session.rateLimitStart).tdiv (seconds 1) ≥ 3 := Int.not_le.mpr recent
    simp only [handleBinaryMessage,length,if_neg fits,if_neg long,set,Bool.false_eq_true,if_false,
      if_neg whole,early,false_and]

theorem frame_taken (s : State) (samples : Nat) (pc : s.receiver = .reading) (live : s.closeCalled = false)
    (ready : s.session.configured = true) (present : s.session.engine = some owned)
    (room : owned.engine.getBufferSize < StreamingWhisperEngine.highWaterMark)
    (some_samples : 0 < samples) (bounded : 4 * samples ≤ maxFrameBytes)
    (recent : (s.clock - s.session.rateLimitStart).tdiv (seconds 1) < 3) :
    ∃ longer, Move params s (.binary (frame samples)) { s with
        receiver := .reading
        session := { s.session with
          bytesReceivedInWindow := s.session.bytesReceivedInWindow + 4 * samples
          lastAudioTime := s.clock
          engine := some ⟨owned.id,longer⟩ } } ∧
      longer.vadGate = owned.engine.vadGate ∧
      longer.getBufferSize = min StreamingWhisperEngine.maxBufferSamples
        (owned.engine.getBufferSize + samples) := by
  obtain ⟨counted,audio,rfl,length,ran⟩ := handle_frame params s.session s.clock ready some_samples
    bounded recent
  refine ⟨(owned.engine.processAudioChunk audio).2,?_,by simp,
    by rw [StreamingWhisperEngine.processAudioChunk_size room,length]⟩
  rcases processAudioChunk_cases { s.session with
      bytesReceivedInWindow := s.session.bytesReceivedInWindow + 4 * samples } s.clock audio with
    ⟨missing | unready,_⟩ | ⟨found,owner,_,⟨full,_⟩ | ⟨_,taken⟩⟩
  · rw [show s.session.engine = none from missing] at present; cases present
  · rw [show s.session.configured = false from unready] at ready; cases ready
  all_goals
    have same : found = owned := Option.some.inj (owner.symm.trans present)
    subst found
  · omega
  · rw [taken] at ran
    exact Move.binary pc live ran

theorem frame_dropped (s : State) (samples : Nat) (pc : s.receiver = .reading)
    (live : s.closeCalled = false) (ready : s.session.configured = true)
    (present : s.session.engine = some owned)
    (full : owned.engine.getBufferSize ≥ StreamingWhisperEngine.highWaterMark)
    (some_samples : 0 < samples) (bounded : 4 * samples ≤ maxFrameBytes)
    (recent : (s.clock - s.session.rateLimitStart).tdiv (seconds 1) < 3) :
    Move params s (.binary (frame samples)) { s with
      receiver := sendThen ((if s.session.bufferOverflowed then [] else [.flowControl .pause]) ++
        (if (s.session.droppedChunks + 1) % warningIntervalChunks = 0 then
          [.bufferFull (s.session.droppedChunks + 1)] else [])) .read
      session := { s.session with
        bytesReceivedInWindow := s.session.bytesReceivedInWindow + 4 * samples
        lastAudioTime := s.clock
        bufferOverflowed := true
        droppedChunks := s.session.droppedChunks + 1 } } := by
  obtain ⟨counted,audio,rfl,_,ran⟩ := handle_frame params s.session s.clock ready some_samples
    bounded recent
  rcases processAudioChunk_cases { s.session with
      bytesReceivedInWindow := s.session.bytesReceivedInWindow + 4 * samples } s.clock audio with
    ⟨missing | unready,_⟩ | ⟨found,owner,_,⟨_,dropped⟩ | ⟨room,_⟩⟩
  · rw [show s.session.engine = none from missing] at present; cases present
  · rw [show s.session.configured = false from unready] at ready; cases ready
  all_goals
    have same : found = owned := Option.some.inj (owner.symm.trans present)
    subst found
  · rw [dropped] at ran
    exact Move.binary pc live ran
  · omega

theorem cycle_passed (s : State) (pc : s.flusher = .awake) (present : s.session.engine = some owned)
    (ready : s.session.configured = true) (steady : s.session.capacityDegraded = false)
    (calm : s.session.bufferOverflowed = false)
    (early : FlushLoop.watchdog params s.session s.clock = s.session)
    (due : FlushLoop.triggered params s.session owned.engine.getBufferSize s.clock = true)
    (passed : owned.engine.transcribeSlidingWindow false outcome = (used,.ok result)) :
    let done := FlushLoop.accumulate { s.session with engine := some ⟨owned.id,used⟩ } owned.id
      owned.engine.getBufferSize result
    Move params s (.cycle true outcome) { s with
      session := done.session
      flusher := done.next
      log := s.log ++ (.dereferenced owned.id (some owned.id) :: .pass result :: done.events) } := by
  have ran : FlushLoop.cycle params s.session s.clock true outcome =
      (FlushLoop.accumulate { s.session with engine := some ⟨owned.id,used⟩ } owned.id
        owned.engine.getBufferSize result).after [.dereferenced owned.id (some owned.id),.pass result] := by
    rw [FlushLoop.cycle,early]
    simp [present,ready,due,steady,FlushLoop.inferPass,passed,FlushLoop.afterPass,calm]
  exact .cycle pc ran

def heardState (longer : StreamingWhisperEngine) : State :=
  { configuredState with session := { configuredState.session with
      bytesReceivedInWindow := 128000
      lastAudioTime := 0
      engine := some ⟨0,longer⟩ } }

theorem heard_run (permitted : State → Action → Bool)
    (opens : runGuarded defaultParams permitted (initial 0) configSchedule = some configuredState)
    (hears : permitted configuredState (.binary (frame 32000)) = true) :
    ∃ longer trace, longer.getBufferSize = 32000 ∧ longer.vadGate = none ∧
      trace.map Prod.snd = configSchedule ++ [.binary (frame 32000)] ∧
      Runs defaultParams (initial 0) trace (heardState longer) ∧
      ∀ entry ∈ trace, permitted entry.1 entry.2 = true := by
  obtain ⟨trace,same,path,kept⟩ := runGuarded_sound defaultParams opens
  obtain ⟨longer,move,ungated,size⟩ := frame_taken defaultParams configuredState
    32000 rfl rfl rfl rfl (by decide) (by decide) (by decide) (by decide)
  refine ⟨longer,_,size.trans (by decide),ungated,?_,.step path ⟨rfl,move⟩,?_⟩
  · rw [List.map_append,same]
    rfl
  · intro entry present
    rcases List.mem_append.mp present with old | last
    · exact kept entry old
    · cases List.mem_singleton.mp last
      exact hears

def awakeState (longer : StreamingWhisperEngine) : State := { heardState longer with flusher := .awake }

theorem awake_run (permitted : State → Action → Bool)
    (opens : runGuarded defaultParams permitted (initial 0) configSchedule = some configuredState)
    (hears : permitted configuredState (.binary (frame 32000)) = true)
    (wakes : ∀ longer, permitted (heardState longer) .wake = true) :
    ∃ longer trace, longer.getBufferSize = 32000 ∧ longer.vadGate = none ∧
      trace.map Prod.snd = configSchedule ++ [.binary (frame 32000),.wake] ∧
      Runs defaultParams (initial 0) trace (awakeState longer) ∧
      ∀ entry ∈ trace, permitted entry.1 entry.2 = true := by
  obtain ⟨longer,trace,size,ungated,same,path,kept⟩ := heard_run permitted opens hears
  refine ⟨longer,_,size,ungated,?_,.step path ⟨rfl,.wake rfl rfl⟩,?_⟩
  · simp [same]
  · intro entry present
    rcases List.mem_append.mp present with old | last
    · exact kept entry old
    · cases List.mem_singleton.mp last
      exact wakes longer

theorem heard_due (longer : StreamingWhisperEngine) (size : longer.getBufferSize = 32000) :
    FlushLoop.triggered defaultParams (heardState longer).session longer.getBufferSize 0 = true := by
  rw [size]
  rfl

theorem heard_busy (longer : StreamingWhisperEngine) (size : longer.getBufferSize = 32000)
    (outcome : Outcome) :
    FlushLoop.cycle defaultParams (heardState longer).session 0 false outcome =
      ⟨{ (heardState longer).session with capacityDegraded := true },.sending .statusBusy .skip,[]⟩ := by
  unfold FlushLoop.cycle
  change (if !FlushLoop.triggered defaultParams (heardState longer).session longer.getBufferSize 0
    then _ else _) = _
  rw [heard_due longer size]
  rfl

theorem heard_free (longer : StreamingWhisperEngine) (size : longer.getBufferSize = 32000)
    (outcome : Outcome) :
    FlushLoop.cycle defaultParams { (heardState longer).session with capacityDegraded := true } 0 true
        outcome =
      ⟨(heardState longer).session,.sending .statusOk (.infer 0 longer.getBufferSize),[]⟩ := by
  unfold FlushLoop.cycle
  change (if !FlushLoop.triggered defaultParams (heardState longer).session longer.getBufferSize 0
    then _ else _) = _
  rw [heard_due longer size]
  rfl

theorem heard_pass (longer : StreamingWhisperEngine) (size : longer.getBufferSize = 32000)
    (outcome : Outcome) :
    FlushLoop.cycle defaultParams (heardState longer).session 0 true outcome =
      FlushLoop.inferPass (heardState longer).session 0 longer.getBufferSize outcome := by
  unfold FlushLoop.cycle
  change (if !FlushLoop.triggered defaultParams (heardState longer).session longer.getBufferSize 0
    then _ else _) = _
  rw [heard_due longer size]
  rfl

def silence : Outcome := ⟨⟨true,some []⟩,.decoded [] none⟩

-- A first pass that hears one word commits nothing and shows it.
def greeting : Outcome := ⟨⟨true,some []⟩,.decoded [⟨some (bytes "hola"),10⟩] none⟩

theorem pass_greeting (longer : StreamingWhisperEngine) (size : longer.getBufferSize = 32000)
    (ungated : longer.vadGate = none) :
    ∃ used, longer.transcribeSlidingWindow false greeting = (used,.ok ⟨bytes "hola",[]⟩) := by
  have decided : StreamingWhisperEngine.commit none false longer.getBufferSize longer.getBufferSize
      [⟨some (bytes "hola"),10⟩] = (⟨bytes "hola",[]⟩,.keep) := by
    rw [size]
    decide
  exact ⟨_,StreamingWhisperEngine.transcribeSlidingWindow_ungated ungated (by omega) rfl decided⟩

theorem heard_greeting (longer : StreamingWhisperEngine) (size : longer.getBufferSize = 32000)
    (ungated : longer.vadGate = none) :
    ∃ session events,
      FlushLoop.cycle defaultParams (heardState longer).session 0 true greeting =
        ⟨session,.sending (.transcription (bytes "hola") false none) .finish,events⟩ ∧
      session.idleShutdownTriggered = false := by
  obtain ⟨used,passed⟩ := pass_greeting longer size ungated
  have shown : FlushLoop.showable (bytes "hola") = true := by decide +kernel
  refine ⟨{ (heardState longer).session with
      engine := some ⟨0,used⟩
      lastTranscribedSize := longer.getBufferSize },
    [.dereferenced 0 (some 0),.pass ⟨bytes "hola",[]⟩],?_,rfl⟩
  rw [heard_pass longer size]
  simp [FlushLoop.inferPass,heardState,passed,FlushLoop.afterPass,configuredState,StreamingSession.install,
    create,FlushLoop.accumulate,Flushed.after,FlushLoop.filtered,shown]

end JotaTranscriber.SessionMachine

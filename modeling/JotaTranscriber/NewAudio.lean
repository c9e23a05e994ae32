import JotaTranscriber.CommitAccounting
import JotaTranscriber.FinalMessage
import JotaTranscriber.FlowControl

-- What flushLoop takes for new audio, and what no pass has seen.
namespace JotaTranscriber.NewAudio
open SessionMachine StreamingSession FlushLoop
open FlowControl (admitted handleBinaryMessage_chunk filledState)
open StreamingWhisperEngine (maxBufferSamples highWaterMark)
open CommitAccounting (pledged transcribe_text transcribe_size)
open ConcurrentAudio (commitEnd)

-- A frame whose chunk goes into the buffer.
def takes (session : StreamingSession) (now : Instant) (data : List UInt8) : Bool :=
  admitted session now data && session.engine.isSome && decide (session.bufferSize < highWaterMark)

def passes (done : Flushed) : Bool :=
  done.events.any fun
    | .pass _ => true
    | _ => false

-- What a run does to the audio that no pass of the current engine has seen. A
-- pass takes a snapshot of the whole buffer.
inductive Mark where
  | configured
  | snapshot
  | accepted (samples : Nat)
  deriving DecidableEq

section Runs
variable (params : SessionParams)

def mark (s : State) : Action → Option Mark
  | .install => some .configured
  | .binary data => if takes s.session s.clock data then some (.accepted (data.length / 4)) else none
  | .cycle slot outcome =>
    if passes (cycle params s.session s.clock slot outcome) then some .snapshot else none
  | .relock outcome =>
    match s.flusher with
    | .relocking next => if passes (relock s.session outcome next) then some .snapshot else none
    | _ => none
  | _ => none

def count (arrived : Nat) : Option Mark → Nat
  | some .configured | some .snapshot => 0
  | some (.accepted samples) => arrived + samples
  | none => arrived

-- The samples taken since the last snapshot; at the end of the buffer stand as
-- many of them as there is room for.
def unheard (trace : List (State × Action)) : Nat :=
  trace.foldl (fun arrived entry => count arrived (mark params entry.1 entry.2)) 0

theorem unheard_snoc (trace : List (State × Action)) (s : State) (action : Action) :
    unheard params (trace ++ [(s,action)]) = count (unheard params trace) (mark params s action) :=
  List.foldl_concat ..

-- The trigger is evaluated in a cycle that gets past the size check.
def evaluates (s : State) : Prop :=
  s.flusher = .awake ∧ s.session.configured = true ∧ s.session.engine.isSome = true ∧
    minBufferSamples ≤ s.session.bufferSize

structure Sound (session : StreamingSession) (arrived : Nat) : Prop where
  noWrap : session.lastTranscribedSize ≤ session.bufferSize
  counted : min session.bufferSize arrived ≤ session.bufferSize - session.lastTranscribedSize

-- Where a cycle is: before its pass with the size it has read, behind the pass
-- with last_transcribed_size_ still to be set, or outside of both.
inductive Window where
  | closed
  | inferring (currentSize : Nat)
  | telling (currentSize : Nat) (result : TranscribeResult)
  | ended

def window : Flusher → Window
  | .sending _ (.infer _ currentSize) | .relocking (.infer _ currentSize) => .inferring currentSize
  | .sending _ (.resume _ currentSize result) | .relocking (.resume _ currentSize result)
  | .sending _ (.clear _ currentSize result) | .relocking (.clear _ currentSize result) =>
    .telling currentSize result
  | .exited | .crashed _ | .faulted => .ended
  | _ => .closed

-- A chunk that costs none of what has been counted: the 30 s cap takes nothing
-- from the front, and no committed text waits to be accounted for.
def spares (session : StreamingSession) (samples : Nat) : Window → Bool
  | .closed => decide (session.lastTranscribedSize = 0) ||
      decide (session.bufferSize + samples ≤ maxBufferSamples)
  | .telling _ result => result.committedText.isEmpty &&
      decide (session.bufferSize + samples ≤ maxBufferSamples)
  | .inferring _ | .ended => true

def fits : Window → Bool
  | .inferring _ => false
  | .telling _ result => !result.committedText.isEmpty
  | .closed | .ended => true

-- A pass that commits no text leaves the size the cycle has read.
def spends (currentSize : Nat) (outcome : Outcome) (owned : OwnedEngine) : Bool :=
  !(pledged owned.engine outcome).isEmpty ||
    decide (currentSize + commitEnd owned.engine outcome ≤ owned.engine.getBufferSize)

def keeps (s : State) : Action → Bool
  | .binary data => !takes s.session s.clock data || spares s.session (data.length / 4) (window s.flusher)
  | .install => fits (window s.flusher)
  | .cycle slot outcome =>
    !(slot && !s.session.capacityDegraded && reaches params s.session s.clock) ||
      s.session.engine.all (spends s.session.bufferSize outcome)
  | .relock outcome =>
    match s.flusher with
    | .relocking (.infer _ currentSize) => s.session.engine.all (spends currentSize outcome)
    | _ => true
  | _ => true

end Runs

def Kept (session : StreamingSession) (arrived : Nat) : Window → Prop
  | .closed => session.lastTranscribedSize = 0 ∨
      session.lastTranscribedSize + arrived ≤ session.bufferSize
  | .inferring currentSize => currentSize ≤ session.bufferSize
  | .telling currentSize result =>
    if result.committedText = [] then currentSize + arrived ≤ session.bufferSize else arrived = 0
  | .ended => True

def Accounted (s : State) (arrived : Nat) : Prop :=
  s.session.engine.isSome = true → Kept s.session arrived (window s.flusher)

theorem Kept.sound {session : StreamingSession} (kept : Kept session arrived .closed) : Sound session arrived := by
  rcases kept with zero | counted
  · exact ⟨by omega,by omega⟩
  · exact ⟨by omega,by omega⟩

def Leaves (arrived : Nat) (done : Flushed) : Prop :=
  done.session.engine.isSome = true → Kept done.session arrived (window done.next)

section Flush
variable {session : StreamingSession} {result : TranscribeResult} {currentSize arrived : Nat}
  {outcome : Outcome} {now : Instant} {slot : Bool}

theorem accumulate_leaves (cycleEngine : Nat) (kept : Kept session arrived (.telling currentSize result)) :
    Leaves arrived (accumulate session cycleEngine currentSize result) := by
  intro present
  have settled : Kept (accumulate session cycleEngine currentSize result).session arrived .closed := by
    simp only [Kept] at kept
    simp only [accumulate,Kept]
    cases texts : result.committedText with
    | nil =>
      rw [texts,if_pos rfl] at kept
      exact .inr kept
    | cons first rest =>
      rw [texts,if_neg (List.cons_ne_nil _ _)] at kept
      rw [kept]
      exact .inr (Nat.le_refl _)
  rcases accumulate_next session cycleEngine currentSize result with waits | ⟨faults,_⟩ | sends
  · rw [waits]; exact settled
  · rw [faults]; trivial
  · rw [sends]; exact settled

theorem afterPass_leaves (owned : OwnedEngine) (cycleEngine : Nat)
    (kept : Kept session arrived (.telling currentSize result)) :
    Leaves arrived (afterPass session owned cycleEngine currentSize result) := by
  rcases afterPass_cases session owned cycleEngine currentSize result with
    ⟨_,_,message,next,opened,⟨_,rfl⟩ | ⟨_,rfl⟩⟩ | ⟨_,reads,_,direct⟩
  · rw [opened]; exact fun _ => kept
  · rw [opened]; exact fun _ => kept
  · rw [direct]
    exact accumulate_leaves cycleEngine kept

theorem inferPass_leaves (cycleEngine arrived : Nat)
    (spent : session.engine.all (spends currentSize outcome) = true) :
    let done := inferPass session cycleEngine currentSize outcome
    Leaves (count arrived (if passes done then some .snapshot else none)) done := by
  intro done
  rcases inferPass_cases session cycleEngine currentSize outcome with
    ⟨_,faults⟩ | ⟨owned,used,present,⟨_,_,fails⟩ | ⟨result,ran,passed⟩⟩
  · rw [show done = _ from faults]
    exact fun _ => trivial
  · rw [show done = _ from fails]
    exact fun _ => trivial
  · have heard : passes done = true := by
      rw [show done = _ from passed]
      rfl
    have text := transcribe_text ran
    have size := transcribe_size ran
    have room : Kept { session with engine := some ⟨owned.id,used⟩ } 0 (.telling currentSize result) := by
      rw [present] at spent
      simp only [Option.all_some,spends,Bool.or_eq_true,Bool.not_eq_true',List.isEmpty_eq_false_iff,
        decide_eq_true_eq] at spent
      simp only [Kept,bufferSize,Option.map_some,Option.getD_some]
      by_cases silent : result.committedText = []
      · rw [if_pos silent]
        have left := spent.resolve_left (not_not.mpr (text.symm.trans silent))
        omega
      · rw [if_neg silent]
        trivial
    rw [if_pos heard,show done = _ from passed]
    exact afterPass_leaves ⟨owned.id,used⟩ cycleEngine room

theorem passes_quiet (session : StreamingSession) (next : Flusher) : passes ⟨session,next,[]⟩ = false := rfl

theorem cycle_leaves (params : SessionParams)
    (kept : session.engine.isSome = true → Kept session arrived .closed)
    (spent : (slot && !session.capacityDegraded && reaches params session now) = true →
      session.engine.all (spends session.bufferSize outcome) = true) :
    let done := cycle params session now slot outcome
    Leaves (count arrived (if passes done then some .snapshot else none)) done := by
  intro done
  obtain ⟨idle,frame⟩ := watchdog_frame params session now
  rcases cycle_cases params session now slot outcome with
    ⟨quiet,_⟩ | ⟨owned,present,ready,due,⟨_,_,busy⟩ | ⟨_,_,free⟩ | ⟨granted,calm,direct⟩⟩
  · rw [show done = _ from quiet,passes_quiet,frame]
    exact kept
  · rw [show done = _ from busy,passes_quiet,frame]
    exact kept
  · rw [frame] at present
    rw [show done = _ from free,passes_quiet,frame]
    intro _
    simp only [window,Kept,bufferSize]
    rw [show session.engine = some owned from present]
    exact Nat.le_refl _
  · rw [show done = _ from direct]
    rw [watchdog_engine] at present
    rw [watchdog_configured] at ready
    rw [watchdog_capacityDegraded] at calm
    rw [triggered_watchdog] at due
    have reached : reaches params session now = true := by
      simp only [reaches,present,ready,due,Bool.and_self]
    have size : session.bufferSize = owned.engine.getBufferSize := by simp [bufferSize,present]
    refine inferPass_leaves owned.id arrived ?_
    rw [watchdog_engine,← size]
    exact spent (by simp [granted,calm,reached])

theorem accumulate_quiet (session : StreamingSession) (cycleEngine currentSize : Nat)
    (result : TranscribeResult) : passes (accumulate session cycleEngine currentSize result) = false := by
  unfold accumulate passes
  dsimp only
  split <;> rfl

theorem relock_leaves {next : Continuation}
    (kept : session.engine.isSome = true → Kept session arrived (window (.relocking next)))
    (spent : ∀ cycleEngine currentSize, next = .infer cycleEngine currentSize →
      session.engine.all (spends currentSize outcome) = true) :
    let done := relock session outcome next
    Leaves (count arrived (if passes done then some .snapshot else none)) done := by
  intro done
  cases next with
  | skip => exact kept
  | finish => exact kept
  | infer cycleEngine currentSize => exact inferPass_leaves cycleEngine arrived (spent _ _ rfl)
  | resume cycleEngine currentSize result => exact kept
  | clear cycleEngine currentSize result =>
    have quiet : passes done = false := accumulate_quiet _ _ _ _
    rw [quiet]
    intro present
    exact accumulate_leaves cycleEngine (kept present) present

end Flush

section Session
variable {params : SessionParams} {arrived : Nat}

theorem kept_same {before after : StreamingSession} {place : Window} (kept : Kept before arrived place)
    (size : after.bufferSize = before.bufferSize)
    (counted : after.lastTranscribedSize = before.lastTranscribedSize) : Kept after arrived place := by
  cases place with
  | closed | inferring => simpa only [Kept,size,counted] using kept
  | telling => simpa only [Kept,size] using kept
  | ended => trivial

theorem kept_taken {before after : StreamingSession} {place : Window} {samples : Nat}
    (kept : Kept before arrived place) (spared : spares before samples place = true)
    (room : before.bufferSize < highWaterMark)
    (size : after.bufferSize = min maxBufferSamples (before.bufferSize + samples))
    (counted : after.lastTranscribedSize = before.lastTranscribedSize) :
    Kept after (arrived + samples) place := by
  simp only [highWaterMark] at room
  have cap : maxBufferSamples = 480000 := rfl
  cases place with
  | closed =>
    simp only [spares,Bool.or_eq_true,decide_eq_true_eq] at spared
    simp only [Kept] at kept ⊢
    omega
  | inferring =>
    simp only [Kept] at kept ⊢
    omega
  | telling currentSize result =>
    simp only [spares,Bool.and_eq_true,List.isEmpty_iff,decide_eq_true_eq] at spared
    simp only [Kept,if_pos spared.1] at kept ⊢
    omega
  | ended => trivial

theorem binary_accounted {s : State} {data : List UInt8} {after : StreamingSession} {next : Receiver}
    (kept : Accounted s arrived) (allowed : keeps params s (.binary data) = true)
    (ran : handleBinaryMessage params s.session s.clock data = (after,next)) :
    Accounted { s with session := after, receiver := next } (count arrived (mark params s (.binary data))) := by
  intro present
  obtain ⟨received,start,⟨ignored,rfl,_⟩ | ⟨accepted,owned,owner,⟨full,rfl,_⟩ | ⟨room,rfl,_⟩⟩⟩ :=
    handleBinaryMessage_chunk ran
  · have untaken : takes s.session s.clock data = false := by
      rcases ignored with refused | missing
      · simp [takes,refused]
      · simp [takes,missing]
    rw [show mark params s (.binary data) = none by simp [mark,untaken]]
    exact kept_same (kept present) rfl rfl
  · have untaken : takes s.session s.clock data = false := by
      simp [takes,Nat.not_lt.mpr full]
    rw [show mark params s (.binary data) = none by simp [mark,untaken]]
    exact kept_same (kept (by rw [owner]; rfl)) rfl rfl
  · have taken : takes s.session s.clock data = true := by
      simp [takes,accepted,owner,room]
    rw [show mark params s (.binary data) = some (.accepted (data.length / 4)) by simp [mark,taken]]
    have spared : spares s.session (data.length / 4) (window s.flusher) = true := by
      simpa [keeps,taken] using allowed
    have size : s.session.bufferSize = owned.engine.getBufferSize := by simp [bufferSize,owner]
    refine kept_taken (kept (by rw [owner]; rfl)) spared room ?_ rfl
    rw [size] at room ⊢
    exact (StreamingWhisperEngine.processAudioChunk_size room).trans (by rw [length_float32Samples])

theorem install_accounted {s : State} (allowed : keeps params s .install = true) :
    Accounted { s with
      session := StreamingSession.install params s.session s.clock s.nextEngine
      receiver := .sending [readyMessage params s.session] .read
      nextEngine := s.nextEngine + 1
      log := s.log ++ [.configured s.nextEngine] } 0 := by
  intro _
  simp only [keeps] at allowed
  cases place : window s.flusher with
  | closed => exact .inl rfl
  | inferring => rw [place] at allowed; cases allowed
  | telling currentSize result =>
    rw [place,fits,Bool.not_eq_true',List.isEmpty_eq_false_iff] at allowed
    simp only [Kept,if_neg allowed]
  | ended => trivial

theorem release_accounted {s : State} {after : StreamingSession} {events : List Event} {next : Receiver}
    (before : Accounted s arrived) (ran : s.session.releaseModel = (after,events)) :
    Accounted { s with session := after, receiver := next, log := s.log ++ events } arrived := by
  intro present
  rcases releaseModel_cases ran with ⟨_,_,rfl⟩ | ⟨_,_,rfl⟩
  · cases present
  · exact before present

theorem accounted_preserved {s next : State} (before : Accounted s arrived)
    (handshake : Handshake s) (phase : FinalMessage.Phase s) (allowed : keeps params s action = true)
    (move : Move params s action next) : Accounted next (count arrived (mark params s action)) := by
  cases move with
  | tick | acquire | acquireFails | acceptFails | readFails | send | close | join | destroyJoin =>
    exact before
  | accept pc =>
    have closed := handshake pc
    simp only [Accounted,closed] at before
    exact before
  | text pc live ran =>
    intro present
    rcases handleJsonMessage_cases ran with ⟨rfl,_⟩ | ⟨_,rfl,_⟩ | ⟨rfl,_⟩ | ⟨rfl,_⟩
    all_goals exact kept_same (before present) rfl rfl
  | binary pc live ran => exact binary_accounted before allowed ran
  | install pc => exact install_accounted allowed
  | installFails pc => exact fun present => kept_same (before present) rfl rfl
  | finalPass pc ran =>
    have ended := (FinalMessage.opened_of_finalizing phase pc).joined pc
    intro _
    simp only [ended,window]
    trivial
  | release pc ran => exact release_accounted before ran
  | destroy pc => exact fun present => kept_same (before present) rfl rfl
  | destroyRelease pc ran => exact release_accounted before ran
  | wake pc =>
    simp only [Accounted,pc] at before
    exact before
  | exit pc => exact fun _ => trivial
  | tryLockFails pc =>
    simp only [Accounted,pc] at before
    exact before
  | cycle pc ran =>
    simp only [Accounted,pc] at before
    have left := cycle_leaves params before (by simpa [keeps,or_iff_not_imp_left] using allowed)
    simp only [ran] at left
    simp only [mark,ran]
    exact left
  | flushSend pc =>
    simp only [Accounted,pc] at before
    intro present
    have place : ∀ message continuation, window (.sending message continuation) =
        window (.relocking continuation) := by
      intro message continuation
      cases continuation <;> rfl
    rw [place] at before
    exact before present
  | relock pc ran =>
    simp only [Accounted,pc] at before
    rename_i outcome continuation _ _ _
    have spent : ∀ cycleEngine currentSize, continuation = .infer cycleEngine currentSize →
        s.session.engine.all (spends currentSize outcome) = true := by
      rintro cycleEngine currentSize rfl
      simpa [keeps,pc] using allowed
    have left := relock_leaves before spent
    simp only [ran] at left
    simp only [mark,pc,ran]
    exact left

theorem runs_accounted (path : Runs params (initial now) trace s)
    (allowed : ∀ entry ∈ trace, keeps params entry.1 entry.2 = true) :
    Accounted s (unheard params trace) := by
  refine path.history (I := fun trace s => Accounted s (unheard params trace))
    (C := fun s action => keeps params s action = true) allowed ?_ ?_
  · intro present
    cases present
  · intro past s action next earlier before permitted one
    rw [unheard_snoc]
    exact accounted_preserved before (runs_handshake params earlier) (FinalMessage.runs_phase earlier)
      permitted one.2

theorem new_audio_counted (path : Runs params (initial now) trace s)
    (allowed : ∀ entry ∈ trace, keeps params entry.1 entry.2 = true) (due : evaluates s) :
    Sound s.session (unheard params trace) := by
  obtain ⟨awake,_,present,_⟩ := due
  have kept := runs_accounted path allowed present
  rw [awake] at kept
  exact kept.sound

end Session

-- Until the first pass nothing counts as transcribed.
theorem counted_first {s : State} {data : List UInt8} (place : window s.flusher = .closed)
    (first : s.session.lastTranscribedSize = 0) : keeps params s (.binary data) = true := by
  simp [keeps,spares,place,first]

theorem new_audio_counted_first_cycle : ∃ longer trace, longer.getBufferSize = 32000 ∧
    trace.map Prod.snd = configSchedule ++ [.binary (frame 32000),.wake] ∧
    Runs defaultParams (initial 0) trace (awakeState longer) ∧ evaluates (awakeState longer) ∧
    Sound (awakeState longer).session (unheard defaultParams trace) := by
  have opens : runGuarded defaultParams (keeps defaultParams) (initial 0) configSchedule =
      some configuredState := rfl
  have hears : keeps defaultParams configuredState (.binary (frame 32000)) = true :=
    counted_first rfl rfl
  obtain ⟨longer,trace,size,_,same,path,kept⟩ := awake_run (keeps defaultParams) opens hears (fun _ => rfl)
  have due : evaluates (awakeState longer) := ⟨rfl,rfl,rfl,Nat.le_of_eq size.symm⟩
  exact ⟨longer,trace,size,same,path,due,new_audio_counted path kept due⟩

-- Whisper dates a segment it finds no text for.
def wordless : Outcome := ⟨⟨true,some []⟩,.decoded [⟨none,100⟩,⟨none,3000⟩] none⟩

theorem pass_wordless (longer : StreamingWhisperEngine) (size : longer.getBufferSize = 160000)
    (ungated : longer.vadGate = none) :
    ∃ used, longer.transcribeSlidingWindow false wordless = (used,.ok ⟨[],[]⟩) ∧
      used.getBufferSize = 144000 := by
  have nonempty : longer.audioBuffer ≠ [] := by
    rw [← List.length_pos_iff]
    exact Nat.lt_of_lt_of_eq (by decide) size.symm
  have heard : ConcurrentAudio.decoded longer wordless = some (none,160000) := by
    simp only [ConcurrentAudio.decoded,ungated]
    exact congrArg (fun size => some (none,size)) size
  obtain ⟨used,ran,_,buffer⟩ := CommitAccounting.transcribe_heard nonempty heard rfl false
  have answer : StreamingWhisperEngine.commit none false 160000 160000 [⟨none,100⟩,⟨none,3000⟩] =
      (⟨[],[]⟩,.front 16000) := by decide
  rw [size,answer] at ran buffer
  refine ⟨used,ran,?_⟩
  rw [StreamingWhisperEngine.getBufferSize,buffer,ConcurrentAudio.apply_front,List.length_drop,
    show longer.audioBuffer.length = 160000 from size]

theorem cycle_wordless (longer : StreamingWhisperEngine) (size : longer.getBufferSize = 160000)
    (ungated : longer.vadGate = none) :
    ∃ used events, used.getBufferSize = 144000 ∧
      cycle defaultParams (filledState 640000 longer).session 0 true wordless =
        ⟨{ (filledState 640000 longer).session with
          engine := some ⟨0,used⟩, lastTranscribedSize := longer.getBufferSize },.waiting,events⟩ := by
  obtain ⟨used,ran,left⟩ := pass_wordless longer size ungated
  have due : triggered defaultParams (filledState 640000 longer).session longer.getBufferSize 0 = true := by
    rw [size]
    rfl
  have passed : cycle defaultParams (filledState 640000 longer).session 0 true wordless =
      inferPass (filledState 640000 longer).session 0 longer.getBufferSize wordless := by
    unfold cycle
    change (if !triggered defaultParams (filledState 640000 longer).session longer.getBufferSize 0
      then _ else _) = _
    rw [due]
    rfl
  refine ⟨used,[.dereferenced 0 (some 0),.pass ⟨[],[]⟩],left,?_⟩
  rw [passed]
  simp [inferPass,filledState,ran,afterPass,configuredState,StreamingSession.install,create,accumulate,
    Flushed.after,filtered,showable]

-- Its audio is erased, its text is empty: the flush thread takes the size from
-- before the pass for transcribed, and the difference wraps around.
theorem wordless_commit_wraps : ∃ trace s,
    trace.map Prod.snd = configSchedule ++
      [.binary (frame 160000),.wake,.cycle true wordless,.wake] ∧
    Runs defaultParams (initial 0) trace s ∧ evaluates s ∧ s.session.bufferSize = 144000 ∧
    s.session.lastTranscribedSize = 160000 ∧ newSamples 144000 160000 = 2^64 - 16000 ∧
    ¬ Sound s.session (unheard defaultParams trace) := by
  obtain ⟨same,path⟩ := config_run
  obtain ⟨longer,first,ungated,size⟩ := frame_taken defaultParams configuredState
    160000 rfl rfl rfl rfl (by decide) (by decide) (by decide) (by decide)
  replace size : longer.getBufferSize = 160000 := size.trans (by decide)
  obtain ⟨used,events,left,ran⟩ := cycle_wordless longer size ungated
  have filled : Move defaultParams configuredState (.binary (frame 160000)) (filledState 640000 longer) :=
    first
  refine ⟨_,_,?_,.step (.step (.step (.step path ⟨rfl,filled⟩) ⟨rfl,.wake rfl rfl⟩)
    ⟨rfl,.cycle rfl ran⟩) ⟨rfl,.wake rfl rfl⟩,?_,left,size,by decide,?_⟩
  · simp [same]
  · exact ⟨rfl,rfl,rfl,Nat.le_of_lt (Nat.lt_of_lt_of_eq (by decide) left.symm)⟩
  · intro sound
    have noWrap : longer.getBufferSize ≤ used.getBufferSize := sound.noWrap
    omega

end JotaTranscriber.NewAudio

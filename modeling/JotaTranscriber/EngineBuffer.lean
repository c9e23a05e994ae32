import JotaTranscriber.Machine
import JotaTranscriber.ConcurrentAudio

-- The calls that change the audio buffer of one engine, one after the other.
namespace JotaTranscriber.EngineBuffer
open StreamingWhisperEngine ConcurrentAudio

inductive Action where
  | processAudioChunk (pcm : List Sample)
  | transcribeSlidingWindow (force : Bool) (outcome : Outcome)
  | reset (keepSamples : Nat)

def advance (engine : StreamingWhisperEngine) : Action → StreamingWhisperEngine
  | .processAudioChunk pcm => (engine.processAudioChunk pcm).2
  | .transcribeSlidingWindow force outcome => (engine.transcribeSlidingWindow force outcome).1
  | .reset keepSamples => engine.reset keepSamples

def Step (engine : StreamingWhisperEngine) (action : Action) (next : StreamingWhisperEngine) : Prop :=
  next = advance engine action

abbrev Runs := Machine.Runs Step

variable {engine next : StreamingWhisperEngine} {trace past : List (StreamingWhisperEngine × Action)}
  {action : Action} {gate : Option VadGate} {language : Text}

def heard (trace : List (StreamingWhisperEngine × Action)) : List Sample :=
  trace.flatMap fun
    | (engine,.processAudioChunk pcm) => taken engine pcm
    | _ => []

-- The length of the range a call erases from the front of the buffer it finds,
-- as the source computes it; clear() erases all there is.
def erased (engine : StreamingWhisperEngine) : Action → Nat
  | .processAudioChunk pcm =>
    let newTotalSize := engine.getBufferSize + pcm.length
    if engine.getBufferSize ≥ highWaterMark then 0
    else if newTotalSize > maxBufferSamples then
      if pcm.length ≥ maxBufferSamples then engine.getBufferSize else newTotalSize - maxBufferSamples
    else 0
  | .transcribeSlidingWindow force outcome =>
    if engine.audioBuffer.isEmpty then 0
    else
      match (engine.infer force engine.audioBuffer outcome).2 with
      | .error _ | .ok (_,.keep) => 0
      | .ok (_,.front samplesToErase) =>
        if samplesToErase < engine.getBufferSize then samplesToErase else engine.getBufferSize
      | .ok (_,.all) => engine.getBufferSize
  | .reset keepSamples =>
    if keepSamples = 0 ∨ keepSamples ≥ engine.getBufferSize then engine.getBufferSize
    else engine.getBufferSize - keepSamples

-- What a call puts behind the rest: of a chunk as long as the whole buffer only
-- its last 30 s.
def inserted (engine : StreamingWhisperEngine) : Action → List Sample
  | .processAudioChunk pcm => (taken engine pcm).drop (pcm.length - maxBufferSamples)
  | _ => []

theorem erased_inside (engine : StreamingWhisperEngine) (action : Action) :
    erased engine action ≤ engine.getBufferSize := by
  cases action with
  | processAudioChunk pcm =>
    simp only [erased]
    split
    · exact Nat.zero_le _
    · split
      · split
        · exact Nat.le_refl _
        · omega
      · exact Nat.zero_le _
  | transcribeSlidingWindow force outcome =>
    simp only [erased]
    split
    · exact Nat.zero_le _
    · split
      · exact Nat.zero_le _
      · exact Nat.zero_le _
      · split <;> omega
      · exact Nat.le_refl _
  | reset keepSamples =>
    simp only [erased]
    split
    · exact Nat.le_refl _
    · exact Nat.sub_le _ _

theorem taken_full (full : engine.getBufferSize ≥ highWaterMark) (pcm : List Sample) : taken engine pcm = [] :=
  if_pos full

theorem taken_room (room : engine.getBufferSize < highWaterMark) (pcm : List Sample) :
    taken engine pcm =
      (AudioPreprocessor.process pcm engine.hpPrevRaw engine.hpPrevFiltered).1 :=
  if_neg (Nat.not_le_of_lt room)

theorem apply_drop (erase : Erase) (buffer : List Sample) : erase.apply buffer =
    buffer.drop (match erase with
      | .keep => 0
      | .front samples => if samples < buffer.length then samples else buffer.length
      | .all => buffer.length) := by
  cases erase with
  | keep => rfl
  | front samples =>
    rw [apply_front]
    dsimp only
    split
    · rfl
    · rename_i past
      rw [List.drop_length,List.drop_eq_nil_of_le (Nat.le_of_not_lt past)]
  | all => rw [List.drop_length]; rfl

theorem erased_room (room : engine.getBufferSize < highWaterMark) (pcm : List Sample) :
    erased engine (.processAudioChunk pcm) =
      min engine.getBufferSize (engine.getBufferSize + pcm.length - maxBufferSamples) := by
  have taken : ¬ engine.getBufferSize ≥ highWaterMark := Nat.not_le_of_lt room
  have capped : engine.getBufferSize ≤ maxBufferSamples := by
    simp only [highWaterMark,maxBufferSamples] at room ⊢
    omega
  rw [erased,if_neg taken]
  by_cases exceeds : engine.getBufferSize + pcm.length > maxBufferSamples
  · rw [if_pos exceeds]
    by_cases long : pcm.length ≥ maxBufferSamples
    · rw [if_pos long,Nat.min_eq_left (by omega)]
    · rw [if_neg long,Nat.min_eq_right (by omega)]
  · rw [if_neg exceeds,Nat.min_eq_right (by omega)]
    omega

theorem chunk_buffer (engine : StreamingWhisperEngine) (pcm : List Sample) :
    (advance engine (.processAudioChunk pcm)).audioBuffer =
      engine.audioBuffer.drop (erased engine (.processAudioChunk pcm)) ++
        inserted engine (.processAudioChunk pcm) := by
  by_cases full : engine.getBufferSize ≥ highWaterMark
  · have nothing : erased engine (.processAudioChunk pcm) = 0 := if_pos full
    rw [advance,processAudioChunk_full full,nothing,inserted,taken_full full]
    simp
  · have room := Nat.lt_of_not_le full
    have excess : overCap engine pcm = engine.getBufferSize + pcm.length - maxBufferSamples := if_neg full
    have size : engine.getBufferSize = engine.audioBuffer.length := rfl
    have behind : overCap engine pcm - engine.audioBuffer.length = pcm.length - maxBufferSamples := by
      simp only [highWaterMark,maxBufferSamples] at room excess ⊢
      omega
    have front : engine.audioBuffer.drop (overCap engine pcm) =
        engine.audioBuffer.drop (erased engine (.processAudioChunk pcm)) := by
      rw [erased_room room,excess]
      by_cases past : engine.getBufferSize + pcm.length - maxBufferSamples ≤ engine.getBufferSize
      · rw [Nat.min_eq_right past]
      · rw [Nat.min_eq_left (Nat.le_of_not_le past),size,List.drop_length]
        exact List.drop_eq_nil_of_le (by omega)
    rw [advance,inserted,audioBuffer_processAudioChunk,List.drop_append,behind,front]

theorem pass_buffer (engine : StreamingWhisperEngine) (force : Bool) (outcome : Outcome) :
    (advance engine (.transcribeSlidingWindow force outcome)).audioBuffer =
      engine.audioBuffer.drop (erased engine (.transcribeSlidingWindow force outcome)) := by
  rw [advance,StreamingWhisperEngine.transcribeSlidingWindow,erased]
  split
  · rfl
  · have same := (engine.infer_frame force engine.audioBuffer outcome).1
    rcases ran : engine.infer force engine.audioBuffer outcome with ⟨used,error | ⟨result,erase⟩⟩
    · rw [ran] at same
      exact same
    · rw [ran] at same
      dsimp only at same ⊢
      rw [same,apply_drop]
      cases erase <;> rfl

theorem reset_buffer (engine : StreamingWhisperEngine) (keepSamples : Nat) :
    (advance engine (.reset keepSamples)).audioBuffer =
      engine.audioBuffer.drop (erased engine (.reset keepSamples)) := by
  by_cases all : keepSamples = 0 ∨ keepSamples ≥ engine.getBufferSize
  · have cleared : (engine.reset keepSamples).audioBuffer = [] := if_pos all
    have whole : erased engine (.reset keepSamples) = engine.audioBuffer.length := if_pos all
    rw [advance,cleared,whole,List.drop_length]
  · have kept : (engine.reset keepSamples).audioBuffer =
        engine.audioBuffer.drop (engine.audioBuffer.length - keepSamples) := if_neg all
    have front : erased engine (.reset keepSamples) = engine.audioBuffer.length - keepSamples := if_neg all
    rw [advance,kept,front]

theorem advance_buffer (engine : StreamingWhisperEngine) (action : Action) :
    (advance engine action).audioBuffer =
      engine.audioBuffer.drop (erased engine action) ++ inserted engine action := by
  cases action with
  | processAudioChunk pcm => exact chunk_buffer engine pcm
  | transcribeSlidingWindow force outcome =>
    exact (pass_buffer engine force outcome).trans (List.append_nil _).symm
  | reset keepSamples => exact (reset_buffer engine keepSamples).trans (List.append_nil _).symm

-- The buffer holds at most 30 s, the last of what the engine has let in.
structure Kept (past : List (StreamingWhisperEngine × Action)) (engine : StreamingWhisperEngine) : Prop where
  bounded : engine.getBufferSize ≤ maxBufferSamples
  suffix : engine.audioBuffer <:+ heard past

theorem fresh_kept (gate : Option VadGate) (language : Text) : Kept [] (fresh gate language) where
  bounded := Nat.zero_le _
  suffix := List.suffix_rfl

theorem advance_bounded (bounded : engine.getBufferSize ≤ maxBufferSamples) (action : Action) :
    (advance engine action).getBufferSize ≤ maxBufferSamples := by
  cases action with
  | processAudioChunk pcm =>
    by_cases full : engine.getBufferSize ≥ highWaterMark
    · rw [advance,processAudioChunk_full full]
      exact bounded
    · rw [advance,processAudioChunk_size (Nat.lt_of_not_le full)]
      exact Nat.min_le_left _ _
  | transcribeSlidingWindow force outcome =>
    rcases ran : engine.transcribeSlidingWindow force outcome with ⟨after,answer⟩
    rw [advance,ran]
    exact Nat.le_trans (transcribeSlidingWindow_suffix ran).1.length_le bounded
  | reset keepSamples =>
    have cut := advance_buffer engine (.reset keepSamples)
    have size := congrArg List.length cut
    simp only [inserted,List.append_nil,List.length_drop] at size
    rw [getBufferSize,size]
    exact Nat.le_trans (Nat.sub_le _ _) bounded

theorem kept_preserved (kept : Kept past engine) (one : Step engine action next) :
    Kept (past ++ [(engine,action)]) next := by
  subst one
  refine ⟨advance_bounded kept.bounded action,?_⟩
  cases action with
  | processAudioChunk pcm =>
    obtain ⟨front,split⟩ := kept.suffix
    have extended : heard (past ++ [(engine,.processAudioChunk pcm)]) = heard past ++ taken engine pcm := by
      simp [heard]
    have longer : engine.audioBuffer ++ taken engine pcm <:+ heard past ++ taken engine pcm :=
      ⟨front,by rw [← List.append_assoc,split]⟩
    rw [extended,advance,audioBuffer_processAudioChunk]
    exact (List.drop_suffix _ _).trans longer
  | transcribeSlidingWindow | reset =>
    have same : ∀ call, inserted engine call = [] → heard (past ++ [(engine,call)]) = heard past →
        (advance engine call).audioBuffer <:+ heard (past ++ [(engine,call)]) := by
      intro call nothing unheard
      rw [advance_buffer,nothing,List.append_nil,unheard]
      exact (List.drop_suffix _ _).trans kept.suffix
    exact same _ rfl (by simp [heard])

theorem runs_kept (path : Runs (fresh gate language) trace engine) : Kept trace engine :=
  path.history (I := Kept) (C := fun _ _ => True) (fun _ _ => trivial) (fresh_kept gate language)
    fun _ kept _ one => kept_preserved kept one

-- What one more call does to a buffer: a chunk is refused above the mark and
-- changes nothing then; one that is taken leaves the last samples of both.
theorem chunk_refused (engine : StreamingWhisperEngine) (pcm : List Sample) :
    (engine.processAudioChunk pcm).1 = true ↔ highWaterMark ≤ engine.getBufferSize := by
  constructor
  · intro refused
    by_contra room
    rw [processAudioChunk_room (Nat.lt_of_not_le room)] at refused
    cases refused
  · intro full
    rw [processAudioChunk_full full]

theorem chunk_taken (room : engine.getBufferSize < highWaterMark) (pcm : List Sample) :
    (engine.processAudioChunk pcm).2.audioBuffer <:+ engine.audioBuffer ++
        (AudioPreprocessor.process pcm engine.hpPrevRaw engine.hpPrevFiltered).1 ∧
      (engine.processAudioChunk pcm).2.getBufferSize =
        min maxBufferSamples (engine.getBufferSize + pcm.length) := by
  refine ⟨?_,processAudioChunk_size room⟩
  rw [audioBuffer_processAudioChunk,taken_room room]
  exact List.drop_suffix _ _

theorem engine_buffer_invariant (path : Runs (fresh gate language) trace engine) :
    engine.getBufferSize ≤ maxBufferSamples ∧ engine.audioBuffer <:+ heard trace ∧
    (∀ pcm refused after, engine.processAudioChunk pcm = (refused,after) →
      (refused = true ↔ highWaterMark ≤ engine.getBufferSize) ∧ (refused = true → after = engine) ∧
      (refused = false → after.audioBuffer <:+ engine.audioBuffer ++
          (AudioPreprocessor.process pcm engine.hpPrevRaw engine.hpPrevFiltered).1 ∧
        after.getBufferSize = min maxBufferSamples (engine.getBufferSize + pcm.length))) ∧
    ∀ action, erased engine action ≤ engine.getBufferSize ∧
      (advance engine action).audioBuffer =
        engine.audioBuffer.drop (erased engine action) ++ inserted engine action := by
  obtain ⟨bounded,suffix⟩ := runs_kept path
  refine ⟨bounded,suffix,?_,fun action => ⟨erased_inside engine action,advance_buffer engine action⟩⟩
  intro pcm refused after ran
  have answer : refused = true ↔ highWaterMark ≤ engine.getBufferSize := by
    simpa only [ran] using chunk_refused engine pcm
  refine ⟨answer,?_,?_⟩
  · intro full
    rw [processAudioChunk_full (answer.mp full)] at ran
    cases ran
    rfl
  · intro room
    have below : engine.getBufferSize < highWaterMark := by
      by_contra full
      rw [answer.mpr (Nat.le_of_not_lt full)] at room
      cases room
    have left := chunk_taken below pcm
    rwa [ran] at left

-- A chunk longer than the buffer, behind which the next one is refused.
def overlong : List Sample := List.replicate 480001 0

theorem length_overlong : overlong.length = 480001 := List.length_replicate

theorem advance_overlong :
    Step (fresh none (bytes "es")) (.processAudioChunk overlong)
      (advance (fresh none (bytes "es")) (.processAudioChunk overlong)) ∧
    (advance (fresh none (bytes "es")) (.processAudioChunk overlong)).getBufferSize = 480000 := by
  have empty : (fresh none (bytes "es")).getBufferSize < highWaterMark := by decide
  refine ⟨rfl,?_⟩
  rw [advance,processAudioChunk_size empty,length_overlong]
  decide

theorem engine_buffer_invariant_overlong : ∃ trace engine, Runs (fresh none (bytes "es")) trace engine ∧
    trace.map Prod.snd = [.processAudioChunk overlong] ∧ engine.getBufferSize = 480000 ∧
    engine.audioBuffer <:+ heard trace ∧ (engine.processAudioChunk [0]).1 = true := by
  obtain ⟨one,size⟩ := advance_overlong
  have path := Machine.Runs.single one
  obtain ⟨_,suffix,chunks,_⟩ := engine_buffer_invariant path
  refine ⟨_,_,path,rfl,size,suffix,?_⟩
  have answer := chunks [0] _ _ Prod.mk.eta.symm
  exact answer.1.mpr (by rw [size]; decide)

end JotaTranscriber.EngineBuffer

import JotaTranscriber.VadGate
import Mathlib.Algebra.Group.Nat.Defs

namespace JotaTranscriber

-- One segment of whisper's answer: its text (whisper may return a null
-- pointer) and its end time in units of 10 ms.
structure Segment where
  text : Option Text
  t1 : Int
  deriving DecidableEq, Repr

-- whisper_full_with_state is third-party code; a pass is given its answer.
inductive WhisperOutcome where
  | failed (code : Int)
  | decoded (segments : List Segment) (detected : Option Text)
  deriving DecidableEq, Repr

structure Outcome where
  vad : VadOutcome
  whisper : WhisperOutcome

structure TranscribeResult where
  partialText : Text
  committedText : Text
  deriving DecidableEq, Repr

-- What step 4 of a pass does to the front of the buffer it finds.
inductive Erase where
  | keep
  | front (samples : Nat)
  | all
  deriving DecidableEq, Repr

def Erase.apply : Erase → List Sample → List Sample
  | .keep,buffer => buffer
  | .front samples,buffer => if samples < buffer.length then buffer.drop samples else []
  | .all,_ => []

structure StreamingWhisperEngine where
  audioBuffer : List Sample
  hpPrevRaw : Sample
  hpPrevFiltered : Sample
  vadGate : Option VadGate
  language : Text

namespace StreamingWhisperEngine

def maxBufferSamples : Nat := 16000 * 30
def highWaterMark : Nat := 16000 * 20
def maxWindowSamples : Nat := 16000 * 10

def getBufferSize (engine : StreamingWhisperEngine) : Nat := engine.audioBuffer.length

-- The sliding append under the 30 s cap.
def appendCapped (buffer prepped : List Sample) : List Sample :=
  let newTotalSize := buffer.length + prepped.length
  if newTotalSize > maxBufferSamples then
    if prepped.length ≥ maxBufferSamples then prepped.drop (prepped.length - maxBufferSamples)
    else buffer.drop (newTotalSize - maxBufferSamples) ++ prepped
  else buffer ++ prepped

-- true: the chunk was dropped because the buffer is at the high-water mark.
def processAudioChunk (engine : StreamingWhisperEngine) (pcm : List Sample) :
    Bool × StreamingWhisperEngine :=
  if engine.audioBuffer.length ≥ highWaterMark then (true,engine)
  else
    let (prepped,raw,filtered) :=
      AudioPreprocessor.process pcm engine.hpPrevRaw engine.hpPrevFiltered
    (false,{ engine with
      audioBuffer := appendCapped engine.audioBuffer prepped
      hpPrevRaw := raw
      hpPrevFiltered := filtered })

def concatTexts (segments : List Segment) : Text :=
  segments.flatMap fun segment => segment.text.getD []

-- The backward scan for the last segment that ends before the bound.
def lastSegmentBefore (bound : Int) : List Segment → Option Nat
  | [] => none
  | segment :: rest =>
    match lastSegmentBefore bound rest with
    | some i => some (i+1)
    | none => if segment.t1 < bound then some 0 else none

-- commit_up_to_segment and commit_t1 of a pass that is not forced; int64
-- division truncates towards zero.
def commitPoint (decodeSize : Nat) (segments : List Segment) : Option (Nat × Int) :=
  let overlapBounds := ((decodeSize : Int) - 32000).tdiv 160
  let chosen := match lastSegmentBefore overlapBounds segments with
    | some i => some i
    | none => if segments.length > 1 then some (segments.length - 2) else none
  chosen.map fun i => (i,((segments[i]?).map Segment.t1).getD 0)

-- static_cast<size_t> of a 64-bit signed value.
def sizeT (value : Int) : Nat := (value % 2^64).toNat

-- size_t arithmetic on the ungated path, the gate's mapping on the other.
def samplesToErase (gate : Option VadGate) (commitT1 : Int) : Nat :=
  match gate with
  | some gate => sizeT (gate.toOriginalSamples commitT1)
  | none => sizeT commitT1 * 160 % 2^64

def commit (gate : Option VadGate) (force : Bool) (snapshotSize decodeSize : Nat)
    (segments : List Segment) : TranscribeResult × Erase :=
  let point :=
    if force then (if segments.isEmpty then none else some (segments.length - 1,0))
    else if snapshotSize ≥ maxWindowSamples then commitPoint decodeSize segments
    else none
  match point with
  | none => (⟨concatTexts segments,[]⟩,.keep)
  | some (upTo,commitT1) =>
    (⟨concatTexts (segments.drop (upTo+1)),concatTexts (segments.take (upTo+1))⟩,
      if commitT1 > 0 then .front (samplesToErase gate commitT1)
      else if force then .all
      else .keep)

def lockLanguage (language : Text) (detected : Option Text) : Text :=
  if language = bytes "auto" then
    match detected with
    | some found => if found = bytes "auto" then language else found
    | none => language
  else language

-- Steps 1.5 to 3 of a pass, on a snapshot and without the buffer lock: no
-- speech is `none`, and step 4 is returned as an `Erase` to be applied later.
def infer (engine : StreamingWhisperEngine) (force : Bool) (snapshot : List Sample)
    (outcome : Outcome) :
    StreamingWhisperEngine × Except InferenceError (TranscribeResult × Erase) :=
  let decode (engine : StreamingWhisperEngine) (decodeSize : Nat) :=
    match outcome.whisper with
    | .failed code => (engine,Except.error (.whisperFailed code))
    | .decoded segments detected =>
      ({ engine with language := lockLanguage engine.language detected },
        .ok (commit engine.vadGate force snapshot.length decodeSize segments))
  match engine.vadGate with
  | none => decode engine snapshot.length
  | some gate =>
    let (gate,gated) := gate.gate snapshot outcome.vad
    let engine := { engine with vadGate := some gate }
    match gated with
    | .error error => (engine,.error error)
    | .ok gated =>
      if gated.hadSpeech then decode engine gated.samples.length
      else (engine,.ok (⟨[],[]⟩,.keep))

-- The whole pass when nothing is appended while it runs, as under the
-- session's state_mutex_.
def transcribeSlidingWindow (engine : StreamingWhisperEngine) (force : Bool) (outcome : Outcome) :
    StreamingWhisperEngine × Except InferenceError TranscribeResult :=
  if engine.audioBuffer.isEmpty then (engine,.ok ⟨[],[]⟩)
  else
    match engine.infer force engine.audioBuffer outcome with
    | (engine,.error error) => (engine,.error error)
    | (engine,.ok (result,erase)) =>
      ({ engine with audioBuffer := erase.apply engine.audioBuffer },.ok result)

-- Everything is cleared as well when more samples are to be kept than there are.
def reset (engine : StreamingWhisperEngine) (keepSamples : Nat) : StreamingWhisperEngine :=
  { engine with audioBuffer :=
      if keepSamples = 0 ∨ keepSamples ≥ engine.audioBuffer.length then []
      else engine.audioBuffer.drop (engine.audioBuffer.length - keepSamples) }

-- A constructed engine: an empty buffer and filter state, with the gate of
-- setVadConfig when a VAD model is configured.
def fresh (vadGate : Option VadGate) (language : Text) : StreamingWhisperEngine :=
  ⟨[],0,0,vadGate,language⟩

theorem processAudioChunk_full {engine : StreamingWhisperEngine} {pcm : List Sample}
    (full : engine.getBufferSize ≥ highWaterMark) : engine.processAudioChunk pcm = (true,engine) :=
  if_pos full

theorem processAudioChunk_room {engine : StreamingWhisperEngine}
    (room : engine.getBufferSize < highWaterMark) (pcm : List Sample) :
    (engine.processAudioChunk pcm).1 = false := by
  have taken : ¬ engine.audioBuffer.length ≥ highWaterMark := Nat.not_le_of_lt room
  simp [StreamingWhisperEngine.processAudioChunk,taken]

theorem length_appendCapped (buffer prepped : List Sample) :
    (appendCapped buffer prepped).length = min maxBufferSamples (buffer.length + prepped.length) := by
  unfold appendCapped
  dsimp only
  split
  · split
    · simp only [List.length_drop]; omega
    · simp only [List.length_append,List.length_drop]; omega
  · simp only [List.length_append]; omega

theorem processAudioChunk_size {engine : StreamingWhisperEngine} {pcm : List Sample}
    (room : engine.getBufferSize < highWaterMark) :
    (engine.processAudioChunk pcm).2.getBufferSize =
      min maxBufferSamples (engine.getBufferSize + pcm.length) := by
  have taken : ¬ engine.audioBuffer.length ≥ highWaterMark := Nat.not_le_of_lt room
  simp [StreamingWhisperEngine.processAudioChunk,taken,getBufferSize,length_appendCapped]

@[simp] theorem processAudioChunk_vadGate (engine : StreamingWhisperEngine) (pcm : List Sample) :
    (engine.processAudioChunk pcm).2.vadGate = engine.vadGate := by
  unfold StreamingWhisperEngine.processAudioChunk
  split <;> rfl

theorem length_apply_le (erase : Erase) (buffer : List Sample) :
    (erase.apply buffer).length ≤ buffer.length := by
  cases erase with
  | keep => exact Nat.le_refl _
  | front samples =>
    simp only [Erase.apply]
    split <;> simp
  | all => simp [Erase.apply]

theorem infer_frame (engine : StreamingWhisperEngine) (force : Bool) (snapshot : List Sample)
    (outcome : Outcome) :
    (engine.infer force snapshot outcome).1.audioBuffer = engine.audioBuffer ∧
    (engine.infer force snapshot outcome).1.vadGate.map VadGate.speechPadMs =
      engine.vadGate.map VadGate.speechPadMs := by
  unfold infer
  cases gated : engine.vadGate with
  | none => cases outcome.whisper <;> simp [gated]
  | some gate =>
    dsimp only
    cases (gate.gate snapshot outcome.vad).2 with
    | error error => simp
    | ok result =>
      dsimp only
      split
      · cases outcome.whisper <;> simp
      · simp

theorem transcribeSlidingWindow_ok {engine after : StreamingWhisperEngine}
    (ran : engine.transcribeSlidingWindow force outcome = (after,.ok result)) :
    after.getBufferSize ≤ engine.getBufferSize ∧
      after.vadGate.map VadGate.speechPadMs = engine.vadGate.map VadGate.speechPadMs := by
  unfold transcribeSlidingWindow at ran
  split at ran
  · cases ran; exact ⟨Nat.le_refl _,rfl⟩
  · have frame := engine.infer_frame force engine.audioBuffer outcome
    split at ran
    · cases ran
    · rename_i inferred text erase answered
      cases ran
      rw [answered] at frame
      have same : inferred.audioBuffer = engine.audioBuffer := frame.1
      refine ⟨?_,frame.2⟩
      simp only [getBufferSize,same]
      exact length_apply_le _ _

theorem transcribeSlidingWindow_ungated {engine : StreamingWhisperEngine} {outcome : Outcome}
    (ungated : engine.vadGate = none) (filled : 0 < engine.getBufferSize)
    (heard : outcome.whisper = .decoded segments none)
    (decided : commit none force engine.getBufferSize engine.getBufferSize segments = (result,erase)) :
    engine.transcribeSlidingWindow force outcome =
      ({ engine with audioBuffer := erase.apply engine.audioBuffer },.ok result) := by
  have nonempty : engine.audioBuffer.isEmpty = false := by
    rw [← Bool.not_eq_true,List.isEmpty_iff]
    intro empty
    rw [getBufferSize,empty] at filled
    cases filled
  have language : lockLanguage engine.language none = engine.language := by simp [lockLanguage]
  rw [getBufferSize] at decided
  simp [transcribeSlidingWindow,nonempty,infer,ungated,heard,decided,language]

theorem appendCapped_suffix (buffer prepped : List Sample) :
    appendCapped buffer prepped <:+ buffer ++ prepped := by
  unfold appendCapped
  dsimp only
  split
  · split
    · exact (List.drop_suffix _ _).trans (List.suffix_append _ _)
    · obtain ⟨front,cut⟩ := List.drop_suffix (buffer.length + prepped.length - maxBufferSamples) buffer
      exact ⟨front,by rw [← List.append_assoc,cut]⟩
  · exact List.suffix_refl _

theorem apply_suffix (erase : Erase) (buffer : List Sample) : erase.apply buffer <:+ buffer := by
  cases erase with
  | keep => exact List.suffix_refl _
  | front samples =>
    simp only [Erase.apply]
    split
    · exact List.drop_suffix _ _
    · exact List.nil_suffix
  | all => exact List.nil_suffix

theorem infer_filter (engine : StreamingWhisperEngine) (force : Bool) (snapshot : List Sample)
    (outcome : Outcome) :
    (engine.infer force snapshot outcome).1.hpPrevRaw = engine.hpPrevRaw ∧
    (engine.infer force snapshot outcome).1.hpPrevFiltered = engine.hpPrevFiltered := by
  unfold infer
  cases engine.vadGate with
  | none => cases outcome.whisper <;> simp
  | some gate =>
    dsimp only
    cases (gate.gate snapshot outcome.vad).2 with
    | error error => simp
    | ok result =>
      dsimp only
      split
      · cases outcome.whisper <;> simp
      · simp

-- However a pass ends, it adds nothing to the buffer and leaves the filter
-- where the last chunk left it.
theorem transcribeSlidingWindow_suffix {engine after : StreamingWhisperEngine}
    (ran : engine.transcribeSlidingWindow force outcome = (after,answer)) :
    after.audioBuffer <:+ engine.audioBuffer ∧
      after.hpPrevRaw = engine.hpPrevRaw ∧ after.hpPrevFiltered = engine.hpPrevFiltered := by
  unfold transcribeSlidingWindow at ran
  split at ran
  · cases ran; exact ⟨List.suffix_refl _,rfl,rfl⟩
  · have same := (engine.infer_frame force engine.audioBuffer outcome).1
    have filter := engine.infer_filter force engine.audioBuffer outcome
    split at ran
    · rename_i answered
      cases ran
      rw [answered] at same filter
      exact ⟨⟨[],same⟩,filter⟩
    · rename_i answered
      cases ran
      rw [answered] at same filter
      exact ⟨by rw [← same]; exact apply_suffix _ _,filter⟩

-- When a pass throws: on a non-empty buffer, if the gate cannot load or run its
-- model, or if whisper fails on audio that is not gated away.
def throws (engine : StreamingWhisperEngine) (outcome : Outcome) : Bool :=
  let whisperFails := match outcome.whisper with
    | .failed _ => true
    | .decoded .. => false
  !engine.audioBuffer.isEmpty &&
    match engine.vadGate with
    | none => whisperFails
    | some gate => !gate.loaded && !outcome.vad.loads ||
      match outcome.vad.segments with
      | none => true
      | some segments => gate.hears engine.audioBuffer segments && whisperFails

theorem transcribeSlidingWindow_throws (engine : StreamingWhisperEngine) (force : Bool)
    (outcome : Outcome) :
    (∃ error, (engine.transcribeSlidingWindow force outcome).2 = .error error) ↔
      engine.throws outcome = true := by
  unfold transcribeSlidingWindow throws
  cases empty : engine.audioBuffer.isEmpty with
  | true => simp
  | false =>
    have nonempty : engine.audioBuffer ≠ [] := by simpa using empty
    simp only [Bool.false_eq_true,if_false,Bool.not_false,Bool.true_and]
    unfold infer
    cases gated : engine.vadGate with
    | none => cases outcome.whisper <;> simp
    | some gate =>
      dsimp only
      rcases gate.gate_cases engine.audioBuffer outcome.vad nonempty with
        ⟨unloaded,missing,answer⟩ | ⟨ready,⟨failed,answer⟩ | ⟨segments,result,found,answer,speech⟩⟩
      · simp [answer,unloaded,missing]
      · simp [answer,failed]
      · have up : (!gate.loaded && !outcome.vad.loads) = false := by
          rcases ready with one | one <;> simp [one]
        cases heard : gate.hears engine.audioBuffer segments with
        | false => simp [answer,found,up,speech,heard]
        | true => cases outcome.whisper <;> simp [answer,found,up,speech,heard]

end StreamingWhisperEngine
end JotaTranscriber

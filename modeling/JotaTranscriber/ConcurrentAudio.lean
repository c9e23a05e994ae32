import JotaTranscriber.StreamingWhisperEngine

namespace JotaTranscriber.ConcurrentAudio
open StreamingWhisperEngine

-- The processAudioChunk calls that run while a pass is between its snapshot and
-- step 4, the samples they let in and those the 30 s cap takes off the front.
def appendAll (engine : StreamingWhisperEngine) : List (List Sample) → StreamingWhisperEngine
  | [] => engine
  | pcm :: rest => appendAll (engine.processAudioChunk pcm).2 rest

def taken (engine : StreamingWhisperEngine) (pcm : List Sample) : List Sample :=
  if engine.audioBuffer.length ≥ highWaterMark then []
  else (AudioPreprocessor.process pcm engine.hpPrevRaw engine.hpPrevFiltered).1

def accepted (engine : StreamingWhisperEngine) : List (List Sample) → List Sample
  | [] => []
  | pcm :: rest => taken engine pcm ++ accepted (engine.processAudioChunk pcm).2 rest

def overCap (engine : StreamingWhisperEngine) (pcm : List Sample) : Nat :=
  if engine.audioBuffer.length ≥ highWaterMark then 0
  else engine.audioBuffer.length + pcm.length - maxBufferSamples

def discarded (engine : StreamingWhisperEngine) : List (List Sample) → Nat
  | [] => 0
  | pcm :: rest => overCap engine pcm + discarded (engine.processAudioChunk pcm).2 rest

-- transcribeSlidingWindow with those calls in the middle.
def transcribeSlidingWindow (engine : StreamingWhisperEngine) (force : Bool) (outcome : Outcome)
    (chunks : List (List Sample)) :
    StreamingWhisperEngine × Except InferenceError TranscribeResult :=
  if engine.audioBuffer.isEmpty then (appendAll engine chunks,.ok ⟨[],[]⟩)
  else
    match engine.infer force engine.audioBuffer outcome with
    | (engine,.error error) => (appendAll engine chunks,.error error)
    | (engine,.ok (result,erase)) =>
      let grown := appendAll engine chunks
      ({ grown with audioBuffer := erase.apply grown.audioBuffer },.ok result)

-- Without such calls it is the pass of the session, under state_mutex_.
theorem transcribeSlidingWindow_alone (engine : StreamingWhisperEngine) (force : Bool)
    (outcome : Outcome) :
    transcribeSlidingWindow engine force outcome [] = engine.transcribeSlidingWindow force outcome := rfl

theorem appendCapped_eq_drop (buffer prepped : List Sample) :
    appendCapped buffer prepped =
      (buffer ++ prepped).drop (buffer.length + prepped.length - maxBufferSamples) := by
  unfold appendCapped
  dsimp only
  split
  · split
    · have past : buffer.length ≤ buffer.length + prepped.length - maxBufferSamples := by omega
      have shift : buffer.length + prepped.length - maxBufferSamples - buffer.length =
          prepped.length - maxBufferSamples := by omega
      rw [List.drop_append,List.drop_eq_nil_of_le past,List.nil_append,shift]
    · rename_i short
      have within : buffer.length + prepped.length - maxBufferSamples ≤ buffer.length := by omega
      rw [List.drop_append_of_le_length within]
  · rename_i fits
    have none_over : buffer.length + prepped.length - maxBufferSamples = 0 := by omega
    rw [none_over,List.drop_zero]

theorem audioBuffer_processAudioChunk (engine : StreamingWhisperEngine) (pcm : List Sample) :
    (engine.processAudioChunk pcm).2.audioBuffer =
      (engine.audioBuffer ++ taken engine pcm).drop (overCap engine pcm) := by
  by_cases full : engine.audioBuffer.length ≥ highWaterMark
  · rw [processAudioChunk_full full,taken,overCap,if_pos full,if_pos full,List.append_nil,List.drop_zero]
  · simp only [StreamingWhisperEngine.processAudioChunk,taken,overCap,if_neg full,appendCapped_eq_drop,
      AudioPreprocessor.length_process]

theorem overCap_pos (engine : StreamingWhisperEngine) (pcm : List Sample) :
    overCap engine pcm ≤ (engine.audioBuffer ++ taken engine pcm).length ∧
      (0 < overCap engine pcm → taken engine pcm ≠ [] ∧
        overCap engine pcm < (engine.audioBuffer ++ taken engine pcm).length) := by
  by_cases full : engine.audioBuffer.length ≥ highWaterMark
  · simp only [overCap,if_pos full]
    exact ⟨Nat.zero_le _,fun impossible => absurd impossible (Nat.lt_irrefl 0)⟩
  · have room : engine.audioBuffer.length < maxBufferSamples := by
      simp only [highWaterMark,maxBufferSamples] at full ⊢
      omega
    have length : (taken engine pcm).length = pcm.length := by simp [taken,full]
    simp only [overCap,if_neg full,List.length_append,length]
    refine ⟨Nat.sub_le _ _,fun exceeds => ⟨?_,by omega⟩⟩
    intro nothing
    rw [nothing] at length
    simp only [List.length_nil] at length
    omega

theorem audioBuffer_appendAll (engine : StreamingWhisperEngine) (chunks : List (List Sample)) :
    (appendAll engine chunks).audioBuffer =
      (engine.audioBuffer ++ accepted engine chunks).drop (discarded engine chunks) := by
  induction chunks generalizing engine with
  | nil => simp [appendAll,accepted,discarded]
  | cons pcm rest ih =>
    have inside := (overCap_pos engine pcm).1
    rw [appendAll,ih,audioBuffer_processAudioChunk,← List.drop_append_of_le_length inside,List.drop_drop,
      List.append_assoc,accepted,discarded]

theorem discarded_pos (engine : StreamingWhisperEngine) (chunks : List (List Sample))
    (cut : 0 < discarded engine chunks) : accepted engine chunks ≠ [] ∧
      discarded engine chunks < (engine.audioBuffer ++ accepted engine chunks).length := by
  induction chunks generalizing engine with
  | nil => simp [discarded] at cut
  | cons pcm rest ih =>
    obtain ⟨inside,exceeds⟩ := overCap_pos engine pcm
    have later := ih (engine.processAudioChunk pcm).2
    rw [audioBuffer_processAudioChunk] at later
    simp only [accepted,discarded,List.length_append,List.length_drop] at inside exceeds later cut ⊢
    by_cases again : 0 < discarded (engine.processAudioChunk pcm).2 rest
    · obtain ⟨some_later,less⟩ := later again
      exact ⟨fun nothing => some_later (List.append_eq_nil_iff.mp nothing).2,by omega⟩
    · obtain ⟨some_now,less⟩ := exceeds (by omega)
      exact ⟨fun nothing => some_now (List.append_eq_nil_iff.mp nothing).1,by omega⟩

-- The commit of a pass that is not forced, from what the pass is given: the
-- audio that is decoded, the segments, and the end time of the last one that is
-- committed, as a position in the snapshot (0 when nothing is erased).
def decoded (engine : StreamingWhisperEngine) (outcome : Outcome) : Option (Option VadGate × Nat) :=
  match engine.vadGate with
  | none => some (none,engine.audioBuffer.length)
  | some gate =>
    match gate.gate engine.audioBuffer outcome.vad with
    | (gate,.ok gated) => if gated.hadSpeech then some (some gate,gated.samples.length) else none
    | (_,.error _) => none

def eraseLength (gate : Option VadGate) (snapshotSize decodeSize : Nat) (segments : List Segment) : Nat :=
  if snapshotSize ≥ maxWindowSamples then
    match commitPoint decodeSize segments with
    | some (_,t1) => if t1 > 0 then samplesToErase gate t1 else 0
    | none => 0
  else 0

def commitEnd (engine : StreamingWhisperEngine) (outcome : Outcome) : Nat :=
  match decoded engine outcome,outcome.whisper with
  | some (gate,decodeSize),.decoded segments _ =>
    eraseLength gate engine.audioBuffer.length decodeSize segments
  | _,_ => 0

theorem apply_front (samples : Nat) (buffer : List Sample) :
    (Erase.front samples).apply buffer = buffer.drop samples := by
  simp only [Erase.apply]
  split
  · rfl
  · rename_i past
    rw [List.drop_eq_nil_of_le (Nat.le_of_not_lt past)]

theorem commit_erases (gate : Option VadGate) (snapshotSize decodeSize : Nat) (segments : List Segment)
    (buffer : List Sample) :
    (commit gate false snapshotSize decodeSize segments).2.apply buffer =
      buffer.drop (eraseLength gate snapshotSize decodeSize segments) := by
  unfold commit eraseLength
  simp only [Bool.false_eq_true,if_false]
  by_cases window : snapshotSize ≥ maxWindowSamples
  · simp only [if_pos window]
    cases commitPoint decodeSize segments with
    | none => rfl
    | some point =>
      dsimp only
      by_cases positive : point.2 > 0
      · simp only [if_pos positive]
        exact apply_front _ _
      · simp only [if_neg positive]
        rfl
  · simp only [if_neg window]
    rfl

theorem infer_erases (ran : engine.infer false engine.audioBuffer outcome = (inferred,.ok (result,erase)))
    (buffer : List Sample) : erase.apply buffer = buffer.drop (commitEnd engine outcome) := by
  have committed {gate : Option VadGate} {decodeSize : Nat} {segments : List Segment}
      (answer : commit gate false engine.audioBuffer.length decodeSize segments = (result,erase)) :
      erase.apply buffer =
        buffer.drop (eraseLength gate engine.audioBuffer.length decodeSize segments) := by
    rw [← commit_erases,answer]
  unfold infer at ran
  unfold commitEnd decoded
  cases gated : engine.vadGate with
  | none =>
    cases answered : outcome.whisper with
    | failed code => simp [gated,answered] at ran
    | decoded segments detected =>
      simp only [gated,answered,Prod.mk.injEq,Except.ok.injEq] at ran
      exact committed ran.2
  | some gate =>
    rcases heard : gate.gate engine.audioBuffer outcome.vad with ⟨used,error | found⟩
    · simp [gated,heard] at ran
    · cases speech : found.hadSpeech with
      | false =>
        simp only [gated,heard,speech,Bool.false_eq_true,if_false,Prod.mk.injEq,Except.ok.injEq] at ran
        rw [← ran.2.2]
        simp [heard,speech,Erase.apply]
      | true =>
        cases answered : outcome.whisper with
        | failed code => simp [gated,heard,speech,answered] at ran
        | decoded segments detected =>
          simp only [gated,heard,speech,answered,if_true,Prod.mk.injEq,Except.ok.injEq] at ran
          simp only [heard,speech,if_true]
          exact committed ran.2

-- The samples behind the snapshot and the accepted chunks in one row: the cap
-- has taken `discarded` off its front, and the commit what lies between there
-- and `start`. Of these every one was in the snapshot and lies before the end of
-- the last committed segment.
def KeepsAudio (snapshot accepted after : List Sample) (discarded commitEnd : Nat) : Prop :=
  ∃ start, discarded ≤ start ∧ start ≤ (snapshot ++ accepted).length ∧
    after = (snapshot ++ accepted).drop start ∧
    ∀ position, discarded ≤ position → position < start →
      position < snapshot.length ∧ position < commitEnd

theorem keepsAudio_iff (snapshot accepted : List Sample) (discarded commitEnd : Nat)
    (cut : 0 < discarded → accepted ≠ [] ∧ discarded < (snapshot ++ accepted).length) :
    KeepsAudio snapshot accepted ((snapshot ++ accepted).drop (discarded + commitEnd)) discarded commitEnd ↔
      commitEnd = 0 ∨ discarded = 0 ∧ (commitEnd ≤ snapshot.length ∨ accepted = []) := by
  have whole : (snapshot ++ accepted).length = snapshot.length + accepted.length := List.length_append
  constructor
  · rintro ⟨start,from_cap,inside,same,removed⟩
    have lengths := congrArg List.length same
    simp only [List.length_drop] at lengths
    by_cases erases : commitEnd = 0
    · exact .inl erases
    right
    have uncut : discarded = 0 := by
      by_contra capped
      obtain ⟨some_accepted,less⟩ := cut (by omega)
      have later : 0 < accepted.length := List.length_pos_iff.mpr some_accepted
      have last := removed (start-1) (by omega) (by omega)
      omega
    refine ⟨uncut,?_⟩
    by_contra neither
    have beyond : snapshot.length < commitEnd := by
      by_contra within
      exact neither (.inl (by omega))
    have later : 0 < accepted.length := List.length_pos_iff.mpr fun nothing => neither (.inr nothing)
    have first := removed snapshot.length (by omega) (by omega)
    omega
  · rintro (nothing | ⟨uncut,within | nothing⟩)
    · have short : discarded ≤ (snapshot ++ accepted).length := by
        by_cases capped : 0 < discarded
        · exact Nat.le_of_lt (cut capped).2
        · omega
      exact ⟨discarded,Nat.le_refl _,short,by rw [nothing,Nat.add_zero],fun _ from_cap before => by omega⟩
    · refine ⟨commitEnd,by omega,by omega,by rw [uncut,Nat.zero_add],?_⟩
      intro position _ before
      omega
    · refine ⟨min commitEnd snapshot.length,by omega,by omega,?_,?_⟩
      · subst nothing
        rw [uncut,Nat.zero_add,List.append_nil]
        by_cases within : commitEnd ≤ snapshot.length
        · rw [Nat.min_eq_left within]
        · rw [Nat.min_eq_right (by omega),List.drop_length,List.drop_eq_nil_of_le (by omega)]
      · intro position _ before
        omega

theorem infer_with (engine : StreamingWhisperEngine) (force : Bool) (snapshot : List Sample)
    (outcome : Outcome) : ∃ vadGate language,
      (engine.infer force snapshot outcome).1 = { engine with vadGate, language } := by
  unfold infer
  cases gated : engine.vadGate with
  | none =>
    cases outcome.whisper with
    | failed code => exact ⟨engine.vadGate,engine.language,rfl⟩
    | decoded segments detected => exact ⟨engine.vadGate,_,rfl⟩
  | some gate =>
    dsimp only
    cases (gate.gate snapshot outcome.vad).2 with
    | error error => exact ⟨_,_,rfl⟩
    | ok found =>
      dsimp only
      split
      · cases outcome.whisper with
        | failed code => exact ⟨_,_,rfl⟩
        | decoded segments detected => exact ⟨_,_,rfl⟩
      · exact ⟨_,_,rfl⟩

theorem processAudioChunk_with (engine : StreamingWhisperEngine) (pcm : List Sample)
    (vadGate : Option VadGate) (language : Text) :
    ({ engine with vadGate, language }.processAudioChunk pcm).2 =
      { (engine.processAudioChunk pcm).2 with vadGate, language } := by
  unfold StreamingWhisperEngine.processAudioChunk
  split <;> rfl

theorem appended_with (engine : StreamingWhisperEngine) (vadGate : Option VadGate) (language : Text)
    (chunks : List (List Sample)) :
    accepted { engine with vadGate, language } chunks = accepted engine chunks ∧
      discarded { engine with vadGate, language } chunks = discarded engine chunks := by
  induction chunks generalizing engine with
  | nil => exact ⟨rfl,rfl⟩
  | cons pcm rest ih =>
    obtain ⟨same,cut⟩ := ih (engine.processAudioChunk pcm).2
    constructor
    · rw [accepted,accepted,processAudioChunk_with,same]; rfl
    · rw [discarded,discarded,processAudioChunk_with,cut]; rfl

theorem transcribeSlidingWindow_buffer
    (ran : transcribeSlidingWindow engine false outcome chunks = (after,.ok result)) :
    after.audioBuffer = (engine.audioBuffer ++ accepted engine chunks).drop
      (discarded engine chunks + commitEnd engine outcome) := by
  unfold transcribeSlidingWindow at ran
  split at ran
  · rename_i empty
    cases ran
    have nothing : commitEnd engine outcome = 0 := by
      have short : ¬ engine.audioBuffer.length ≥ maxWindowSamples := by
        rw [List.isEmpty_iff.mp empty]
        decide
      unfold commitEnd eraseLength
      split
      · rw [if_neg short]
      · rfl
    rw [audioBuffer_appendAll,nothing,Nat.add_zero]
  · obtain ⟨vadGate,language,inferred⟩ := infer_with engine false engine.audioBuffer outcome
    obtain ⟨same,cut⟩ := appended_with engine vadGate language chunks
    split at ran
    · cases ran
    · rename_i next text erase answered
      cases ran
      rw [answered] at inferred
      subst inferred
      rw [infer_erases answered,audioBuffer_appendAll,same,cut,List.drop_drop]

-- With a gate the commit point never lies behind the snapshot.
theorem commitEnd_gated (outcome : Outcome) (gated : engine.vadGate = some gate) :
    commitEnd engine outcome ≤ engine.audioBuffer.length := by
  unfold commitEnd decoded
  rw [gated]
  rcases heard : gate.gate engine.audioBuffer outcome.vad with ⟨used,error | found⟩
  · simp [heard]
  · simp only [heard]
    cases found.hadSpeech with
    | false => simp
    | true =>
      cases outcome.whisper with
      | failed code => simp
      | decoded segments detected =>
        simp only [if_true,eraseLength]
        split
        · split
          · rename_i t1 _
            split
            · rename_i positive
              have bounds := gate.toOriginalSamples_gate engine.audioBuffer outcome.vad positive
              simp only [heard] at bounds
              simp only [samplesToErase,sizeT]
              omega
            · exact Nat.zero_le _
          · exact Nat.zero_le _
        · exact Nat.zero_le _

-- Nothing is erased; or the cap stayed out of it while the pass ran, and the
-- last committed segment ends in the snapshot or no sample came in meanwhile.
def Harmless (engine : StreamingWhisperEngine) (outcome : Outcome) (chunks : List (List Sample)) : Prop :=
  commitEnd engine outcome = 0 ∨ discarded engine chunks = 0 ∧
    (engine.vadGate.isSome ∨ commitEnd engine outcome ≤ engine.audioBuffer.length ∨
      accepted engine chunks = [])

theorem commit_keeps_audio_iff
    (ran : transcribeSlidingWindow engine false outcome chunks = (after,.ok result)) :
    KeepsAudio engine.audioBuffer (accepted engine chunks) after.audioBuffer (discarded engine chunks)
      (commitEnd engine outcome) ↔ Harmless engine outcome chunks := by
  rw [transcribeSlidingWindow_buffer ran,keepsAudio_iff _ _ _ _ (discarded_pos engine chunks),Harmless]
  cases gated : engine.vadGate with
  | none => simp
  | some gate =>
    have inside := commitEnd_gated outcome gated
    simp [inside]

def tenSeconds : StreamingWhisperEngine := ⟨List.replicate 160000 0,0,0,none,bytes "es"⟩

def twoSegments (t1 : Int) : Outcome :=
  ⟨⟨true,some []⟩,.decoded [⟨some (bytes "uno"),t1⟩,⟨some (bytes "dos"),1200⟩] none⟩

def twoMore : List (List Sample) := [List.replicate 32000 0]

theorem length_accepted_twoMore : (accepted tenSeconds twoMore).length = 32000 := by
  have room : ¬ tenSeconds.audioBuffer.length ≥ highWaterMark := by
    simp only [tenSeconds,List.length_replicate]; decide
  simp only [twoMore,accepted,taken,if_neg room,List.append_nil,AudioPreprocessor.length_process,
    List.length_replicate]

theorem discarded_twoMore : discarded tenSeconds twoMore = 0 := by
  have size : tenSeconds.audioBuffer.length = 160000 := List.length_replicate
  have room : ¬ tenSeconds.audioBuffer.length ≥ highWaterMark := by
    rw [size]; decide
  rw [twoMore,discarded,overCap,if_neg room,size,List.length_replicate,discarded]
  exact Nat.sub_eq_zero_of_le (by decide : 160000 + 32000 ≤ maxBufferSamples)

theorem commitEnd_twoSegments (t1 : Int) (point : commitPoint 160000
      [⟨some (bytes "uno"),t1⟩,⟨some (bytes "dos"),1200⟩] = some (0,t1)) (positive : t1 > 0) :
    commitEnd tenSeconds (twoSegments t1) = samplesToErase none t1 := by
  have window : 160000 ≥ maxWindowSamples := by decide
  simp only [commitEnd,decoded,tenSeconds,twoSegments,eraseLength,List.length_replicate,point,
    if_pos window,if_pos positive]

theorem transcribeSlidingWindow_ok (ungated : engine.vadGate = none)
    (answered : outcome.whisper = .decoded segments detected) (chunks : List (List Sample)) :
    ∃ after result, transcribeSlidingWindow engine false outcome chunks = (after,.ok result) := by
  unfold transcribeSlidingWindow
  split
  · exact ⟨_,_,rfl⟩
  · rcases ran : commit none false engine.audioBuffer.length engine.audioBuffer.length segments with
      ⟨result,erase⟩
    simp only [infer,ungated,answered,ran]
    exact ⟨_,_,rfl⟩

theorem commit_keeps_audio_iff_inside :
    ∃ after result, transcribeSlidingWindow tenSeconds false (twoSegments 500) twoMore = (after,.ok result) ∧
      commitEnd tenSeconds (twoSegments 500) = 80000 ∧
      KeepsAudio tenSeconds.audioBuffer (accepted tenSeconds twoMore) after.audioBuffer
        (discarded tenSeconds twoMore) (commitEnd tenSeconds (twoSegments 500)) := by
  obtain ⟨after,result,ran⟩ : ∃ after result, transcribeSlidingWindow tenSeconds false
      (twoSegments 500) twoMore = (after,.ok result) := transcribeSlidingWindow_ok rfl rfl _
  have point : commitEnd tenSeconds (twoSegments 500) = 80000 := by
    rw [commitEnd_twoSegments 500 (by decide) (by decide)]
    decide
  have inside : commitEnd tenSeconds (twoSegments 500) ≤ tenSeconds.audioBuffer.length := by
    rw [point,tenSeconds,List.length_replicate]
    decide
  exact ⟨after,result,ran,point,
    (commit_keeps_audio_iff ran).mpr (.inr ⟨discarded_twoMore,.inr (.inl inside)⟩)⟩

-- Whisper dates the end of the first segment a second behind the snapshot.
theorem late_end_erases_new_audio :
    ∃ after result, transcribeSlidingWindow tenSeconds false (twoSegments 1100) twoMore = (after,.ok result) ∧
      (accepted tenSeconds twoMore).length = 32000 ∧ after.audioBuffer.length = 16000 ∧
      ¬ KeepsAudio tenSeconds.audioBuffer (accepted tenSeconds twoMore) after.audioBuffer
        (discarded tenSeconds twoMore) (commitEnd tenSeconds (twoSegments 1100)) := by
  obtain ⟨after,result,ran⟩ : ∃ after result, transcribeSlidingWindow tenSeconds false
      (twoSegments 1100) twoMore = (after,.ok result) := transcribeSlidingWindow_ok rfl rfl _
  have point : commitEnd tenSeconds (twoSegments 1100) = 176000 := by
    rw [commitEnd_twoSegments 1100 (by decide) (by decide)]
    decide
  have size : tenSeconds.audioBuffer.length = 160000 := List.length_replicate
  have left := transcribeSlidingWindow_buffer ran
  refine ⟨after,result,ran,length_accepted_twoMore,?_,?_⟩
  · rw [left,point,discarded_twoMore,List.length_drop,List.length_append,size,length_accepted_twoMore]
  · rw [left,keepsAudio_iff _ _ _ _ (discarded_pos tenSeconds twoMore),point,size]
    rintro (nothing | ⟨_,inside | nothing⟩)
    · omega
    · omega
    · have length := length_accepted_twoMore
      rw [nothing] at length
      cases length

end JotaTranscriber.ConcurrentAudio

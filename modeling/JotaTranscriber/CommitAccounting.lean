import JotaTranscriber.DecoderWindow
import JotaTranscriber.GatedTimeline

-- What a pass commits against what it erases.
namespace JotaTranscriber.CommitAccounting
open StreamingWhisperEngine VadGate DecoderWindow
open ConcurrentAudio (decoded commitEnd apply_front tenSeconds twoSegments)

section Search
variable {bound : Int} {decodeSize : Nat} {segments : List Segment}

-- overlap_bounds_t: two seconds before the end of what was decoded.
def overlapBound (decodeSize : Nat) : Int := ((decodeSize : Int) - 32000).tdiv 160

theorem lastSegmentBefore_cases (bound : Int) (segments : List Segment) :
    (lastSegmentBefore bound segments = none ∧ ∀ segment ∈ segments, bound ≤ segment.t1) ∨
    ∃ front segment rest, segments = front ++ segment :: rest ∧
      lastSegmentBefore bound segments = some front.length ∧ segment.t1 < bound ∧
      ∀ later ∈ rest, bound ≤ later.t1 := by
  induction segments with
  | nil => exact .inl ⟨rfl,List.forall_mem_nil _⟩
  | cons first rest ih =>
    rcases ih with ⟨missed,late⟩ | ⟨front,segment,behind,rfl,found,early,late⟩
    · simp only [lastSegmentBefore,missed]
      by_cases early : first.t1 < bound
      · exact .inr ⟨[],first,rest,rfl,if_pos early,early,late⟩
      · exact .inl ⟨if_neg early,List.forall_mem_cons.mpr ⟨Int.not_lt.mp early,late⟩⟩
    · refine .inr ⟨first :: front,segment,behind,rfl,?_,early,late⟩
      simp only [lastSegmentBefore,found,List.length_cons]

theorem commitPoint_cases (decodeSize : Nat) (segments : List Segment) :
    (commitPoint decodeSize segments = none ∧ segments.length ≤ 1 ∧
      ∀ segment ∈ segments, overlapBound decodeSize ≤ segment.t1) ∨
    ∃ front segment rest, segments = front ++ segment :: rest ∧
      commitPoint decodeSize segments = some (front.length,segment.t1) ∧
      (segment.t1 < overlapBound decodeSize ∧ (∀ later ∈ rest, overlapBound decodeSize ≤ later.t1) ∨
        (∀ segment ∈ segments, overlapBound decodeSize ≤ segment.t1) ∧ rest.length = 1) := by
  unfold commitPoint
  dsimp only
  rcases lastSegmentBefore_cases (overlapBound decodeSize) segments with
    ⟨missed,late⟩ | ⟨front,segment,rest,rfl,found,early,late⟩
  · rw [overlapBound] at missed
    simp only [missed]
    rcases List.eq_nil_or_concat segments with rfl | ⟨shorter,last,rfl⟩
    · exact .inl ⟨rfl,Nat.zero_le _,late⟩
    · rcases List.eq_nil_or_concat shorter with rfl | ⟨front,segment,rfl⟩
      · exact .inl ⟨rfl,Nat.le_refl _,late⟩
      · refine .inr ⟨front,segment,[last],by simp,?_,.inr ⟨late,rfl⟩⟩
        simp
  · rw [overlapBound] at found
    refine .inr ⟨front,segment,rest,rfl,?_,.inl ⟨early,late⟩⟩
    simp [found]

theorem concatTexts_append (front rest : List Segment) :
    concatTexts (front ++ rest) = concatTexts front ++ concatTexts rest := List.flatMap_append

theorem concatTexts_eq_nil (segments : List Segment) :
    concatTexts segments = [] ↔ ∀ segment ∈ segments, segment.text.getD [] = [] := List.flatMap_eq_nil_iff

end Search

section Pass
variable {engine after : StreamingWhisperEngine} {outcome : Outcome} {gate : Option VadGate}
  {decodeSize : Nat} {segments : List Segment} {detected : Option Text} {force : Bool}

theorem decoded_heard {vad : VadGate} (gated : engine.vadGate = some vad)
    (heard : decoded engine outcome = some (gate,decodeSize)) :
    ∃ used found, vad.gate engine.audioBuffer outcome.vad = (used,.ok found) ∧
      found.hadSpeech = true ∧ gate = some used := by
  obtain ⟨used,found,ran,_⟩ := decoded_gated gated heard
  simp only [decoded,gated,ran] at heard
  split at heard
  · rename_i speech
    cases heard
    exact ⟨used,found,ran,speech,rfl⟩
  · cases heard

theorem transcribe_heard (nonempty : engine.audioBuffer ≠ [])
    (heard : decoded engine outcome = some (gate,decodeSize))
    (answered : outcome.whisper = .decoded segments detected) (force : Bool) :
    ∃ after, engine.transcribeSlidingWindow force outcome =
        (after,.ok (commit gate force engine.getBufferSize decodeSize segments).1) ∧
      after.vadGate = gate ∧ after.audioBuffer =
        (commit gate force engine.getBufferSize decodeSize segments).2.apply engine.audioBuffer := by
  have filled : engine.audioBuffer.isEmpty = false := by simpa using nonempty
  simp only [StreamingWhisperEngine.transcribeSlidingWindow,filled,Bool.false_eq_true,if_false]
  cases gated : engine.vadGate with
  | none =>
    simp only [decoded,gated,Option.some.injEq,Prod.mk.injEq] at heard
    obtain ⟨rfl,rfl⟩ := heard
    simp only [infer,gated,answered]
    exact ⟨_,rfl,rfl,rfl⟩
  | some vad =>
    obtain ⟨used,result,ran,speech,rfl⟩ := decoded_heard gated heard
    simp only [decoded,gated,ran,speech,if_true,Option.some.injEq,Prod.mk.injEq,true_and] at heard
    subst heard
    simp only [infer,gated,ran,speech,if_true,answered]
    exact ⟨_,rfl,rfl,rfl⟩

theorem whisper_answers (nonempty : engine.audioBuffer ≠ [])
    (heard : decoded engine outcome = some (gate,decodeSize)) (succeeds : engine.throws outcome = false) :
    ∃ segments detected, outcome.whisper = .decoded segments detected := by
  cases answered : outcome.whisper with
  | decoded segments detected => exact ⟨segments,detected,rfl⟩
  | failed code =>
    have filled : engine.audioBuffer.isEmpty = false := by simpa using nonempty
    have fails : ∃ error, (engine.transcribeSlidingWindow false outcome).2 = .error error := by
      refine ⟨.whisperFailed code,?_⟩
      simp only [StreamingWhisperEngine.transcribeSlidingWindow,filled,Bool.false_eq_true,if_false]
      cases gated : engine.vadGate with
      | none => simp only [infer,gated,answered]
      | some vad =>
        obtain ⟨used,result,ran,speech,_⟩ := decoded_heard gated heard
        simp only [infer,gated,ran,speech,if_true,answered]
    rw [(engine.transcribeSlidingWindow_throws false outcome).mp fails] at succeeds
    cases succeeds

theorem transcribe_unheard (nonempty : engine.audioBuffer ≠ []) (unheard : decoded engine outcome = none)
    (succeeds : engine.throws outcome = false) (force : Bool) :
    ∃ after, engine.transcribeSlidingWindow force outcome = (after,.ok ⟨[],[]⟩) ∧
      after.audioBuffer = engine.audioBuffer := by
  have filled : engine.audioBuffer.isEmpty = false := by simpa using nonempty
  have failing := (engine.transcribeSlidingWindow_throws force outcome).not
  rw [succeeds] at failing
  simp only [StreamingWhisperEngine.transcribeSlidingWindow,filled,Bool.false_eq_true,if_false] at failing ⊢
  cases gated : engine.vadGate with
  | none => simp [decoded,gated] at unheard
  | some vad =>
    rcases ran : vad.gate engine.audioBuffer outcome.vad with ⟨used,error | result⟩
    · simp [infer,gated,ran] at failing
    · simp only [decoded,gated,ran] at unheard
      split at unheard
      · cases unheard
      · rename_i mute
        simp only [infer,gated,ran,if_neg mute]
        exact ⟨_,rfl,rfl⟩

def Speech (engine : StreamingWhisperEngine) (vad : VadOutcome) : Prop :=
  ∀ gate, engine.vadGate = some gate → ∃ segments, vad.segments = some segments ∧
    ∃ segment ∈ segments, speaks engine.getBufferSize gate.pad segment = true

theorem gate_speech {vad : VadGate} {result : GatedResult} {answer : VadOutcome}
    (ran : vad.gate engine.audioBuffer answer = (used,.ok result))
    (nonempty : engine.audioBuffer ≠ []) (gated : engine.vadGate = some vad) :
    result.hadSpeech = true ↔ Speech engine answer := by
  obtain ⟨ready,segments,detected⟩ := gate_detects ran nonempty
  obtain ⟨_,again,same,speech⟩ := gate_ready vad engine.audioBuffer ready detected
  cases ran.symm.trans same
  have looped : result.samples =
      (gateLoop engine.audioBuffer engine.audioBuffer.length vad.pad segments ⟨0,0,[],[]⟩).samples := by
    rcases gate_returns ran with ⟨empty,_⟩ | ⟨found,same,_,samples⟩
    · exact absurd empty nonempty
    · cases same.symm.trans detected
      exact samples
  have heard := gateLoop_heard engine.audioBuffer vad.pad segments
  rw [← looped] at heard
  rw [speech,Bool.not_eq_true',List.isEmpty_eq_false_iff,heard]
  constructor
  · intro spoken gate same
    cases gated.symm.trans same
    exact ⟨segments,detected,spoken⟩
  · intro spoken
    obtain ⟨found,same,heard⟩ := spoken vad gated
    cases detected.symm.trans same
    exact heard

theorem decoded_iff (nonempty : engine.audioBuffer ≠ []) (succeeds : engine.throws outcome = false) :
    (∃ handed, decoded engine outcome = some handed) ↔ Speech engine outcome.vad := by
  cases gated : engine.vadGate with
  | none =>
    refine iff_of_true ⟨(none,engine.audioBuffer.length),by simp only [decoded,gated]⟩ ?_
    intro gate same
    rw [gated] at same
    cases same
  | some vad =>
    rcases ran : vad.gate engine.audioBuffer outcome.vad with ⟨used,error | result⟩
    · have filled : engine.audioBuffer.isEmpty = false := by simpa using nonempty
      have fails := (engine.transcribeSlidingWindow_throws false outcome).mp
        ⟨error,by simp [StreamingWhisperEngine.transcribeSlidingWindow,filled,infer,gated,ran]⟩
      rw [succeeds] at fails
      cases fails
    · rw [← gate_speech ran nonempty gated]
      simp only [decoded,gated,ran]
      cases result.hadSpeech with
      | true => exact iff_of_true ⟨_,rfl⟩ rfl
      | false =>
        refine iff_of_false ?_ Bool.false_ne_true
        rintro ⟨handed,nothing⟩
        cases nothing

end Pass

section Forced
variable {engine : StreamingWhisperEngine} {outcome : Outcome}

def spoken (engine : StreamingWhisperEngine) (outcome : Outcome) : List Segment :=
  match decoded engine outcome,outcome.whisper with
  | some _,.decoded segments _ => segments
  | _,_ => []

-- Everything is committed and nothing left, neither text nor audio.
structure Total (engine : StreamingWhisperEngine) (outcome : Outcome) (after : StreamingWhisperEngine)
    (result : TranscribeResult) : Prop where
  partialText : result.partialText = []
  committedText : result.committedText = concatTexts (spoken engine outcome)
  audioBuffer : after.audioBuffer = []

theorem commit_forced (gate : Option VadGate) (size decodeSize : Nat) (segments : List Segment) :
    commit gate true size decodeSize segments =
      if segments = [] then (⟨[],[]⟩,.keep) else (⟨[],concatTexts segments⟩,.all) := by
  cases segments with
  | nil => rfl
  | cons first rest => simp [commit,concatTexts]

theorem forced_commit_total_iff (nonempty : engine.audioBuffer ≠ [])
    (succeeds : engine.throws outcome = false) :
    ∃ after result, engine.transcribeSlidingWindow true outcome = (after,.ok result) ∧
      (Total engine outcome after result ↔ Speech engine outcome.vad ∧
        ∃ segments detected, outcome.whisper = .decoded segments detected ∧ segments ≠ []) := by
  by_cases speech : Speech engine outcome.vad
  · obtain ⟨⟨gate,size⟩,heard⟩ := (decoded_iff nonempty succeeds).mpr speech
    obtain ⟨segments,detected,answered⟩ := whisper_answers nonempty heard succeeds
    obtain ⟨after,ran,_,buffer⟩ := transcribe_heard nonempty heard answered true
    have texts : spoken engine outcome = segments := by simp only [spoken,heard,answered]
    rw [commit_forced] at ran buffer
    refine ⟨after,_,ran,?_⟩
    by_cases none_found : segments = []
    · rw [if_pos none_found] at buffer
      refine iff_of_false ?_ ?_
      · intro total
        exact nonempty (buffer.symm.trans total.audioBuffer)
      · rintro ⟨_,found,_,same,some_found⟩
        cases answered.symm.trans same
        exact some_found none_found
    · rw [if_neg none_found] at buffer
      refine iff_of_true ?_ ⟨speech,segments,detected,answered,none_found⟩
      rw [if_neg none_found]
      exact ⟨rfl,by rw [texts],buffer⟩
  · have unheard : decoded engine outcome = none := by
      rw [← Option.not_isSome_iff_eq_none,Option.isSome_iff_exists]
      exact (decoded_iff nonempty succeeds).not.mpr speech
    obtain ⟨after,ran,buffer⟩ := transcribe_unheard nonempty unheard succeeds true
    refine ⟨after,_,ran,iff_of_false ?_ fun condition => speech condition.1⟩
    intro total
    exact nonempty (buffer.symm.trans total.audioBuffer)

def shortTake : StreamingWhisperEngine := ⟨[1,2,3],0,0,none,bytes "es"⟩

def said (segments : List Segment) : Outcome := ⟨⟨true,some []⟩,.decoded segments none⟩

theorem forced_commit_total_iff_one_word :
    ∃ after result, shortTake.transcribeSlidingWindow true (said [⟨some (bytes "uno"),100⟩]) =
        (after,.ok result) ∧
      Total shortTake (said [⟨some (bytes "uno"),100⟩]) after result := by
  have nonempty : shortTake.audioBuffer ≠ [] := by decide
  have succeeds : shortTake.throws (said [⟨some (bytes "uno"),100⟩]) = false := by decide
  obtain ⟨after,result,ran,iff⟩ := forced_commit_total_iff nonempty succeeds
  refine ⟨after,result,ran,iff.mpr ⟨?_,_,_,rfl,by decide⟩⟩
  intro gate gated
  cases gated

-- Whisper hears no words in it, and the audio stays.
theorem wordless_audio_stays : ∃ after result,
    shortTake.audioBuffer ≠ [] ∧ shortTake.throws (said []) = false ∧
    shortTake.transcribeSlidingWindow true (said []) = (after,.ok result) ∧
    after.audioBuffer = [1,2,3] ∧ ¬ Total shortTake (said []) after result := by
  refine ⟨shortTake,⟨[],[]⟩,by decide,by decide,rfl,rfl,?_⟩
  intro total
  cases total.audioBuffer

end Forced

section Paid
variable {engine after : StreamingWhisperEngine} {outcome : Outcome} {gate : Option VadGate}
  {decodeSize size : Nat} {segments : List Segment} {bound t1 : Int} {result : TranscribeResult}

def decodedSize (engine : StreamingWhisperEngine) (outcome : Outcome) : Nat :=
  match decoded engine outcome with
  | some (_,decodeSize) => decodeSize
  | none => 0

-- Segments 0 to commit_up_to_segment.
def committedSegments (decodeSize : Nat) (segments : List Segment) : List Segment :=
  match commitPoint decodeSize segments with
  | some (upTo,_) => segments.take (upTo+1)
  | none => []

-- An end time in samples of the snapshot: through the mapping of the pass when
-- there is a gate.
def originalEnd : Option VadGate → Int → Nat
  | some gate,t1 => (gate.toOriginalSamples t1).toNat
  | none,t1 => (t1 * 160).toNat

-- The gate multiplies in int64_t.
def Defined : Option VadGate → Int → Prop
  | some _,t1 => t1 * 160 < 2^63
  | none,_ => True

-- The texts are split behind a segment, and what is committed has lost its audio.
structure PaidFor (engine : StreamingWhisperEngine) (decodeSize : Nat) (segments : List Segment)
    (after : StreamingWhisperEngine) (result : TranscribeResult) : Prop where
  committedText : result.committedText = concatTexts (committedSegments decodeSize segments)
  partialText : result.partialText =
    concatTexts (segments.drop (committedSegments decodeSize segments).length)
  whole : result.committedText ++ result.partialText = concatTexts segments
  erased : result.committedText ≠ [] →
    ∃ last ∈ (committedSegments decodeSize segments).getLast?, Defined after.vadGate last.t1 ∧
      0 < min engine.getBufferSize (originalEnd after.vadGate last.t1) ∧
      after.audioBuffer =
        engine.audioBuffer.drop (min engine.getBufferSize (originalEnd after.vadGate last.t1))

-- The segments that end before the overlap or, when none does, all but the last.
def due (decodeSize : Nat) (segments : List Segment) : List Segment :=
  if segments.all fun segment => overlapBound decodeSize ≤ segment.t1 then segments.dropLast
  else segments.filter fun segment => segment.t1 < overlapBound decodeSize

-- An end time in samples that its type holds, or whose remainder is past the buffer.
def InRange (gated : Bool) (size : Nat) (t1 : Int) : Prop :=
  if gated then t1 * 160 < 2^63 else t1 * 160 < 2^64 ∨ (size : Int) ≤ t1 * 160 % 2^64

def Timed (engine : StreamingWhisperEngine) (decodeSize : Nat) (segments : List Segment) : Prop :=
  (∀ segment ∈ due decodeSize segments, segment.text.getD [] = []) ∨
  ∀ last ∈ (due decodeSize segments).getLast?, 0 < last.t1 ∧
    InRange engine.vadGate.isSome engine.getBufferSize last.t1

theorem take_through (front rest : List Segment) (segment : Segment) :
    (front ++ segment :: rest).take (front.length+1) = front ++ [segment] := by
  rw [List.append_cons]
  exact List.take_left' (by simp)

theorem committedSegments_some {front rest : List Segment} {segment : Segment}
    (point : commitPoint decodeSize (front ++ segment :: rest) = some (front.length,segment.t1)) :
    committedSegments decodeSize (front ++ segment :: rest) = front ++ [segment] := by
  simp only [committedSegments,point,take_through]

theorem filter_early {front rest : List Segment} {segment : Segment}
    (sorted : (front ++ segment :: rest).Pairwise fun first second => first.t1 ≤ second.t1)
    (early : segment.t1 < bound) (late : ∀ later ∈ rest, bound ≤ later.t1) :
    (front ++ segment :: rest).filter (fun segment => segment.t1 < bound) = front ++ [segment] := by
  have front_early : ∀ earlier ∈ front, decide (earlier.t1 < bound) = true := by
    intro earlier present
    have before := (List.pairwise_append.mp sorted).2.2 earlier present segment List.mem_cons_self
    exact decide_eq_true (Int.lt_of_le_of_lt before early)
  have rest_late : ∀ later ∈ rest, ¬ decide (later.t1 < bound) = true := by
    intro later present
    have behind := late later present
    simp only [decide_eq_true_eq]
    omega
  have here : decide (segment.t1 < bound) = true := decide_eq_true early
  rw [List.filter_append,List.filter_cons,if_pos here,List.filter_eq_self.mpr front_early,
    List.filter_eq_nil_iff.mpr rest_late]

-- In order of their end times the committed segments are those that are due.
theorem committedSegments_due
    (sorted : segments.Pairwise fun first second => first.t1 ≤ second.t1) :
    committedSegments decodeSize segments = due decodeSize segments := by
  rcases commitPoint_cases decodeSize segments with
    ⟨point,short,late⟩ | ⟨front,segment,rest,rfl,point,⟨early,late⟩ | ⟨late,one⟩⟩
  · have all_late : (segments.all fun segment => overlapBound decodeSize ≤ segment.t1) = true :=
      List.all_eq_true.mpr fun segment present => decide_eq_true (late segment present)
    have nothing : segments.dropLast = [] := by
      rw [← List.length_eq_zero_iff,List.length_dropLast]
      omega
    simp only [committedSegments,point,due,all_late,if_true,nothing]
  · have some_early : ¬ ((front ++ segment :: rest).all fun segment =>
        overlapBound decodeSize ≤ segment.t1) = true := by
      intro all_late
      have here := of_decide_eq_true
        (List.all_eq_true.mp all_late segment (List.mem_append_right _ List.mem_cons_self))
      omega
    rw [committedSegments_some point,due,if_neg some_early,filter_early sorted early late]
  · have all_late : ((front ++ segment :: rest).all fun segment =>
        overlapBound decodeSize ≤ segment.t1) = true :=
      List.all_eq_true.mpr fun segment present => decide_eq_true (late segment present)
    obtain ⟨last,rfl⟩ := List.length_eq_one_iff.mp one
    rw [committedSegments_some point,due,if_pos all_late,
      List.dropLast_append_of_ne_nil (List.cons_ne_nil _ _)]
    rfl

theorem gate_starts {vad used : VadGate} {buffer : List Sample} {answer : VadOutcome} {found : GatedResult}
    (ran : vad.gate buffer answer = (used,.ok found)) (nonempty : buffer ≠ [])
    (speech : found.hadSpeech = true) :
    ∃ seg ∈ used.mapping, seg.gatedStart = 0 ∧ 0 < seg.gatedEnd ∧ 0 ≤ seg.originalStart := by
  obtain ⟨ready,segments,detected⟩ := gate_detects ran nonempty
  obtain ⟨_,again,same,heard⟩ := gate_ready vad buffer ready detected
  cases ran.symm.trans same
  rw [speech] at heard
  rcases gate_returns ran with ⟨empty,_⟩ | ⟨found,_,mapping,samples⟩
  · exact absurd empty nonempty
  · obtain ⟨new,tail,entries,copied,_,ordered,laid⟩ :=
      gateLoop_built buffer buffer.length vad.pad found ⟨0,0,[],[]⟩
    rw [mapping,entries,List.nil_append]
    rw [samples,copied,List.nil_append] at heard
    cases new with
    | nil =>
      obtain rfl : tail = [] := laid
      cases heard
    | cons seg rest =>
      have start : seg.gatedStart = 0 := laid.1
      have entry := ordered.mem (List.mem_cons_self (a := seg))
      exact ⟨seg,List.mem_cons_self,start,by omega,entry.2.1⟩

theorem erase_gated {vad used : VadGate} {found : GatedResult} {answer : VadOutcome}
    (ran : vad.gate engine.audioBuffer answer = (used,.ok found)) (speech : found.hadSpeech = true)
    (nonempty : engine.audioBuffer ≠ []) (sized : engine.getBufferSize < 2^64) (positive : 0 < t1) :
    samplesToErase (some used) t1 = originalEnd (some used) t1 ∧
      0 < originalEnd (some used) t1 ∧ originalEnd (some used) t1 ≤ engine.getBufferSize := by
  obtain ⟨seg,present,start,more,from_start⟩ := gate_starts ran nonempty speech
  obtain ⟨lower,upper,separates⟩ := vad.toOriginalSamples_gate engine.audioBuffer answer positive
  simp only [ran] at lower upper separates
  have first := (separates seg present 0 (by omega) more).mp (by omega)
  simp only [samplesToErase,originalEnd,sizeT,getBufferSize] at sized ⊢
  omega

theorem erase_ungated (positive : 0 < t1) :
    (samplesToErase none t1 : Int) = t1 * 160 % 2^64 ∧ (originalEnd none t1 : Int) = t1 * 160 := by
  simp only [samplesToErase,originalEnd,sizeT]
  omega

-- What a commit at a positive end time erases is what lies before that time,
-- unless the product overflows.
theorem erase_iff (nonempty : engine.audioBuffer ≠ []) (sized : engine.getBufferSize < 2^64)
    (heard : decoded engine outcome = some (gate,decodeSize)) (positive : 0 < t1) :
    (Defined gate t1 ∧ 0 < min engine.getBufferSize (originalEnd gate t1) ∧
      engine.audioBuffer.drop (samplesToErase gate t1) =
        engine.audioBuffer.drop (min engine.getBufferSize (originalEnd gate t1))) ↔
    InRange engine.vadGate.isSome engine.getBufferSize t1 := by
  have some_samples : 0 < engine.getBufferSize := List.length_pos_iff.mpr nonempty
  cases gated : engine.vadGate with
  | some vad =>
    obtain ⟨used,found,ran,speech,rfl⟩ := decoded_heard gated heard
    obtain ⟨same,some_erased,inside⟩ := erase_gated ran speech nonempty sized positive
    simp only [Defined,InRange,Option.isSome_some,if_true]
    refine ⟨And.left,fun range => ⟨range,by omega,?_⟩⟩
    rw [same,Nat.min_eq_right inside]
  | none =>
    simp only [decoded,gated,Option.some.injEq,Prod.mk.injEq] at heard
    obtain ⟨rfl,_⟩ := heard
    obtain ⟨wrapped,exact_end⟩ := erase_ungated positive
    simp only [Defined,InRange,Option.isSome_none,Bool.false_eq_true,if_false,true_and]
    constructor
    · rintro ⟨_,same⟩
      have lengths := congrArg List.length same
      simp only [List.length_drop,getBufferSize] at lengths some_samples ⊢
      omega
    · intro range
      refine ⟨by omega,?_⟩
      rcases range with small | past
      · have same : samplesToErase none t1 = originalEnd none t1 := by omega
        rw [same]
        by_cases inside : originalEnd none t1 ≤ engine.getBufferSize
        · rw [Nat.min_eq_right inside]
        · rw [Nat.min_eq_left (by omega),List.drop_eq_nil_of_le (Nat.le_of_not_le inside)]
          exact (List.drop_length).symm
      · have whole : engine.getBufferSize ≤ samplesToErase none t1 := by omega
        rw [Nat.min_eq_left (by omega),List.drop_eq_nil_of_le whole]
        exact (List.drop_length).symm

theorem commit_long (gate : Option VadGate) (decodeSize : Nat) (long : maxWindowSamples ≤ size)
    (segments : List Segment) :
    (commit gate false size decodeSize segments).1 =
      ⟨concatTexts (segments.drop (committedSegments decodeSize segments).length),
        concatTexts (committedSegments decodeSize segments)⟩ ∧
    ∀ last ∈ (committedSegments decodeSize segments).getLast?,
      (commit gate false size decodeSize segments).2 =
        if last.t1 > 0 then .front (samplesToErase gate last.t1) else .keep := by
  rcases commitPoint_cases decodeSize segments with
    ⟨point,_⟩ | ⟨front,segment,rest,rfl,point,_⟩
  · have nothing : committedSegments decodeSize segments = [] := by
      simp only [committedSegments,point]
    rw [nothing]
    simp [commit,long,point,concatTexts]
  · rw [committedSegments_some point]
    constructor
    · simp [commit,long,point,take_through]
    · intro last is_last
      simp only [List.getLast?_append,List.getLast?_singleton,Option.some_or,Option.mem_some_iff] at is_last
      subst is_last
      simp [commit,long,point]

theorem committedSegments_through (decodeSize : Nat) (segments : List Segment) :
    committedSegments decodeSize segments ++
      segments.drop (committedSegments decodeSize segments).length = segments := by
  rcases commitPoint_cases decodeSize segments with ⟨point,_⟩ | ⟨front,segment,rest,rfl,point,_⟩
  · simp [committedSegments,point]
  · rw [committedSegments_some point]
    simp

theorem last_of_words {segments : List Segment} (words : concatTexts segments ≠ []) :
    ∃ last, last ∈ segments.getLast? := by
  cases found : segments.getLast? with
  | some last => exact ⟨last,rfl⟩
  | none =>
    rw [List.getLast?_eq_none_iff] at found
    exact absurd (by rw [found]; rfl) words

theorem paid_for_iff (nonempty : engine.audioBuffer ≠ []) (long : maxWindowSamples ≤ engine.getBufferSize)
    (sized : engine.getBufferSize < 2^64) (heard : decoded engine outcome = some (gate,decodeSize))
    (sorted : segments.Pairwise fun first second => first.t1 ≤ second.t1) (same_gate : after.vadGate = gate)
    (buffer : after.audioBuffer =
      (commit gate false engine.getBufferSize decodeSize segments).2.apply engine.audioBuffer) :
    PaidFor engine decodeSize segments after
        (commit gate false engine.getBufferSize decodeSize segments).1 ↔
      Timed engine decodeSize segments := by
  obtain ⟨texts,erases⟩ := commit_long gate decodeSize long segments
  have some_samples : 0 < engine.getBufferSize := List.length_pos_iff.mpr nonempty
  have range {t1 : Int} (positive : 0 < t1) := erase_iff nonempty sized heard positive
  rw [texts,Timed,← committedSegments_due sorted,← concatTexts_eq_nil]
  subst same_gate
  constructor
  · intro paid
    by_cases wordless : concatTexts (committedSegments decodeSize segments) = []
    · exact .inl wordless
    · refine .inr ?_
      intro last is_last
      obtain ⟨last',same,defined,lost,kept⟩ := paid.erased wordless
      cases Option.mem_unique is_last same
      rw [buffer,erases last is_last] at kept
      by_cases positive : 0 < last.t1
      · rw [if_pos positive,apply_front] at kept
        exact ⟨positive,(range positive).mp ⟨defined,lost,kept⟩⟩
      · rw [if_neg positive] at kept
        have lengths := congrArg List.length kept
        simp only [Erase.apply,List.length_drop,getBufferSize] at lengths lost some_samples
        omega
  · intro timed
    refine ⟨rfl,rfl,?_,?_⟩
    · rw [← concatTexts_append,committedSegments_through]
    · intro words
      obtain ⟨last,is_last⟩ := last_of_words words
      obtain ⟨positive,inside⟩ := timed.resolve_left words last is_last
      obtain ⟨defined,lost,kept⟩ := (range positive).mpr inside
      refine ⟨last,is_last,defined,lost,?_⟩
      rw [buffer,erases last is_last,if_pos positive,apply_front,kept]

theorem commit_paid_for_iff (long : maxWindowSamples ≤ engine.getBufferSize)
    (sized : engine.getBufferSize < 2^64) (succeeds : engine.throws outcome = false)
    (sorted : (spoken engine outcome).Pairwise fun first second => first.t1 ≤ second.t1) :
    ∃ after result, engine.transcribeSlidingWindow false outcome = (after,.ok result) ∧
      (PaidFor engine (decodedSize engine outcome) (spoken engine outcome) after result ↔
        Timed engine (decodedSize engine outcome) (spoken engine outcome)) := by
  have nonempty : engine.audioBuffer ≠ [] := by
    rw [← List.length_pos_iff]
    simp only [maxWindowSamples,getBufferSize] at long
    omega
  cases heard : decoded engine outcome with
  | none =>
    obtain ⟨after,ran,buffer⟩ := transcribe_unheard nonempty heard succeeds false
    have silent : spoken engine outcome = [] := by simp only [spoken,heard]
    refine ⟨after,_,ran,?_⟩
    rw [silent]
    refine iff_of_true ⟨rfl,rfl,rfl,fun words => absurd rfl words⟩ (.inl ?_)
    exact List.forall_mem_nil _
  | some handed =>
    obtain ⟨gate,decodeSize⟩ := handed
    obtain ⟨segments,detected,answered⟩ := whisper_answers nonempty heard succeeds
    obtain ⟨after,ran,same_gate,buffer⟩ := transcribe_heard nonempty heard answered false
    have texts : spoken engine outcome = segments := by simp only [spoken,heard,answered]
    have size : decodedSize engine outcome = decodeSize := by simp only [decodedSize,heard]
    rw [texts] at sorted
    rw [texts,size]
    exact ⟨after,_,ran,paid_for_iff nonempty long sized heard sorted same_gate buffer⟩

theorem length_tenSeconds : tenSeconds.getBufferSize = 160000 := List.length_replicate

theorem decodedSize_tenSeconds (t1 : Int) : decodedSize tenSeconds (twoSegments t1) = 160000 :=
  List.length_replicate

theorem tenSeconds_succeeds (t1 : Int) : tenSeconds.throws (twoSegments t1) = false := by
  unfold throws
  exact Bool.and_false _

theorem spoken_tenSeconds (t1 : Int) :
    spoken tenSeconds (twoSegments t1) = [⟨some (bytes "uno"),t1⟩,⟨some (bytes "dos"),1200⟩] := rfl

theorem commit_paid_for_iff_inside : ∃ after result,
    tenSeconds.transcribeSlidingWindow false (twoSegments 500) = (after,.ok result) ∧
      PaidFor tenSeconds 160000 (spoken tenSeconds (twoSegments 500)) after result := by
  have long : maxWindowSamples ≤ tenSeconds.getBufferSize := by rw [length_tenSeconds]; decide
  have sized : tenSeconds.getBufferSize < 2^64 := by rw [length_tenSeconds]; decide
  obtain ⟨after,result,ran,iff⟩ := commit_paid_for_iff long sized (tenSeconds_succeeds 500)
    (by rw [spoken_tenSeconds]; decide)
  rw [decodedSize_tenSeconds] at iff
  refine ⟨after,result,ran,iff.mpr (.inr ?_)⟩
  intro last is_last
  have only : last = ⟨some (bytes "uno"),500⟩ := by
    have found : (due 160000 (spoken tenSeconds (twoSegments 500))).getLast? =
      some ⟨some (bytes "uno"),500⟩ := by decide
    exact (Option.some.inj (found.symm.trans is_last)).symm
  rw [only]
  exact ⟨by decide,.inl (by decide)⟩

-- Whisper dates the end of the first word at 0, and the pass that hears it again commits it again.
theorem undated_word_keeps_audio : ∃ after result,
    tenSeconds.transcribeSlidingWindow false (twoSegments 0) = (after,.ok result) ∧
      result.committedText = bytes "uno" ∧ after.audioBuffer = tenSeconds.audioBuffer ∧
      ¬ PaidFor tenSeconds 160000 (spoken tenSeconds (twoSegments 0)) after result := by
  have nonempty : tenSeconds.audioBuffer ≠ [] := by
    rw [← List.length_pos_iff]
    exact Nat.lt_of_lt_of_eq (by decide) length_tenSeconds.symm
  have heard : decoded tenSeconds (twoSegments 0) = some (none,160000) :=
    congrArg (fun size => some (none,size)) length_tenSeconds
  obtain ⟨after,ran,_,buffer⟩ := transcribe_heard nonempty heard rfl false
  have answer : commit none false 160000 160000 [⟨some (bytes "uno"),0⟩,⟨some (bytes "dos"),1200⟩] =
      (⟨bytes "dos",bytes "uno"⟩,.keep) := by decide
  rw [length_tenSeconds,answer] at ran buffer
  refine ⟨after,_,ran,rfl,buffer,?_⟩
  intro paid
  obtain ⟨last,_,_,lost,kept⟩ := paid.erased (by decide)
  have lengths := congrArg List.length (buffer.symm.trans kept)
  have size : tenSeconds.audioBuffer.length = 160000 := length_tenSeconds
  simp only [Erase.apply,List.length_drop,getBufferSize] at lengths lost
  omega

def pledged (engine : StreamingWhisperEngine) (outcome : Outcome) : Text :=
  if maxWindowSamples ≤ engine.getBufferSize then
    concatTexts (committedSegments (decodedSize engine outcome) (spoken engine outcome))
  else []

theorem transcribe_text (ran : engine.transcribeSlidingWindow false outcome = (after,.ok result)) :
    result.committedText = pledged engine outcome := by
  by_cases nonempty : engine.audioBuffer ≠ []
  · have succeeds : engine.throws outcome = false := by
      rw [← Bool.not_eq_true,← engine.transcribeSlidingWindow_throws false outcome,ran]
      rintro ⟨error,fails⟩
      cases fails
    cases heard : decoded engine outcome with
    | none =>
      obtain ⟨_,same,_⟩ := transcribe_unheard nonempty heard succeeds false
      cases ran.symm.trans same
      simp [pledged,spoken,heard,committedSegments,commitPoint,lastSegmentBefore,concatTexts]
    | some handed =>
      obtain ⟨gate,decodeSize⟩ := handed
      obtain ⟨segments,detected,answered⟩ := whisper_answers nonempty heard succeeds
      obtain ⟨_,same,_⟩ := transcribe_heard nonempty heard answered false
      cases ran.symm.trans same
      simp only [pledged,spoken,decodedSize,heard,answered]
      by_cases long : maxWindowSamples ≤ engine.getBufferSize
      · rw [if_pos long,(commit_long gate decodeSize long segments).1]
      · simp [commit,long]
  · have empty : engine.audioBuffer = [] := not_not.mp nonempty
    have short : ¬ maxWindowSamples ≤ engine.getBufferSize := by
      rw [getBufferSize,empty]
      decide
    have filled : engine.audioBuffer.isEmpty = true := by rw [empty]; rfl
    simp only [StreamingWhisperEngine.transcribeSlidingWindow,filled,if_true,Prod.mk.injEq,
      Except.ok.injEq] at ran
    rw [pledged,if_neg short,← ran.2]

theorem transcribe_size (ran : engine.transcribeSlidingWindow false outcome = (after,.ok result)) :
    after.getBufferSize = engine.getBufferSize - commitEnd engine outcome := by
  rw [← ConcurrentAudio.transcribeSlidingWindow_alone] at ran
  have left := ConcurrentAudio.transcribeSlidingWindow_buffer ran
  simp only [ConcurrentAudio.accepted,ConcurrentAudio.discarded,List.append_nil,Nat.zero_add] at left
  rw [getBufferSize,left,List.length_drop,getBufferSize]

end Paid
end JotaTranscriber.CommitAccounting

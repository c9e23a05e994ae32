import JotaTranscriber.HandleTranscribe
import JotaTranscriber.ConcurrentAudio
import Mathlib.Algebra.Order.Field.Rat

namespace JotaTranscriber.GatedTimeline
open VadGate

def FitsInt (value : Int) : Prop := -2^31 ≤ value ∧ value < 2^31

instance (value : Int) : Decidable (FitsInt value) := inferInstanceAs (Decidable (_ ∧ _))

def covers (position : Int) (seg : SegmentMapping) : Bool :=
  decide (seg.originalStart ≤ position ∧ position < seg.originalEnd)

def hears (position : Int) (seg : SegmentMapping) : Prop :=
  seg.gatedStart ≤ position ∧ position < seg.gatedEnd

structure Timeline (original : List Sample) (mapping : List SegmentMapping)
    (samples : List Sample) : Prop where
  inside : ∀ seg ∈ mapping, 0 ≤ seg.originalStart ∧ seg.originalStart < seg.originalEnd ∧
    seg.originalEnd ≤ original.length
  disjoint : mapping.Pairwise fun first second => first.originalEnd ≤ second.originalStart
  sameLength : ∀ seg ∈ mapping, seg.gatedEnd - seg.gatedStart = seg.originalEnd - seg.originalStart
  first : ∀ seg ∈ mapping.head?, seg.gatedStart = 0
  separated : mapping.IsChain fun first second => second.gatedStart - first.gatedEnd = 1600
  copied : ∀ seg ∈ mapping, ∀ k : Nat, k < seg.gatedEnd - seg.gatedStart →
    ∃ sample, samples[(seg.gatedStart + k).toNat]? = some sample ∧
      original[(seg.originalStart + k).toNat]? = some sample
  silent : ∀ position < samples.length, (∀ seg ∈ mapping, ¬ hears position seg) →
    samples[position]? = some 0

section Layout
variable {buffer samples : List Sample} {cursor gated previous total : Int}
  {mapping : List SegmentMapping} {seg : SegmentMapping}

theorem length_copied (start : 0 ≤ seg.originalStart) (stop : seg.originalEnd ≤ buffer.length) :
    (copied buffer seg).length = (seg.originalEnd - seg.originalStart).toNat := by
  rw [copied,List.length_take,List.length_drop]
  omega

theorem copied_get (k : Nat) (inside : k < seg.originalEnd - seg.originalStart) :
    (copied buffer seg)[k]? = buffer[seg.originalStart.toNat + k]? := by
  rw [copied,List.getElem?_take_of_lt (by omega),List.getElem?_drop]

theorem ordered_disjoint (ordered : Ordered gated previous total mapping) :
    mapping.Pairwise fun first second => first.originalEnd ≤ second.originalStart := by
  induction mapping generalizing gated previous with
  | nil => exact .nil
  | cons first rest ih =>
    have others := ordered.2.2.2.2.2
    refine List.pairwise_cons.mpr ⟨?_,ih others⟩
    intro second present
    exact (others.mem present).2.1

theorem ordered_covers (ordered : Ordered gated previous total mapping) (position : Int) :
    mapping.countP (covers position) ≤ 1 := by
  have disjoint := ordered_disjoint ordered
  induction mapping generalizing gated previous with
  | nil => exact Nat.zero_le _
  | cons first rest ih =>
    obtain ⟨apart,others⟩ := List.pairwise_cons.mp disjoint
    rw [List.countP_cons]
    by_cases here : covers position first = true
    · have nowhere : rest.countP (covers position) = 0 := by
        rw [List.countP_eq_zero]
        intro second present
        have later := apart second present
        simp only [covers,decide_eq_true_eq] at here ⊢
        omega
      simp [here,nowhere]
    · simpa [here] using ih ordered.2.2.2.2.2 others

-- No entry starts before the cursor it was laid from.
theorem laid_from (ordered : Ordered gated previous total mapping) (laid : Laid buffer cursor mapping samples)
    (present : seg ∈ mapping) : cursor ≤ seg.gatedStart := by
  induction mapping generalizing cursor gated previous samples with
  | nil => cases present
  | cons first rest ih =>
    obtain ⟨_,_,nonempty,_,_,others⟩ := ordered
    obtain ⟨start,silence,later,_,_,next⟩ := laid
    rcases List.mem_cons.mp present with rfl | behind
    · exact Int.le_of_eq start.symm
    · have found := ih others next behind
      omega

theorem laid_first (laid : Laid buffer cursor mapping samples) (head : seg ∈ mapping.head?) :
    seg.gatedStart = cursor := by
  cases mapping with
  | nil => cases head
  | cons first rest =>
    cases head
    exact laid.1

theorem laid_separated (laid : Laid buffer cursor mapping samples) :
    mapping.IsChain fun first second => second.gatedStart - first.gatedEnd = 1600 := by
  induction mapping generalizing cursor samples with
  | nil => exact .nil
  | cons first rest ih =>
    obtain ⟨_,silence,later,_,full,next⟩ := laid
    cases rest with
    | nil => exact .singleton first
    | cons second others =>
      refine List.isChain_cons_cons.mpr ⟨?_,ih next⟩
      have start := next.1
      have silent := full (List.cons_ne_nil second others)
      simp only [gap] at silent
      omega

-- How the samples behind the first entry are reached.
theorem laid_shift (start : 0 ≤ seg.originalStart) (stop : seg.originalEnd ≤ buffer.length)
    (silence : Nat) (later : List Sample) (position : Nat)
    (behind : (seg.originalEnd - seg.originalStart).toNat + silence ≤ position) :
    (copied buffer seg ++ List.replicate silence 0 ++ later)[position]? =
      later[position - ((seg.originalEnd - seg.originalStart).toNat + silence)]? := by
  have length : (copied buffer seg ++ List.replicate silence (0 : Sample)).length =
      (seg.originalEnd - seg.originalStart).toNat + silence := by
    rw [List.length_append,length_copied start stop,List.length_replicate]
  rw [List.getElem?_append_right (by omega),length]

theorem laid_copied (ordered : Ordered gated previous buffer.length mapping) (start : 0 ≤ previous)
    (laid : Laid buffer cursor mapping samples) (present : seg ∈ mapping) (k : Nat)
    (inside : k < seg.gatedEnd - seg.gatedStart) :
    samples[(seg.gatedStart - cursor).toNat + k]? = buffer[seg.originalStart.toNat + k]? := by
  induction mapping generalizing cursor gated previous samples with
  | nil => cases present
  | cons first rest ih =>
    have whole := ordered.mem present
    obtain ⟨_,originalFrom,nonempty,within,same,others⟩ := ordered
    obtain ⟨from_cursor,silence,later,rfl,_,next⟩ := laid
    have length := length_copied (by omega : 0 ≤ first.originalStart) within
    rcases List.mem_cons.mp present with rfl | behind
    · have here : (seg.gatedStart - cursor).toNat + k = k := by omega
      rw [here,List.append_assoc,List.getElem?_append_left (by omega)]
      exact copied_get k (by omega)
    · have after := laid_from others next behind
      rw [laid_shift (by omega) within _ _ _ (by omega)]
      have shifted : (seg.gatedStart - cursor).toNat + k -
          ((first.originalEnd - first.originalStart).toNat + silence) =
          (seg.gatedStart - (first.gatedEnd + silence)).toNat + k := by omega
      rw [shifted]
      exact ih others (by omega) next behind

theorem laid_silent (ordered : Ordered gated previous buffer.length mapping) (start : 0 ≤ previous)
    (laid : Laid buffer cursor mapping samples) (position : Nat) (inside : position < samples.length)
    (unheard : ∀ seg ∈ mapping, ¬ hears (cursor + position) seg) : samples[position]? = some 0 := by
  induction mapping generalizing cursor gated previous samples position with
  | nil =>
    obtain rfl : samples = [] := laid
    cases inside
  | cons first rest ih =>
    obtain ⟨_,originalFrom,nonempty,within,same,others⟩ := ordered
    obtain ⟨from_cursor,silence,later,rfl,_,next⟩ := laid
    have length := length_copied (by omega : 0 ≤ first.originalStart) within
    have outside := unheard first List.mem_cons_self
    simp only [hears] at outside
    by_cases gapped : position < (first.originalEnd - first.originalStart).toNat + silence
    · rw [List.append_assoc,List.getElem?_append_right (by omega),
        List.getElem?_append_left (by rw [List.length_replicate]; omega),List.getElem?_replicate,
        if_pos (by omega)]
    · rw [laid_shift (by omega) within _ _ _ (by omega)]
      simp only [List.length_append,List.length_replicate,length] at inside
      apply ih others (by omega) next _ (by omega)
      intro seg present
      have same_place : first.gatedEnd + (silence : Int) +
          ((position - ((first.originalEnd - first.originalStart).toNat + silence) : Nat) : Int) =
          cursor + position := by omega
      rw [same_place]
      exact unheard seg (List.mem_cons_of_mem _ present)

end Layout

section Coverage
variable {buffer : List Sample} {total pad position t0 t1 : Int} {mapping : List SegmentMapping}
  {segments rest : List (Int × Int)} {loop : GateLoop}

def Covered (position : Int) (mapping : List SegmentMapping) : Prop :=
  ∃ seg ∈ mapping, covers position seg = true

theorem Covered.append (covered : Covered position mapping) (new : List SegmentMapping) :
    Covered position (mapping ++ new) := by
  obtain ⟨seg,present,here⟩ := covered
  exact ⟨seg,List.mem_append_left _ present,here⟩

-- What lies before the end of the last entry is covered from the start of
-- every segment still to come: the entry begins no later than its own segment,
-- and so no later than theirs, unless an earlier entry is in its way.
def Swept (total : Int) (segments : List (Int × Int)) (loop : GateLoop) : Prop :=
  ∀ segment ∈ segments, ∀ position, clampSamples total segment.1 ≤ position →
    position < loop.prevSegEnd → Covered position loop.mapping

theorem covered_extend (silence : Nat) (padded : 0 ≤ pad) (sized : 0 ≤ total)
    (swept : position < loop.prevSegEnd → Covered position loop.mapping)
    (start : clampSamples total t0 ≤ position) (stop : position < segEnd total pad t1) :
    Covered position (loop.extend buffer (segStart total pad t0 loop) (segEnd total pad t1)
      silence).mapping := by
  by_cases early : position < loop.prevSegEnd
  · exact (swept early).append _
  · have from_start : segStart total pad t0 loop ≤ position := by
      simp only [segStart,clampSamples] at *
      omega
    exact ⟨_,List.mem_append_right _ (List.mem_singleton_self _),by simpa [covers] using ⟨from_start,stop⟩⟩

-- A segment is skipped only when earlier entries reach over it.
theorem covered_skip (padded : 0 ≤ pad) (sized : 0 ≤ total)
    (swept : position < loop.prevSegEnd → Covered position loop.mapping)
    (start : clampSamples total t0 ≤ position) (stop : position < segEnd total pad t1)
    (skipped : segEnd total pad t1 ≤ segStart total pad t0 loop) : Covered position loop.mapping := by
  apply swept
  simp only [segStart,clampSamples] at *
  omega

theorem gateLoop_covers (padded : 0 ≤ pad) (sized : 0 ≤ total)
    (sorted : segments.Pairwise fun a b => a.1 ≤ b.1) (swept : Swept total segments loop) :
    ∀ segment ∈ segments, ∀ position, clampSamples total segment.1 ≤ position →
      position < clampSamples total segment.2 →
      Covered position (gateLoop buffer total pad segments loop).mapping := by
  induction segments generalizing loop with
  | nil => exact List.forall_mem_nil _
  | cons first rest ih =>
    obtain ⟨t0,t1⟩ := first
    obtain ⟨later,sorted_rest⟩ := List.pairwise_cons.mp sorted
    have swept_rest : Swept total rest loop :=
      fun segment present => swept segment (List.mem_cons_of_mem _ present)
    have swept_first := swept (t0,t1) List.mem_cons_self
    have monotone (segment : Int × Int) (present : segment ∈ rest) :
        clampSamples total t0 ≤ clampSamples total segment.1 := by
      have order : t0 ≤ segment.1 := later segment present
      simp only [clampSamples]
      omega
    have within (position : Int) (inside : position < clampSamples total t1) :
        position < segEnd total pad t1 := by
      simp only [segEnd,clampSamples] at *
      omega
    have kept {next : GateLoop} {position : Int} (covered : Covered position next.mapping) :
        Covered position (gateLoop buffer total pad rest next).mapping := by
      obtain ⟨new,_,entries,_⟩ := gateLoop_built buffer total pad rest next
      rw [entries]
      exact covered.append new
    intro segment present position start stop
    rw [gateLoop_cons]
    split
    · rename_i skipped
      rcases List.mem_cons.mp present with rfl | other
      · exact kept (covered_skip padded sized (swept_first position start) start (within position stop) skipped)
      · exact ih sorted_rest swept_rest segment other position start stop
    · rcases List.mem_cons.mp present with rfl | other
      · exact kept (covered_extend _ padded sized (swept_first position start) start (within position stop))
      · refine ih sorted_rest ?_ segment other position start stop
        intro segment present position start early
        have own := Int.le_trans (monotone segment present) start
        exact covered_extend _ padded sized (swept_first position own) own early

end Coverage

section Gate
variable {gate after : VadGate} {original samples : List Sample} {outcome : VadOutcome}
  {result : GatedResult} {mapping : List SegmentMapping}

theorem timeline_empty (original : List Sample) : Timeline original [] [] where
  inside := List.forall_mem_nil _
  disjoint := .nil
  sameLength := List.forall_mem_nil _
  first := fun _ absent => by cases absent
  separated := .nil
  copied := List.forall_mem_nil _
  silent := fun _ absent => by cases absent

theorem timeline_laid (ordered : Ordered 0 0 original.length mapping)
    (laid : Laid original 0 mapping samples) : Timeline original mapping samples where
  inside := by
    intro seg present
    have found := ordered.mem present
    omega
  disjoint := ordered_disjoint ordered
  sameLength := by
    intro seg present
    exact (ordered.mem present).2.2.2.1.symm
  first := fun seg head => laid_first laid head
  separated := laid_separated laid
  copied := by
    intro seg present k inside
    have found := ordered.mem present
    have same := laid_copied ordered (Int.le_refl 0) laid present k inside
    have bound : (seg.originalStart + k).toNat < original.length := by omega
    have here : (seg.originalStart + k).toNat = seg.originalStart.toNat + k := by omega
    have there : (seg.gatedStart + k).toNat = (seg.gatedStart - 0).toNat + k := by omega
    refine ⟨original[(seg.originalStart + k).toNat],?_,List.getElem?_eq_getElem bound⟩
    rw [there,same,← here]
    exact List.getElem?_eq_getElem bound
  silent := by
    intro position inside unheard
    exact laid_silent ordered (Int.le_refl 0) laid position inside (by simpa using unheard)

theorem gate_timeline (ran : gate.gate original outcome = (after,.ok result)) :
    Timeline original after.mapping result.samples := by
  rcases gate_returns ran with ⟨_,entries,samples⟩ | ⟨segments,_,entries,samples⟩
  · rw [entries,samples]
    exact timeline_empty original
  · obtain ⟨new,tail,added,appended,_,ordered,laid⟩ := gateLoop_built original original.length gate.pad
      segments ⟨0,0,[],[]⟩
    rw [entries,samples,added,appended]
    exact timeline_laid ordered laid

theorem gate_covers (ran : gate.gate original outcome = (after,.ok result)) (padded : 0 ≤ gate.pad)
    (detected : outcome.segments = some segments) (sorted : segments.Pairwise fun a b => a.1 ≤ b.1)
    (segment : Int × Int) (present : segment ∈ segments) (position : Nat)
    (inside : position < original.length) (start : segment.1 ≤ position) (stop : position < segment.2) :
    after.mapping.countP (covers position) = 1 := by
  rcases gate_returns ran with ⟨rfl,_⟩ | ⟨found,same,entries,_⟩
  · cases inside
  · obtain rfl : found = segments := Option.some.inj (same.symm.trans detected)
    have nothing_yet : Swept original.length found ⟨0,0,[],[]⟩ := by
      intro segment _ position start early
      simp only [clampSamples] at start
      dsimp only at early
      omega
    have covered : Covered position
        (gateLoop original original.length gate.pad found ⟨0,0,[],[]⟩).mapping := by
      apply gateLoop_covers padded (Int.natCast_nonneg _) sorted nothing_yet segment present
      · simp only [clampSamples]
        omega
      · simp only [clampSamples]
        omega
    rw [← entries] at covered
    obtain ⟨seg,member,here⟩ := covered
    have some_entry : 0 < after.mapping.countP (covers position) :=
      List.countP_pos_iff.mpr ⟨seg,member,here⟩
    have ordered : Ordered 0 0 original.length after.mapping := by
      simpa only [ran] using (gate.gate_ordered original outcome).1
    have one_at_most := ordered_covers ordered position
    omega

theorem pad_fits (scaled : FitsInt (gate.speechPadMs * sampleRate)) : FitsInt gate.pad := by
  obtain ⟨low,high⟩ := scaled
  have size : gate.pad.natAbs = (gate.speechPadMs * sampleRate).natAbs / 1000 := Int.natAbs_tdiv _ _
  unfold FitsInt
  omega

theorem sums_fit (above : FitsInt (original.length + gate.pad))
    (below : FitsInt (original.length - gate.pad)) (value : Int) :
    FitsInt (clampSamples original.length value - gate.pad) ∧
      FitsInt (clampSamples original.length value + gate.pad) := by
  obtain ⟨_,upper⟩ := above
  obtain ⟨_,lower⟩ := below
  unfold FitsInt clampSamples
  omega

theorem gate_builds_timeline (size : original.length < 2^31)
    (scaled : FitsInt (gate.speechPadMs * sampleRate))
    (above : FitsInt (original.length + gate.pad)) (below : FitsInt (original.length - gate.pad))
    (ran : gate.gate original outcome = (after,.ok result)) :
    (FitsInt original.length ∧ FitsInt gate.pad ∧
      ∀ value, FitsInt (clampSamples original.length value - gate.pad) ∧
        FitsInt (clampSamples original.length value + gate.pad)) ∧
    Timeline original after.mapping result.samples ∧
    (0 ≤ gate.pad → ∀ segments, outcome.segments = some segments →
      segments.Pairwise (fun a b => a.1 ≤ b.1) → ∀ segment ∈ segments, ∀ position < original.length,
        segment.1 ≤ position → position < segment.2 →
        after.mapping.countP (covers position) = 1) := by
  refine ⟨⟨⟨by omega,by omega⟩,pad_fits scaled,sums_fit above below⟩,gate_timeline ran,?_⟩
  intro padded segments detected sorted segment present position inside start stop
  exact gate_covers ran padded detected sorted segment present position inside start stop

-- Three seconds with two detected segments; the second begins inside the padding
-- of the first.
def threeSeconds : List Sample := List.replicate 48000 1

def twoDetected : VadOutcome := ⟨true,some [(8000,16000),(20000,32000)]⟩

theorem length_threeSeconds : threeSeconds.length = 48000 := List.length_replicate

theorem gate_threeSeconds : ∃ after result,
    (VadGate.create 400).gate threeSeconds twoDetected = (after,.ok result) ∧
    after.mapping = [⟨0,20800,1600,22400⟩,⟨22400,38400,22400,38400⟩] ∧
    after.originalTotalSamples = 48000 := by
  have nonempty : threeSeconds.isEmpty = false := by
    rw [List.isEmpty_eq_false_iff_exists_mem]
    exact ⟨1,List.mem_replicate.mpr ⟨by decide,rfl⟩⟩
  simp only [VadGate.gate,nonempty,length_threeSeconds]
  exact ⟨_,_,rfl,by decide,rfl⟩

theorem gate_builds_timeline_padded : ∃ after result,
    (VadGate.create 400).gate threeSeconds twoDetected = (after,.ok result) ∧
    after.mapping = [⟨0,20800,1600,22400⟩,⟨22400,38400,22400,38400⟩] ∧
    Timeline threeSeconds after.mapping result.samples ∧
    after.mapping.countP (covers 21000) = 1 := by
  obtain ⟨after,result,ran,entries,_⟩ := gate_threeSeconds
  have padding : (VadGate.create 400).pad = 6400 := by decide
  obtain ⟨_,timeline,covering⟩ := gate_builds_timeline (by rw [length_threeSeconds]; decide)
    (by decide : FitsInt _) (by rw [length_threeSeconds,padding]; decide)
    (by rw [length_threeSeconds,padding]; decide) ran
  refine ⟨after,result,ran,entries,timeline,?_⟩
  exact covering (by rw [padding]; decide) _ rfl (by decide) (20000,32000) (by decide) 21000
    (by rw [length_threeSeconds]; decide) (by decide) (by decide)

end Gate

section Translation
variable {mapping : List SegmentMapping} {seg : SegmentMapping} {total position later : Int}

theorem translate_negative (mapping : List SegmentMapping) (total : Int) (negative : position < 0) :
    mapGatedToOriginalSamples mapping position total = 0 := by
  cases mapping with
  | nil => rfl
  | cons seg rest => simp only [mapGatedToOriginalSamples,if_pos negative]

theorem translate_bounds (ordered : Ordered 0 0 total mapping) (sized : 0 ≤ total) (position : Int) :
    0 ≤ mapGatedToOriginalSamples mapping position total ∧
      mapGatedToOriginalSamples mapping position total ≤ total := by
  by_cases negative : position < 0
  · rw [translate_negative mapping total negative]
    exact ⟨Int.le_refl 0,sized⟩
  · have reached : 0 ≤ position := Int.not_lt.mp negative
    rw [mapGatedToOriginalSamples_eq mapping reached sized]
    exact mapAfter_bounds ordered sized reached

theorem translate_mono (ordered : Ordered 0 0 total mapping) (sized : 0 ≤ total)
    (order : position ≤ later) :
    mapGatedToOriginalSamples mapping position total ≤ mapGatedToOriginalSamples mapping later total := by
  by_cases negative : position < 0
  · rw [translate_negative mapping total negative]
    exact (translate_bounds ordered sized later).1
  · have reached : 0 ≤ position := Int.not_lt.mp negative
    rw [mapGatedToOriginalSamples_eq mapping reached sized,
      mapGatedToOriginalSamples_eq mapping (Int.le_trans reached order) sized]
    exact mapAfter_mono ordered sized reached order

theorem translate_splits (ordered : Ordered 0 0 total mapping) (sized : 0 ≤ total) (present : seg ∈ mapping)
    (k : Nat) (inside : k < seg.gatedEnd - seg.gatedStart) (position : Int) :
    seg.originalStart + k < mapGatedToOriginalSamples mapping position total ↔
      seg.gatedStart + k < position := by
  by_cases negative : position < 0
  · have found := ordered.mem present
    rw [translate_negative mapping total negative]
    omega
  · have reached : 0 ≤ position := Int.not_lt.mp negative
    have separates := mapAfter_separates ordered sized reached present
      (by omega : seg.gatedStart ≤ seg.gatedStart + k) (by omega)
    rw [mapGatedToOriginalSamples_eq mapping reached sized]
    omega

end Translation

-- The erase of the engine's commit, with the audio that came in meanwhile behind
-- the snapshot, and the times of the HTTP answer. A gated time is in
-- centiseconds, of 160 samples each.
theorem translation_splits_speech (gate : VadGate) (original : List Sample) (outcome : VadOutcome)
    (size : original.length < 2^64) :
    let gated := (gate.gate original outcome).1
    let translate := fun position => mapGatedToOriginalSamples gated.mapping position original.length
    (∀ position, 0 ≤ translate position ∧ translate position ≤ original.length) ∧
    (∀ position later, position ≤ later → translate position ≤ translate later) ∧
    (∀ seg ∈ gated.mapping, ∀ k : Nat, k < seg.gatedEnd - seg.gatedStart → ∀ position,
      (seg.originalStart + k < translate position ↔ seg.gatedStart + k < position)) ∧
    (∀ t newer, ∃ erased : Nat, erased = gated.toOriginalSamples t ∧
      (Erase.front (StreamingWhisperEngine.samplesToErase (some gated) t)).apply (original ++ newer) =
        (original ++ newer).drop erased ∧
      ∀ seg ∈ gated.mapping, ∀ k : Nat, k < seg.gatedEnd - seg.gatedStart →
        (seg.originalStart + k < erased ↔ seg.gatedStart + k < t * 160)) ∧
    ∀ segment text, segment.t0 ≤ segment.t1 →
      (HandleTranscribe.timed (some gated) segment text).start ≤
        (HandleTranscribe.timed (some gated) segment text).stop := by
  intro gated translate
  obtain ⟨ordered,total⟩ := gate.gate_ordered original outcome
  have sized : (0 : Int) ≤ original.length := Int.natCast_nonneg _
  have translated (t : Int) : gated.toOriginalSamples t = translate (t * 160) := by
    simp only [toOriginalSamples,total,gated,translate]
  refine ⟨translate_bounds ordered sized,fun _ _ => translate_mono ordered sized,?_,?_,?_⟩
  · intro seg present k inside position
    exact translate_splits ordered sized present k inside position
  · intro t newer
    have bounds := translate_bounds ordered sized (t * 160)
    have whole : (StreamingWhisperEngine.samplesToErase (some gated) t : Int) = translate (t * 160) := by
      simp only [StreamingWhisperEngine.samplesToErase,StreamingWhisperEngine.sizeT,translated]
      simp only [gated,translate]
      omega
    refine ⟨StreamingWhisperEngine.samplesToErase (some gated) t,whole.trans (translated t).symm,
      ConcurrentAudio.apply_front _ _,?_⟩
    intro seg present k inside
    rw [whole]
    exact translate_splits ordered sized present k inside (t * 160)
  · intro segment text order
    have samples : gated.toOriginalSamples segment.t0 ≤ gated.toOriginalSamples segment.t1 := by
      rw [translated,translated]
      exact translate_mono ordered sized (by omega)
    simp only [HandleTranscribe.timed]
    have seconds : (gated.toOriginalSamples segment.t0 : Rat) ≤ gated.toOriginalSamples segment.t1 :=
      Rat.intCast_le_intCast.mpr samples
    exact div_le_div_of_nonneg_right seconds (by decide)

theorem translation_splits_speech_gap : ∃ after result,
    (VadGate.create 400).gate threeSeconds twoDetected = (after,.ok result) ∧
    after.toOriginalSamples 135 = 22400 ∧
    ∀ seg ∈ after.mapping, ∀ k : Nat, k < seg.gatedEnd - seg.gatedStart →
      (seg.originalStart + k < mapGatedToOriginalSamples after.mapping 21600 threeSeconds.length ↔
        seg.gatedStart + k < 21600) := by
  obtain ⟨after,result,ran,entries,total⟩ := gate_threeSeconds
  have small : threeSeconds.length < 2^64 := by rw [length_threeSeconds]; decide
  obtain ⟨_,_,splits,_⟩ := translation_splits_speech (VadGate.create 400) threeSeconds twoDetected small
  rw [ran] at splits
  refine ⟨after,result,ran,?_,fun seg present k inside => splits seg present k inside 21600⟩
  rw [toOriginalSamples,entries,total]
  decide

end JotaTranscriber.GatedTimeline

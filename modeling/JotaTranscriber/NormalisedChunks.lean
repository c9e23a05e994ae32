import JotaTranscriber.AudioPreprocessor
import Mathlib.Algebra.Order.Field.Rat
import Mathlib.Algebra.Order.Field.Basic
import Mathlib.Algebra.Order.Ring.Abs
import Mathlib.Data.List.Forall2
import Mathlib.Tactic.NormNum

-- One call of process() for each chunk, with the state of the filter carried on.
namespace JotaTranscriber.AudioPreprocessor

def processAll : List (List Sample) → Sample → Sample → List (List Sample) × Sample × Sample
  | [],prevRaw,prevFiltered => ([],prevRaw,prevFiltered)
  | pcm :: rest,prevRaw,prevFiltered =>
    let (out,lastRaw,lastFiltered) := process pcm prevRaw prevFiltered
    let (outs,state) := processAll rest lastRaw lastFiltered
    (out :: outs,state)

def chunkGain (peak : Sample) : Sample := if 2/100 < peak ∧ peak < 9/10 then gainOf peak else 1

structure Normalised (filtered out : List Sample) : Prop where
  peak : ∀ sample ∈ filtered, |sample| ≤ peakOf filtered
  attained : filtered ≠ [] → ∃ sample ∈ filtered, |sample| = peakOf filtered
  scaled : out = filtered.map (· * chunkGain (peakOf filtered))
  gain : 1 ≤ chunkGain (peakOf filtered) ∧ chunkGain (peakOf filtered) ≤ 4
  quiet : peakOf filtered ≤ 2/100 → chunkGain (peakOf filtered) = 1
  loud : 9/10 ≤ peakOf filtered → chunkGain (peakOf filtered) = 1
  bounded : 2/100 < peakOf filtered → peakOf filtered < 9/10 → ∀ sample ∈ out, |sample| ≤ 9/10

section Peak
variable {filtered : List Sample} {sample : Sample}

theorem le_foldl_peak (filtered : List Sample) (peak : Sample) :
    peak ≤ filtered.foldl (fun peak sample => max peak |sample|) peak ∧
      ∀ sample ∈ filtered, |sample| ≤ filtered.foldl (fun peak sample => max peak |sample|) peak := by
  induction filtered generalizing peak with
  | nil => exact ⟨le_refl _,List.forall_mem_nil _⟩
  | cons first rest ih =>
    obtain ⟨above,others⟩ := ih (max peak |first|)
    refine ⟨(le_max_left _ _).trans above,?_⟩
    intro sample inside
    rcases List.mem_cons.mp inside with rfl | later
    · exact (le_max_right _ _).trans above
    · exact others sample later

theorem le_peakOf (inside : sample ∈ filtered) : |sample| ≤ peakOf filtered :=
  (le_foldl_peak filtered 0).2 sample inside

theorem foldl_peak_attained (filtered : List Sample) (peak : Sample) :
    filtered.foldl (fun peak sample => max peak |sample|) peak = peak ∨
      ∃ sample ∈ filtered, |sample| = filtered.foldl (fun peak sample => max peak |sample|) peak := by
  induction filtered generalizing peak with
  | nil => exact .inl rfl
  | cons first rest ih =>
    rw [List.foldl_cons]
    rcases ih (max peak |first|) with same | ⟨sample,inside,reached⟩
    · rcases max_choice peak |first| with old | new
      · exact .inl (same.trans old)
      · exact .inr ⟨first,List.mem_cons_self,(same.trans new).symm⟩
    · exact .inr ⟨sample,List.mem_cons_of_mem _ inside,reached⟩

theorem peakOf_attained (some : filtered ≠ []) : ∃ sample ∈ filtered, |sample| = peakOf filtered := by
  rcases foldl_peak_attained filtered 0 with none | reached
  · obtain ⟨sample,inside⟩ := List.exists_mem_of_ne_nil filtered some
    have zero : peakOf filtered = 0 := none
    have below := le_peakOf inside
    rw [zero] at below ⊢
    exact ⟨sample,inside,le_antisymm below (abs_nonneg sample)⟩
  · exact reached

theorem chunkGain_quiet {peak : Sample} (quiet : peak ≤ 2/100) : chunkGain peak = 1 :=
  if_neg fun both => absurd both.1 (not_lt.mpr quiet)

theorem chunkGain_loud {peak : Sample} (loud : 9/10 ≤ peak) : chunkGain peak = 1 :=
  if_neg fun both => absurd both.2 (not_lt.mpr loud)

theorem chunkGain_bounds (peak : Sample) : 1 ≤ chunkGain peak ∧ chunkGain peak ≤ 4 := by
  unfold chunkGain
  split
  · rename_i both
    have positive : 0 < peak := lt_trans (by norm_num) both.1
    refine ⟨le_min ?_ (by norm_num),min_le_right _ _⟩
    rw [le_div_iff₀ positive,one_mul]
    exact both.2.le
  · exact ⟨le_refl _,by norm_num⟩

theorem chunkGain_scales {peak : Sample} (above : 2/100 < peak) (below : peak < 9/10) :
    chunkGain peak * peak ≤ 9/10 := by
  have positive : 0 < peak := lt_trans (by norm_num) above
  rw [chunkGain,if_pos ⟨above,below⟩]
  calc gainOf peak * peak ≤ 9/10 / peak * peak :=
        mul_le_mul_of_nonneg_right (min_le_left _ _) positive.le
    _ = 9/10 := div_mul_cancel₀ _ positive.ne'

end Peak

section Chunks

theorem normalised (filtered : List Sample) :
    Normalised filtered (filtered.map (· * chunkGain (peakOf filtered))) := by
  refine ⟨fun _ => le_peakOf,peakOf_attained,rfl,chunkGain_bounds _,chunkGain_quiet,chunkGain_loud,?_⟩
  intro above below sample inside
  obtain ⟨value,member,rfl⟩ := List.mem_map.mp inside
  have positive : 0 ≤ chunkGain (peakOf filtered) := zero_le_one.trans (chunkGain_bounds _).1
  calc |value * chunkGain (peakOf filtered)| = chunkGain (peakOf filtered) * |value| := by
        rw [abs_mul,abs_of_nonneg positive,mul_comm]
    _ ≤ chunkGain (peakOf filtered) * peakOf filtered :=
        mul_le_mul_of_nonneg_left (le_peakOf member) positive
    _ ≤ 9/10 := chunkGain_scales above below

-- The state is taken from the filter and not from the rescaled samples.
theorem process_eq (pcm : List Sample) (prevRaw prevFiltered : Sample) :
    process pcm prevRaw prevFiltered =
      ((highPass pcm prevRaw prevFiltered).1.map
          (· * chunkGain (peakOf (highPass pcm prevRaw prevFiltered).1)),
        (highPass pcm prevRaw prevFiltered).2) := by
  unfold process chunkGain
  dsimp only
  split
  · rfl
  · simp

theorem highPass_append (first rest : List Sample) (prevRaw prevFiltered : Sample) :
    highPass (first ++ rest) prevRaw prevFiltered =
      let ran := highPass first prevRaw prevFiltered
      let later := highPass rest ran.2.1 ran.2.2
      (ran.1 ++ later.1,later.2) := by
  induction first generalizing prevRaw prevFiltered with
  | nil => rfl
  | cons raw others ih => simp [highPass,ih]

theorem processAll_filtered (chunks : List (List Sample)) (prevRaw prevFiltered : Sample) :
    (processAll chunks prevRaw prevFiltered).2 = (highPass chunks.flatten prevRaw prevFiltered).2 ∧
      ∃ pieces, pieces.flatten = (highPass chunks.flatten prevRaw prevFiltered).1 ∧
        pieces.map List.length = chunks.map List.length ∧
        List.Forall₂ Normalised pieces (processAll chunks prevRaw prevFiltered).1 := by
  induction chunks generalizing prevRaw prevFiltered with
  | nil => exact ⟨rfl,[],rfl,rfl,.nil⟩
  | cons pcm rest ih =>
    obtain ⟨state,pieces,joined,lengths,outs⟩ :=
      ih (highPass pcm prevRaw prevFiltered).2.1 (highPass pcm prevRaw prevFiltered).2.2
    simp only [processAll,process_eq,List.flatten_cons,highPass_append]
    refine ⟨state,(highPass pcm prevRaw prevFiltered).1 :: pieces,?_,?_,.cons (normalised _) outs⟩
    · rw [List.flatten_cons,joined]
    · rw [List.map_cons,List.map_cons,length_highPass,lengths]

end Chunks

-- However a stream is cut into chunks, only the gain of each chunk is its own:
-- the pieces are what the filter makes of the uncut stream, cut in the same places.
theorem chunking_only_scales (chunks : List (List Sample)) (prevRaw prevFiltered : Sample) :
    (processAll chunks prevRaw prevFiltered).2 = (process chunks.flatten prevRaw prevFiltered).2 ∧
      ∃ pieces, pieces.flatten = (highPass chunks.flatten prevRaw prevFiltered).1 ∧
        pieces.map List.length = chunks.map List.length ∧
        List.Forall₂ Normalised pieces (processAll chunks prevRaw prevFiltered).1 := by
  obtain ⟨state,outs⟩ := processAll_filtered chunks prevRaw prevFiltered
  refine ⟨?_,outs⟩
  rw [state,process_eq]

end JotaTranscriber.AudioPreprocessor

import Mathlib.Data.Rat.Defs
import Mathlib.Algebra.Order.Ring.Unbundled.Rat
import Mathlib.Algebra.Order.Group.Unbundled.Abs

namespace JotaTranscriber

-- Samples are exact rationals: the filter's rounding is not modelled.
abbrev Sample := Rat

namespace AudioPreprocessor

def alpha : Sample := 969/1000

-- One pass of the filter loop, with prev_raw and prev_filtered carried on.
def highPass : List Sample → Sample → Sample → List Sample × Sample × Sample
  | [],prevRaw,prevFiltered => ([],prevRaw,prevFiltered)
  | raw :: rest,prevRaw,prevFiltered =>
    let filtered := alpha * (prevFiltered + raw - prevRaw)
    let (out,lastRaw,lastFiltered) := highPass rest raw filtered
    (filtered :: out,lastRaw,lastFiltered)

def peakOf (filtered : List Sample) : Sample :=
  filtered.foldl (fun peak sample => max peak |sample|) 0

def gainOf (peak : Sample) : Sample := min (9/10 / peak) 4

def process (pcm : List Sample) (prevRaw prevFiltered : Sample) :
    List Sample × Sample × Sample :=
  let (filtered,lastRaw,lastFiltered) := highPass pcm prevRaw prevFiltered
  let peak := peakOf filtered
  if 2/100 < peak ∧ peak < 9/10 then
    (filtered.map (· * gainOf peak),lastRaw,lastFiltered)
  else (filtered,lastRaw,lastFiltered)

@[simp] theorem length_highPass (pcm : List Sample) (prevRaw prevFiltered : Sample) :
    (highPass pcm prevRaw prevFiltered).1.length = pcm.length := by
  induction pcm generalizing prevRaw prevFiltered with
  | nil => rfl
  | cons raw rest ih => simp [highPass,ih]

@[simp] theorem length_process (pcm : List Sample) (prevRaw prevFiltered : Sample) :
    (process pcm prevRaw prevFiltered).1.length = pcm.length := by
  unfold process
  dsimp only
  split <;> simp

end AudioPreprocessor
end JotaTranscriber

import Mathlib.Data.List.AList
import Mathlib.Algebra.GroupWithZero.Nat

-- A finite map from keys to counts, with a missing key read as zero.
abbrev Tally (Key : Type) := AList (fun _ : Key => Nat)

namespace Tally
variable {Key : Type} [DecidableEq Key] {key other : Key} {n : Nat}

def count (tally : Tally Key) (key : Key) : Nat := (tally.lookup key).getD 0

def total (tally : Tally Key) : Nat := (tally.entries.map Sigma.snd).sum

def set (tally : Tally Key) (key : Key) (n : Nat) : Tally Key := tally.insert key n

def remove (tally : Tally Key) (key : Key) : Tally Key := tally.erase key

@[simp] theorem count_set (tally : Tally Key) : (tally.set key n).count key = n := by
  simp [count,set]

@[simp] theorem count_set_ne (tally : Tally Key) (different : other ≠ key) :
    (tally.set key n).count other = tally.count other := by
  simp [count,set,AList.lookup_insert_ne different]

@[simp] theorem count_remove (tally : Tally Key) : (tally.remove key).count key = 0 := by
  simp [count,remove]

@[simp] theorem count_remove_ne (tally : Tally Key) (different : other ≠ key) :
    (tally.remove key).count other = tally.count other := by
  simp [count,remove,AList.lookup_erase_ne different]

theorem sum_kerase (entries : List (Sigma fun _ : Key => Nat)) (key : Key) :
    ((entries.kerase key).map Sigma.snd).sum + (entries.dlookup key).getD 0 =
      (entries.map Sigma.snd).sum := by
  induction entries with
  | nil => rfl
  | cons entry rest ih =>
    simp only [List.map_cons,List.sum_cons]
    by_cases same : key = entry.1
    · have found : List.dlookup key (entry :: rest) = some entry.2 := by
        cases entry with
        | mk first value => cases same; exact List.dlookup_cons_eq rest _ value
      rw [List.kerase_cons_eq same,found,Option.getD_some]
      omega
    · rw [List.kerase_cons_ne same,List.dlookup_cons_ne rest entry same]
      simp only [List.map_cons,List.sum_cons]
      omega

theorem total_remove (tally : Tally Key) (key : Key) :
    (tally.remove key).total + tally.count key = tally.total :=
  sum_kerase tally.entries key

theorem total_set (tally : Tally Key) (key : Key) (n : Nat) :
    (tally.set key n).total + tally.count key = tally.total + n := by
  have split := total_remove tally key
  have grown : (tally.set key n).total = n + (tally.remove key).total := by
    rw [total,set,AList.entries_insert,List.map_cons,List.sum_cons]
    rfl
  omega

end Tally

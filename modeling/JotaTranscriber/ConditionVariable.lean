import Mathlib.Data.List.Perm.Basic
import Mathlib.Data.List.Nodup

-- Threads at a condition variable that guards a number of free places. A thread
-- that was woken has still to get the mutex and to look for itself.
namespace Condition

structure Waiters (Thread : Type) where
  sleeping : List Thread
  woken : List Thread

namespace Waiters
variable {Thread : Type}

def nobody : Waiters Thread := ⟨[],[]⟩

def waiting (w : Waiters Thread) : List Thread := w.sleeping ++ w.woken

def sleep (w : Waiters Thread) (thread : Thread) : Waiters Thread :=
  { w with sleeping := thread :: w.sleeping }

def wakeAll (w : Waiters Thread) : Waiters Thread := ⟨[],w.sleeping ++ w.woken⟩

-- While somebody sleeps there are at least as many threads on their way as
-- there are free places.
def Covered (free : Int) (w : Waiters Thread) : Prop := w.sleeping ≠ [] → free ≤ w.woken.length

section Places
variable {w : Waiters Thread} {free fewer : Int}

theorem covered_full (full : free ≤ 0) (w : Waiters Thread) : Covered free w :=
  fun _ => Int.le_trans full (Int.natCast_nonneg _)

theorem Covered.mono (covered : Covered free w) (less : fewer ≤ free) : Covered fewer w :=
  fun asleep => Int.le_trans less (covered asleep)

theorem covered_wakeAll (free : Int) (w : Waiters Thread) : Covered free w.wakeAll :=
  fun asleep => absurd rfl asleep

-- So no place is left free with everybody asleep.
theorem Covered.awake (covered : Covered free w) (some_free : 0 < free) (waits : w.waiting ≠ []) :
    w.woken ≠ [] := by
  intro nobody_awake
  have asleep : w.sleeping ≠ [] := by
    intro empty
    simp [waiting,empty,nobody_awake] at waits
  have enough := covered asleep
  rw [nobody_awake] at enough
  simp only [List.length_nil] at enough
  omega

end Places

variable [DecidableEq Thread]

def wake (w : Waiters Thread) (thread : Thread) : Waiters Thread :=
  ⟨w.sleeping.erase thread,thread :: w.woken⟩

def look (w : Waiters Thread) (thread : Thread) : Waiters Thread :=
  { w with woken := w.woken.erase thread }

def abandon (w : Waiters Thread) (thread : Thread) : Waiters Thread :=
  { w with sleeping := w.sleeping.erase thread }

-- notify_one wakes some sleeping thread, if there is one.
inductive NotifyOne (w : Waiters Thread) : Waiters Thread → Prop where
  | nobody (asleep : w.sleeping = []) : NotifyOne w w
  | some (asleep : thread ∈ w.sleeping) : NotifyOne w (w.wake thread)

variable {w next : Waiters Thread} {thread : Thread} {free : Int}

theorem Covered.wake (covered : Covered free w) (asleep : thread ∈ w.sleeping) :
    Covered (free + 1) (w.wake thread) := by
  intro _
  have before := covered (List.ne_nil_of_mem asleep)
  simp only [Waiters.wake,List.length_cons]
  omega

theorem Covered.notifyOne (covered : Covered free w) (told : NotifyOne w next) :
    Covered (free + 1) next := by
  cases told with
  | nobody asleep => exact fun some_asleep => absurd asleep some_asleep
  | some asleep => exact covered.wake asleep

theorem Covered.look (covered : Covered free w) (awake : thread ∈ w.woken) :
    Covered (free - 1) (w.look thread) := by
  intro asleep
  have before := covered asleep
  have length := List.length_erase_of_mem awake
  have some_awake := List.length_pos_of_mem awake
  simp only [Waiters.look]
  omega

theorem Covered.abandon (covered : Covered free w) (thread : Thread) :
    Covered free (w.abandon thread) := by
  intro asleep
  refine covered ?_
  intro empty
  simp [Waiters.abandon,empty] at asleep

theorem wake_waiting (asleep : thread ∈ w.sleeping) : (w.wake thread).waiting.Perm w.waiting := by
  have taken := List.perm_cons_erase asleep
  exact List.perm_middle.trans (taken.symm.append_right w.woken)

theorem notifyOne_waiting (told : NotifyOne w next) : next.waiting.Perm w.waiting := by
  cases told with
  | nobody => exact .refl _
  | some asleep => exact wake_waiting asleep

theorem look_waiting (awake : thread ∈ w.woken) : w.waiting.Perm (thread :: (w.look thread).waiting) := by
  have taken := (List.perm_cons_erase awake).append_left w.sleeping
  exact taken.trans List.perm_middle

theorem abandon_waiting (asleep : thread ∈ w.sleeping) :
    w.waiting.Perm (thread :: (w.abandon thread).waiting) :=
  (List.perm_cons_erase asleep).append_right w.woken

end Waiters
end Condition

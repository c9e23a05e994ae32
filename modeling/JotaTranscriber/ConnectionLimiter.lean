import JotaTranscriber.Basic
import JotaTranscriber.Tally

namespace JotaTranscriber

-- total_ stays below max_total_, itself a size_t, so that no count wraps.
structure ConnectionLimiter where
  perIp : Tally Text
  maxTotal : Nat
  maxPerIp : Nat
  total : Nat

namespace ConnectionLimiter

def create (maxTotal maxPerIp : Nat) : ConnectionLimiter := ⟨∅,maxTotal,maxPerIp,0⟩

-- operator[] leaves an entry behind even when the connection is refused.
def tryAcquire (limiter : ConnectionLimiter) (ip : Text) (trusted : Bool) : ConnectionLimiter × Bool :=
  if limiter.total ≥ limiter.maxTotal then (limiter,false)
  else
    let count := limiter.perIp.count ip
    let indexed := { limiter with perIp := limiter.perIp.set ip count }
    if !trusted && decide (count ≥ limiter.maxPerIp) then (indexed,false)
    else ({ indexed with perIp := indexed.perIp.set ip (count+1), total := limiter.total + 1 },true)

-- The subtraction of total_ is the saturating one of the source's test.
def release (limiter : ConnectionLimiter) (ip : Text) : ConnectionLimiter :=
  { limiter with
    perIp := match limiter.perIp.lookup ip with
      | none => limiter.perIp
      | some count =>
        if count > 0 then
          if count - 1 = 0 then limiter.perIp.remove ip else limiter.perIp.set ip (count-1)
        else limiter.perIp
    total := limiter.total - 1 }

-- The counts as the addresses of the connections they stand for.
structure Counts (limiter : ConnectionLimiter) (live : List Text) : Prop where
  total : limiter.total = live.length
  each : ∀ ip, limiter.perIp.count ip = live.count ip
  sum : limiter.perIp.total = live.length
  bounded : limiter.total ≤ limiter.maxTotal

theorem create_counts (maxTotal maxPerIp : Nat) : Counts (create maxTotal maxPerIp) [] :=
  ⟨rfl,fun _ => rfl,rfl,Nat.zero_le _⟩

-- A refused connection changes no count; an admitted one is counted once, and
-- an untrusted one is admitted below the cap of its address only.
theorem tryAcquire_cases (ran : tryAcquire limiter ip trusted = (after,admitted)) :
    after.maxTotal = limiter.maxTotal ∧ after.maxPerIp = limiter.maxPerIp ∧
    (admitted = false ∧ after.total = limiter.total ∧ after.perIp.total = limiter.perIp.total ∧
        (∀ other, after.perIp.count other = limiter.perIp.count other) ∨
      admitted = true ∧ limiter.total < limiter.maxTotal ∧
        (trusted = false → limiter.perIp.count ip < limiter.maxPerIp) ∧
        after.total = limiter.total + 1 ∧ after.perIp.total = limiter.perIp.total + 1 ∧
        ∀ other, after.perIp.count other = limiter.perIp.count other + if other = ip then 1 else 0) := by
  have kept := limiter.perIp.total_set ip (limiter.perIp.count ip)
  unfold tryAcquire at ran
  dsimp only at ran
  split at ran
  · cases ran
    exact ⟨rfl,rfl,.inl ⟨rfl,rfl,rfl,fun _ => rfl⟩⟩
  · rename_i room
    split at ran
    · cases ran
      refine ⟨rfl,rfl,.inl ⟨rfl,rfl,Nat.add_right_cancel kept,?_⟩⟩
      intro other
      by_cases same : other = ip
      · subst same; exact Tally.count_set _
      · exact Tally.count_set_ne _ same
    · rename_i below
      cases ran
      refine ⟨rfl,rfl,.inr ⟨rfl,by omega,?_,rfl,?_,?_⟩⟩
      · intro untrusted
        simpa [untrusted] using below
      · have grown := (limiter.perIp.set ip (limiter.perIp.count ip)).total_set ip
          (limiter.perIp.count ip + 1)
        rw [Tally.count_set] at grown
        change ((limiter.perIp.set ip _).set ip _).total = _
        omega
      · intro other
        by_cases same : other = ip
        · subst same
          simp
        · simp [same]

theorem tryAcquire_counts (counts : Counts limiter live)
    (ran : tryAcquire limiter ip trusted = (after,admitted)) :
    Counts after (if admitted then ip :: live else live) := by
  obtain ⟨cap,_,⟨rfl,total,sum,each⟩ | ⟨rfl,room,_,total,sum,each⟩⟩ := tryAcquire_cases ran
  · refine ⟨total.trans counts.total,?_,sum.trans counts.sum,by rw [total,cap]; exact counts.bounded⟩
    intro other
    exact (each other).trans (counts.each other)
  · refine ⟨by rw [total,counts.total]; rfl,?_,by rw [sum,counts.sum]; rfl,by omega⟩
    intro other
    rw [each,counts.each,if_pos rfl,List.count_cons]
    by_cases same : other = ip
    · simp [same]
    · simp [same,Ne.symm same]

-- With the connection among those counted neither test of release() fails.
theorem release_counts (counts : Counts limiter live) (present : ip ∈ live) :
    Counts (limiter.release ip) (live.erase ip) := by
  have length := List.length_erase_of_mem present
  have positive : 0 < live.length := List.length_pos_of_mem present
  have counted : 0 < limiter.perIp.count ip := by
    rw [counts.each]
    exact List.count_pos_iff.mpr present
  obtain ⟨count,found⟩ : ∃ count, limiter.perIp.lookup ip = some count := by
    cases lookup : limiter.perIp.lookup ip with
    | none => simp [Tally.count,lookup] at counted
    | some count => exact ⟨count,rfl⟩
  have value : limiter.perIp.count ip = count := by simp [Tally.count,found]
  have own : count = live.count ip := by rw [← value,counts.each]
  have sum := counts.sum
  refine ⟨?_,?_,?_,?_⟩
  · show limiter.total - 1 = _
    rw [length,counts.total]
  · intro other
    have kept := counts.each other
    simp only [release,found]
    rw [if_pos (by omega)]
    by_cases same : other = ip
    · subst same
      rw [List.count_erase_self]
      split
      · rw [Tally.count_remove]; omega
      · rw [Tally.count_set]; omega
    · rw [List.count_erase_of_ne same]
      split
      · rwa [Tally.count_remove_ne _ same]
      · rwa [Tally.count_set_ne _ same]
  · simp only [release,found]
    rw [if_pos (by omega),length]
    split
    · have erased := limiter.perIp.total_remove ip
      omega
    · have lowered := limiter.perIp.total_set ip (count-1)
      omega
  · show limiter.total - 1 ≤ limiter.maxTotal
    have bounded := counts.bounded
    omega

end ConnectionLimiter
end JotaTranscriber

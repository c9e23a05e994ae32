import JotaTranscriber.Machine
import JotaTranscriber.StreamingSession
import Mathlib.Data.List.AList

namespace JotaTranscriber

structure InferenceLimiter where
  activeCount : Int
  maxConcurrent : CInt

-- How a guard is constructed. wait_for returns false only once the timeout has
-- elapsed and the predicate still does not hold.
inductive GuardKind where
  | guard
  | tryGuard
  | timedTryGuard (elapsed : Bool)
  deriving DecidableEq, Repr

namespace InferenceLimiter

def create : InferenceLimiter := ⟨0,⟨4,by decide⟩⟩

def hasCapacity (limiter : InferenceLimiter) : Bool :=
  decide (limiter.activeCount < limiter.maxConcurrent.val)

def setMaxConcurrency (limiter : InferenceLimiter) (maxConcurrent : CInt) : InferenceLimiter :=
  if maxConcurrent.val > 0 then { limiter with maxConcurrent } else limiter

def claim (limiter : InferenceLimiter) : InferenceLimiter :=
  { limiter with activeCount := limiter.activeCount + 1 }

-- none: the caller is still blocked on cv_.
def acquire (limiter : InferenceLimiter) : Option InferenceLimiter :=
  if limiter.hasCapacity then some limiter.claim else none

def tryAcquire (limiter : InferenceLimiter) : InferenceLimiter × Bool :=
  if limiter.hasCapacity then (limiter.claim,true) else (limiter,false)

def tryAcquireFor (limiter : InferenceLimiter) (elapsed : Bool) : Option (InferenceLimiter × Bool) :=
  if limiter.hasCapacity then some (limiter.claim,true)
  else if elapsed then some (limiter,false)
  else none

def release (limiter : InferenceLimiter) : InferenceLimiter :=
  if limiter.activeCount > 0 then { limiter with activeCount := limiter.activeCount - 1 } else limiter

-- The constructors with their acquired_, and the destructors.
def construct (limiter : InferenceLimiter) : GuardKind → Option (InferenceLimiter × Bool)
  | .guard => limiter.acquire.map fun claimed => (claimed,true)
  | .tryGuard => some limiter.tryAcquire
  | .timedTryGuard elapsed => limiter.tryAcquireFor elapsed

def destruct (limiter : InferenceLimiter) (acquired : Bool) : InferenceLimiter :=
  if acquired then limiter.release else limiter

theorem setMaxConcurrency_activeCount (limiter : InferenceLimiter) (maxConcurrent : CInt) :
    (limiter.setMaxConcurrency maxConcurrent).activeCount = limiter.activeCount := by
  unfold setMaxConcurrency
  split <;> rfl

theorem setMaxConcurrency_positive (limiter : InferenceLimiter) (maxConcurrent : CInt)
    (positive : 0 < limiter.maxConcurrent.val) :
    0 < (limiter.setMaxConcurrency maxConcurrent).maxConcurrent.val := by
  unfold setMaxConcurrency
  split
  · assumption
  · exact positive

theorem destruct_maxConcurrent (limiter : InferenceLimiter) (acquired : Bool) :
    (limiter.destruct acquired).maxConcurrent = limiter.maxConcurrent := by
  unfold destruct release
  split
  · split <;> rfl
  · rfl

-- Whatever the kind, a slot is granted below the limit and refused at it.
theorem construct_cases (ran : InferenceLimiter.construct limiter kind = some (after,acquired)) :
    (acquired = true ∧ limiter.activeCount < limiter.maxConcurrent.val ∧ after = limiter.claim) ∨
    acquired = false ∧ limiter.maxConcurrent.val ≤ limiter.activeCount ∧ after = limiter := by
  by_cases free : limiter.activeCount < limiter.maxConcurrent.val
  · have capacity : limiter.hasCapacity = true := by simpa [hasCapacity] using free
    cases kind with
    | guard | tryGuard | timedTryGuard =>
      simp only [construct,acquire,tryAcquire,tryAcquireFor,capacity,if_true,Option.map_some,
        Option.some.injEq,Prod.mk.injEq] at ran
      exact .inl ⟨ran.2.symm,free,ran.1.symm⟩
  · have full : limiter.hasCapacity = false := by simpa [hasCapacity] using free
    refine .inr ?_
    cases kind with
    | guard => simp [construct,acquire,full] at ran
    | tryGuard =>
      simp only [construct,tryAcquire,full,Bool.false_eq_true,if_false,Option.some.injEq,
        Prod.mk.injEq] at ran
      exact ⟨ran.2.symm,Int.not_lt.mp free,ran.1.symm⟩
    | timedTryGuard elapsed =>
      cases elapsed with
      | false => simp [construct,tryAcquireFor,full] at ran
      | true =>
        simp only [construct,tryAcquireFor,full,Bool.false_eq_true,if_false,if_true,
          Option.some.injEq,Prod.mk.injEq] at ran
        exact ⟨ran.2.symm,Int.not_lt.mp free,ran.1.symm⟩

end InferenceLimiter

-- The limiter with all guard objects that are alive, under whatever tells them
-- apart, each with its acquired_.
structure Guards (Owner : Type) where
  limiter : InferenceLimiter
  live : AList fun _ : Owner => Bool

inductive GuardAction (Owner : Type) where
  | construct (owner : Owner) (kind : GuardKind)
  | destroy (owner : Owner)
  | setMaxConcurrency (maxConcurrent : CInt)

namespace Guards
variable {Owner : Type} [DecidableEq Owner]

def initial : Guards Owner := ⟨.create,∅⟩

inductive Step : Guards Owner → GuardAction Owner → Guards Owner → Prop where
  | construct (fresh : owner ∉ g.live) (ran : g.limiter.construct kind = some (after,acquired)) :
      Step g (.construct owner kind) ⟨after,g.live.insert owner acquired⟩
  | destroy (present : g.live.lookup owner = some acquired) :
      Step g (.destroy owner) ⟨g.limiter.destruct acquired,g.live.erase owner⟩
  | setMaxConcurrency :
      Step g (.setMaxConcurrency maxConcurrent)
        { g with limiter := g.limiter.setMaxConcurrency maxConcurrent }

abbrev Runs : Guards Owner → List (Guards Owner × GuardAction Owner) → Guards Owner → Prop :=
  Machine.Runs Step

def granted (g : Guards Owner) : Nat := g.live.entries.countP Sigma.snd

theorem countP_insert (live : AList fun _ : Owner => Bool) (owner : Owner) (acquired : Bool)
    (fresh : owner ∉ live) :
    (live.insert owner acquired).entries.countP Sigma.snd =
      live.entries.countP Sigma.snd + acquired.toNat := by
  rw [AList.entries_insert_of_notMem fresh,List.countP_cons]
  cases acquired <;> rfl

theorem countP_erase (live : AList fun _ : Owner => Bool) (owner : Owner) (acquired : Bool)
    (present : live.lookup owner = some acquired) :
    (live.erase owner).entries.countP Sigma.snd + acquired.toNat = live.entries.countP Sigma.snd := by
  have alive : owner ∈ live.entries.keys := AList.lookup_isSome.mp (by rw [present]; rfl)
  obtain ⟨found,before,after,_,whole,rest⟩ := List.exists_of_kerase alive
  have same : found = acquired := by
    have listed : ⟨owner,found⟩ ∈ live.entries := by rw [whole]; simp
    have read : live.lookup owner = some found := List.mem_dlookup live.nodupKeys listed
    exact Option.some.inj (read.symm.trans present)
  have erased : (live.erase owner).entries = before ++ after := rest
  rw [erased,whole,same,List.countP_append,List.countP_append,List.countP_cons]
  cases acquired with
  | false => simp
  | true =>
    simp only [if_true,Bool.toNat_true]
    omega

-- active_count_ is the number of live guards that acquired a slot.
def Counted (g : Guards Owner) : Prop := g.limiter.activeCount = g.granted

-- What a step does to the count. The test in release() is made when a guard that
-- acquired a slot is destroyed.
def Lawful (g next : Guards Owner) : GuardAction Owner → Prop
  | .construct owner _ => ∃ acquired, next.live = g.live.insert owner acquired ∧
    if acquired then g.limiter.activeCount < g.limiter.maxConcurrent.val ∧
      next.limiter.activeCount = g.limiter.activeCount + 1
    else next.limiter = g.limiter
  | .destroy owner => ∃ acquired, g.live.lookup owner = some acquired ∧
    if acquired then 0 < g.limiter.activeCount ∧
      next.limiter.activeCount = g.limiter.activeCount - 1
    else next.limiter = g.limiter
  | .setMaxConcurrency _ => next.limiter.activeCount = g.limiter.activeCount

theorem construct_counted {g : Guards Owner} (counted : Counted g) (fresh : owner ∉ g.live)
    (ran : g.limiter.construct kind = some (after,acquired)) :
    Counted ⟨after,g.live.insert owner acquired⟩ ∧
      Lawful g ⟨after,g.live.insert owner acquired⟩ (.construct owner kind) := by
  have grown := countP_insert g.live owner acquired fresh
  rcases InferenceLimiter.construct_cases ran with ⟨rfl,below,rfl⟩ | ⟨rfl,_,rfl⟩
  · refine ⟨?_,true,rfl,below,rfl⟩
    simp only [Counted,granted,InferenceLimiter.claim] at counted ⊢
    rw [grown,counted]
    rfl
  · refine ⟨?_,false,rfl,rfl⟩
    simp only [Counted,granted] at counted ⊢
    rw [grown,counted]
    rfl

theorem destroy_counted {g : Guards Owner} (counted : Counted g)
    (present : g.live.lookup owner = some acquired) :
    Counted ⟨g.limiter.destruct acquired,g.live.erase owner⟩ ∧
      Lawful g ⟨g.limiter.destruct acquired,g.live.erase owner⟩ (.destroy owner) := by
  have shrunk := countP_erase g.live owner acquired present
  cases acquired with
  | false =>
    refine ⟨?_,false,present,rfl⟩
    simp only [Counted,granted,InferenceLimiter.destruct,Bool.false_eq_true,if_false,Bool.toNat_false,
      Nat.add_zero] at counted shrunk ⊢
    rw [shrunk,counted]
  | true =>
    simp only [Bool.toNat_true] at shrunk
    have counts : g.limiter.activeCount = g.live.entries.countP Sigma.snd := counted
    have positive : 0 < g.limiter.activeCount := by omega
    have released : (g.limiter.destruct true).activeCount = g.limiter.activeCount - 1 := by
      simp [InferenceLimiter.destruct,InferenceLimiter.release,positive]
    refine ⟨?_,true,present,positive,released⟩
    simp only [Counted,granted]
    rw [released]
    omega

theorem counted_step {g next : Guards Owner} (counted : Counted g) (one : Step g action next) :
    Counted next ∧ Lawful g next action := by
  cases one with
  | construct fresh ran => exact construct_counted counted fresh ran
  | destroy present => exact destroy_counted counted present
  | setMaxConcurrency =>
    have same := g.limiter.setMaxConcurrency_activeCount
    exact ⟨(same _).trans counted,same _⟩

theorem positive_step {g next : Guards Owner} (positive : 0 < g.limiter.maxConcurrent.val)
    (one : Step g action next) : 0 < next.limiter.maxConcurrent.val := by
  cases one with
  | construct fresh ran =>
    rcases InferenceLimiter.construct_cases ran with ⟨_,_,rfl⟩ | ⟨_,_,rfl⟩
    all_goals exact positive
  | destroy present =>
    dsimp only
    rw [InferenceLimiter.destruct_maxConcurrent]
    exact positive
  | setMaxConcurrency => exact InferenceLimiter.setMaxConcurrency_positive _ _ positive

theorem bounded_step {g next : Guards Owner} (lawful : Lawful g next action)
    (below : g.limiter.activeCount ≤ g.limiter.maxConcurrent.val) :
    next.limiter.activeCount ≤ g.limiter.maxConcurrent.val := by
  cases action with
  | construct owner kind =>
    obtain ⟨acquired,_,effect⟩ := lawful
    cases acquired with
    | false =>
      rw [show next.limiter = g.limiter from effect]
      exact below
    | true =>
      obtain ⟨free,grown⟩ := effect
      omega
  | destroy owner =>
    obtain ⟨acquired,_,effect⟩ := lawful
    cases acquired with
    | false =>
      rw [show next.limiter = g.limiter from effect]
      exact below
    | true =>
      obtain ⟨_,shrunk⟩ := effect
      omega
  | setMaxConcurrency maxConcurrent =>
    rw [show next.limiter.activeCount = g.limiter.activeCount from lawful]
    exact below

theorem runs_counted {g : Guards Owner} (path : Runs initial trace g) : Counted g :=
  path.invariant rfl (fun valid one => (counted_step valid one).1)

end Guards
end JotaTranscriber

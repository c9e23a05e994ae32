import JotaTranscriber.ConnectionLimiter
import JotaTranscriber.Machine
import Mathlib.Data.List.Perm.Subperm

-- The limiter among the calls of its clients, in any order.
namespace JotaTranscriber.LimiterEntries

inductive Call where
  | tryAcquire (ip : Text) (trusted : Bool)
  | release (ip : Text)
  deriving DecidableEq, Repr

-- `live` are the addresses of the connections let in and not released yet.
structure State where
  limiter : ConnectionLimiter
  live : List Text

def initial (maxTotal maxPerIp : Nat) : State := ⟨.create maxTotal maxPerIp,[]⟩

def advance (s : State) : Call → State
  | .tryAcquire ip trusted =>
    let (limiter,admitted) := s.limiter.tryAcquire ip trusted
    ⟨limiter,if admitted then ip :: s.live else s.live⟩
  | .release ip => ⟨s.limiter.release ip,s.live.erase ip⟩

def Step (s : State) (call : Call) (next : State) : Prop := next = advance s call

abbrev Runs := Machine.Runs Step

structure Same (before after : ConnectionLimiter) : Prop where
  maxTotal : after.maxTotal = before.maxTotal
  maxPerIp : after.maxPerIp = before.maxPerIp
  total : after.total = before.total
  perIp : ∀ ip, after.perIp.lookup ip = before.perIp.lookup ip

def refuses (s : State) : Call → Bool
  | .tryAcquire ip trusted => !(s.limiter.tryAcquire ip trusted).2
  | .release _ => false

def Untouched (s : State) (call : Call) : Prop :=
  refuses s call = true → Same s.limiter (advance s call).limiter

structure Clean (s : State) : Prop where
  alive : ∀ ip, (s.limiter.perIp.lookup ip).isSome → ip ∈ s.live
  size : s.limiter.perIp.entries.length ≤ s.live.length

-- The first look at an address is not the one that turns it away: operator[]
-- would leave an entry that no release removes.
def Known (s : State) : Call → Prop
  | .tryAcquire ip trusted =>
    0 < s.limiter.maxPerIp ∨ s.limiter.maxTotal ≤ s.limiter.total ∨ trusted = true ∨ ip ∈ s.live
  | .release _ => True

def Law (trace : List (State × Call)) (after : State) : Prop :=
  (∀ entry ∈ trace, Untouched entry.1 entry.2 ∧ Clean entry.1) ∧ Clean after

-- Exactly the live addresses have an entry, and it is their count.
def Exact (s : State) : Prop :=
  ∀ ip, s.limiter.perIp.lookup ip = if s.live.count ip = 0 then none else some (s.live.count ip)

variable {s next after : State} {call : Call} {trace : List (State × Call)} {maxTotal maxPerIp : Nat}

theorem initial_exact (maxTotal maxPerIp : Nat) : Exact (initial maxTotal maxPerIp) := fun _ => rfl

theorem Exact.count (exact : Exact s) (ip : Text) : s.limiter.perIp.count ip = s.live.count ip := by
  rw [Tally.count,exact ip]
  split
  · rename_i none
    rw [none]
    rfl
  · rfl

theorem Exact.clean (exact : Exact s) : Clean s := by
  have alive : ∀ ip, (s.limiter.perIp.lookup ip).isSome → ip ∈ s.live := by
    intro ip present
    rw [exact ip] at present
    split at present
    · cases present
    · rename_i some
      exact List.count_pos_iff.mp (Nat.pos_of_ne_zero some)
  refine ⟨alive,?_⟩
  have inside : s.limiter.perIp.keys ⊆ s.live := by
    intro ip member
    exact alive ip (AList.lookup_isSome.mpr (AList.mem_keys.mpr member))
  have length := (List.subperm_of_subset s.limiter.perIp.keys_nodup inside).length_le
  rwa [AList.keys,List.keys,List.length_map] at length

@[simp] theorem lookup_set (tally : Tally Text) (ip other : Text) (n : Nat) :
    (tally.set ip n).lookup other = if other = ip then some n else tally.lookup other := by
  by_cases same : other = ip
  · subst same
    rw [if_pos rfl]
    exact AList.lookup_insert tally
  · rw [if_neg same]
    exact AList.lookup_insert_ne same

@[simp] theorem lookup_remove (tally : Tally Text) (ip other : Text) :
    (tally.remove ip).lookup other = if other = ip then none else tally.lookup other := by
  by_cases same : other = ip
  · subst same
    rw [if_pos rfl]
    exact AList.lookup_erase other tally
  · rw [if_neg same]
    exact AList.lookup_erase_ne same

theorem tryAcquire_ways (limiter : ConnectionLimiter) (ip : Text) (trusted : Bool) :
    (limiter.maxTotal ≤ limiter.total ∧ limiter.tryAcquire ip trusted = (limiter,false)) ∨
    (limiter.total < limiter.maxTotal ∧ trusted = false ∧ limiter.maxPerIp ≤ limiter.perIp.count ip ∧
      limiter.tryAcquire ip trusted =
        ({ limiter with perIp := limiter.perIp.set ip (limiter.perIp.count ip) },false)) ∨
    ∃ after, (trusted = false → limiter.perIp.count ip < limiter.maxPerIp) ∧
      limiter.tryAcquire ip trusted = (after,true) ∧ ∀ other, after.perIp.lookup other =
        if other = ip then some (limiter.perIp.count ip + 1) else limiter.perIp.lookup other := by
  unfold ConnectionLimiter.tryAcquire
  dsimp only
  split
  · rename_i full
    exact .inl ⟨full,rfl⟩
  · rename_i room
    split
    · rename_i capped
      obtain ⟨untrusted,reached⟩ := (Bool.and_eq_true _ _).mp capped
      exact .inr (.inl ⟨Nat.lt_of_not_ge room,by simpa using untrusted,of_decide_eq_true reached,rfl⟩)
    · rename_i below
      refine .inr (.inr ⟨_,?_,rfl,?_⟩)
      · intro untrusted
        simpa [untrusted] using below
      · intro other
        by_cases same : other = ip <;> simp [same]

-- Entries follow the connections, and a refusal that has an entry to look at
-- writes back what is there.
theorem exact_tryAcquire (exact : Exact s) (ip : Text) (trusted : Bool)
    (known : Known s (.tryAcquire ip trusted)) :
    Exact (advance s (.tryAcquire ip trusted)) ∧ Untouched s (.tryAcquire ip trusted) := by
  rcases tryAcquire_ways s.limiter ip trusted with
    ⟨_,ran⟩ | ⟨room,untrusted,capped,ran⟩ | ⟨after,_,ran,entries⟩
  · simp only [Untouched,advance,ran]
    exact ⟨exact,fun _ => ⟨rfl,rfl,rfl,fun _ => rfl⟩⟩
  · have inside : 0 < s.live.count ip := by
      rcases known with positive | full | trusting | member
      · rw [exact.count ip] at capped
        omega
      · omega
      · rw [untrusted] at trusting
        cases trusting
      · exact List.count_pos_iff.mpr member
    have kept : ∀ other, (s.limiter.perIp.set ip (s.limiter.perIp.count ip)).lookup other =
        s.limiter.perIp.lookup other := by
      intro other
      rw [lookup_set]
      split
      · rename_i same
        rw [same,exact ip,if_neg (Nat.ne_of_gt inside),exact.count ip]
      · rfl
    simp only [Untouched,advance,ran]
    exact ⟨fun other => (kept other).trans (exact other),fun _ => ⟨rfl,rfl,rfl,kept⟩⟩
  · simp only [Untouched,advance,refuses,ran]
    refine ⟨?_,fun refused => by cases refused⟩
    intro other
    simp only [entries other,exact.count ip,if_true]
    by_cases same : other = ip
    · subst same
      simp
    · rw [if_neg same,exact other,List.count_cons_of_ne (Ne.symm same)]

theorem exact_release (exact : Exact s) (ip : Text) : Exact (advance s (.release ip)) := by
  intro other
  have own := exact ip
  by_cases none : s.live.count ip = 0
  · rw [if_pos none] at own
    have absent : s.live.erase ip = s.live := List.erase_of_not_mem (List.count_eq_zero.mp none)
    simp only [advance,ConnectionLimiter.release,own,absent]
    exact exact other
  · rw [if_neg none] at own
    simp only [advance,ConnectionLimiter.release,own,if_pos (Nat.pos_of_ne_zero none)]
    by_cases same : other = ip
    · subst same
      rw [List.count_erase_self]
      split <;> simp
    · rw [List.count_erase_of_ne same,← exact other]
      split <;> simp [same]

theorem unknown_touched (clean : Clean s) (unknown : ¬ Known s call) : ¬ Untouched s call := by
  cases call with
  | release ip => exact absurd trivial unknown
  | tryAcquire ip trusted =>
    obtain ⟨zero,room,untrusted,absent⟩ : ¬ 0 < s.limiter.maxPerIp ∧
        ¬ s.limiter.maxTotal ≤ s.limiter.total ∧ ¬ trusted = true ∧ ip ∉ s.live := by
      simpa only [Known,not_or] using unknown
    intro untouched
    rcases tryAcquire_ways s.limiter ip trusted with ⟨full,_⟩ | ⟨_,_,_,ran⟩ | ⟨_,below,_⟩
    · exact room full
    · have refused : refuses s (.tryAcquire ip trusted) = true := by simp [refuses,ran]
      have same := (untouched refused).perIp ip
      simp only [advance,ran,lookup_set,if_true] at same
      exact absent (clean.alive ip (by rw [← same]; rfl))
    · have some := below (by simpa using untrusted)
      omega

theorem exact_step (exact : Exact s) (known : Known s call) (one : Step s call next) :
    Exact next ∧ Untouched s call := by
  cases one
  cases call with
  | tryAcquire ip trusted => exact exact_tryAcquire exact ip trusted known
  | release ip => exact ⟨exact_release exact ip,fun refused => by cases refused⟩

theorem runs_exact (path : Runs (initial maxTotal maxPerIp) trace s)
    (known : ∀ entry ∈ trace, Known entry.1 entry.2) : Exact s :=
  path.guarded (C := Known) known (initial_exact maxTotal maxPerIp)
    (fun exact permitted one => (exact_step exact permitted one).1)

-- The law holds of a run if and only if none of its connections is turned away
-- at the first look at its address.
theorem refusals_untouched_iff (path : Runs (initial maxTotal maxPerIp) trace after) :
    Law trace after ↔ ∀ entry ∈ trace, Known entry.1 entry.2 := by
  constructor
  · rintro ⟨held,_⟩ entry present
    by_contra unknown
    obtain ⟨untouched,clean⟩ := held entry present
    exact unknown_touched clean unknown untouched
  · intro known
    refine ⟨?_,(runs_exact path known).clean⟩
    rintro ⟨s,call⟩ present
    obtain ⟨past,next,reached,earlier,one⟩ := path.member present
    have exact := runs_exact reached fun entry inside => known entry (earlier.subset inside)
    exact ⟨(exact_step exact (known _ present) one).2,exact.clean⟩

def client : Text := bytes "10.0.0.1"

def secondRefused : List Call := [.tryAcquire client false,.tryAcquire client false,.release client]

theorem refusals_untouched_iff_second_refused :
    Law (Machine.trail advance (initial 2 1) secondRefused) (secondRefused.foldl advance (initial 2 1)) := by
  refine (refusals_untouched_iff (Machine.runs_trail advance (initial 2 1) secondRefused)).mpr ?_
  intro entry present
  simp only [secondRefused,Machine.trail,List.mem_cons,List.not_mem_nil,or_false] at present
  rcases present with rfl | rfl | rfl
  · exact .inl Nat.one_pos
  · exact .inl Nat.one_pos
  · exact trivial

def onlyRefused : State := advance (initial 2 0) (.tryAcquire client false)

-- A limit of zero for each address refuses every untrusted client, and keeps an
-- entry for each.
theorem refused_address_kept :
    Runs (initial 2 0) [(initial 2 0,.tryAcquire client false)] onlyRefused ∧
      refuses (initial 2 0) (.tryAcquire client false) = true ∧ onlyRefused.live = [] ∧
      onlyRefused.limiter.perIp.lookup client = some 0 ∧
      ¬ Law [(initial 2 0,.tryAcquire client false)] onlyRefused := by
  refine ⟨Machine.Runs.single rfl,by decide,by decide,by decide,?_⟩
  rintro ⟨_,clean⟩
  have alive := clean.alive client (by decide)
  cases alive

end JotaTranscriber.LimiterEntries

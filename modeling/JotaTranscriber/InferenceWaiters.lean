import JotaTranscriber.ConditionVariable
import JotaTranscriber.InferenceLimiter
import JotaTranscriber.Simulation

-- The limiter with the threads that wait at its condition variable.
namespace JotaTranscriber.InferenceWaiters
open Condition

variable {Owner : Type} [DecidableEq Owner]

-- A waiting thread is inside the constructor of its guard.
abbrev Waiter (Owner : Type) := Owner × GuardKind

structure State (Owner : Type) where
  guards : Guards Owner
  waiters : Waiters (Waiter Owner)

inductive Action (Owner : Type) where
  | construct (owner : Owner) (kind : GuardKind)
  | resume (waiter : Waiter Owner) (elapsed : Bool)
  | expire (waiter : Waiter Owner)
  | spurious (waiter : Waiter Owner)
  | destroy (owner : Owner)
  | setMaxConcurrency (maxConcurrent : CInt)

def initial : State Owner := ⟨.initial,.nobody⟩

def owners (w : Waiters (Waiter Owner)) : List Owner := w.waiting.map Prod.fst

-- wait_for looks once more when its time is over.
def late (kind : GuardKind) (elapsed : Bool) : GuardKind :=
  match kind with
  | .timedTryGuard _ => .timedTryGuard elapsed
  | kind => kind

-- A constructor that does not return leaves its thread asleep; woken, the
-- thread goes on in the same constructor.
inductive Step : State Owner → Action Owner → State Owner → Prop where
  | enters (fresh : owner ∉ s.guards.live) (apart : owner ∉ owners s.waiters)
      (ran : s.guards.limiter.construct kind = some (after,acquired)) :
      Step s (.construct owner kind) { s with guards := ⟨after,s.guards.live.insert owner acquired⟩ }
  | sleeps (fresh : owner ∉ s.guards.live) (apart : owner ∉ owners s.waiters)
      (blocked : s.guards.limiter.construct kind = none) :
      Step s (.construct owner kind) { s with waiters := s.waiters.sleep (owner,kind) }
  | resumes (awake : (owner,kind) ∈ s.waiters.woken)
      (ran : s.guards.limiter.construct (late kind elapsed) = some (after,acquired)) :
      Step s (.resume (owner,kind) elapsed)
        ⟨⟨after,s.guards.live.insert owner acquired⟩,s.waiters.look (owner,kind)⟩
  | sleepsAgain (awake : (owner,kind) ∈ s.waiters.woken)
      (blocked : s.guards.limiter.construct (late kind elapsed) = none) :
      Step s (.resume (owner,kind) elapsed)
        { s with waiters := (s.waiters.look (owner,kind)).sleep (owner,kind) }
  | expires (asleep : (owner,.timedTryGuard early) ∈ s.waiters.sleeping)
      (ran : s.guards.limiter.construct (.timedTryGuard true) = some (after,acquired)) :
      Step s (.expire (owner,.timedTryGuard early))
        ⟨⟨after,s.guards.live.insert owner acquired⟩,s.waiters.abandon (owner,.timedTryGuard early)⟩
  | spurious (asleep : waiter ∈ s.waiters.sleeping) :
      Step s (.spurious waiter) { s with waiters := s.waiters.wake waiter }
  | destroys (present : s.guards.live.lookup owner = some acquired)
      (idle : acquired = false ∨ s.guards.limiter.activeCount ≤ 0) :
      Step s (.destroy owner)
        { s with guards := ⟨s.guards.limiter.destruct acquired,s.guards.live.erase owner⟩ }
  | releases (present : s.guards.live.lookup owner = some true)
      (some_active : 0 < s.guards.limiter.activeCount) (told : Waiters.NotifyOne s.waiters waiters) :
      Step s (.destroy owner)
        ⟨⟨s.guards.limiter.destruct true,s.guards.live.erase owner⟩,waiters⟩
  | ignores (invalid : maxConcurrent.val ≤ 0) : Step s (.setMaxConcurrency maxConcurrent) s
  | limits (valid : 0 < maxConcurrent.val) :
      Step s (.setMaxConcurrency maxConcurrent)
        ⟨{ s.guards with limiter := s.guards.limiter.setMaxConcurrency maxConcurrent },s.waiters.wakeAll⟩

abbrev Runs : State Owner → List (State Owner × Action Owner) → State Owner → Prop :=
  Machine.Runs Step

structure Separate (s : State Owner) : Prop where
  once : (owners s.waiters).Nodup
  fresh : ∀ owner ∈ owners s.waiters, owner ∉ s.guards.live

-- The step that the guards take: a constructor counts when it returns.
def guardAction (s : State Owner) : Action Owner → Option (GuardAction Owner)
  | .construct owner kind =>
    if (s.guards.limiter.construct kind).isSome then some (.construct owner kind) else none
  | .resume (owner,kind) elapsed =>
    if (s.guards.limiter.construct (late kind elapsed)).isSome then
      some (.construct owner (late kind elapsed))
    else none
  | .expire (owner,_) => some (.construct owner (.timedTryGuard true))
  | .spurious _ => none
  | .destroy owner => some (.destroy owner)
  | .setMaxConcurrency maxConcurrent => some (.setMaxConcurrency maxConcurrent)

variable {s next : State Owner} {waiters : Waiters (Waiter Owner)}

omit [DecidableEq Owner] in
theorem Separate.perm (separate : Separate s) (same : waiters.waiting.Perm s.waiters.waiting) :
    Separate { s with waiters } := by
  have owned : (owners waiters).Perm (owners s.waiters) := same.map Prod.fst
  exact ⟨owned.nodup_iff.mpr separate.once,
    fun owner waits => separate.fresh owner (owned.mem_iff.mp waits)⟩

theorem Separate.erase (separate : Separate s) (limiter : InferenceLimiter) (owner : Owner) :
    Separate { s with guards := ⟨limiter,s.guards.live.erase owner⟩ } := by
  refine ⟨separate.once,?_⟩
  intro other waits present
  exact separate.fresh other waits (AList.mem_erase.mp present).2

theorem Separate.settle (separate : Separate s)
    (left : s.waiters.waiting.Perm ((owner,kind) :: waiters.waiting)) :
    owner ∉ s.guards.live ∧
      ∀ after acquired, Separate ⟨⟨after,s.guards.live.insert owner acquired⟩,waiters⟩ := by
  have same : (owners s.waiters).Perm (owner :: owners waiters) := left.map Prod.fst
  have once := same.nodup_iff.mp separate.once
  refine ⟨separate.fresh owner (same.mem_iff.mpr List.mem_cons_self),fun after acquired => ?_⟩
  refine ⟨once.of_cons,?_⟩
  intro other waits present
  rcases (AList.mem_insert _).mp present with rfl | old
  · exact (List.nodup_cons.mp once).1 waits
  · exact separate.fresh other (same.mem_iff.mpr (List.mem_cons_of_mem _ waits)) old

theorem guards_follow :
    Machine.Simulation (@Step Owner _) Guards.Step (fun s g => s.guards = g ∧ Separate s)
      guardAction := by
  constructor
  · rintro s _ action name next ⟨rfl,separate⟩ one named
    cases one with
    | enters fresh apart ran =>
      simp only [guardAction,ran,Option.isSome_some,if_true,Option.some.injEq] at named
      subst named
      refine ⟨_,.construct fresh ran,rfl,separate.once,?_⟩
      intro other waits present
      rcases (AList.mem_insert _).mp present with rfl | old
      · exact apart waits
      · exact separate.fresh other waits old
    | sleeps _ _ blocked => simp [guardAction,blocked] at named
    | resumes awake ran =>
      simp only [guardAction,ran,Option.isSome_some,if_true,Option.some.injEq] at named
      subst named
      obtain ⟨fresh,kept⟩ := separate.settle (Waiters.look_waiting awake)
      exact ⟨_,.construct fresh ran,rfl,kept _ _⟩
    | sleepsAgain _ blocked => simp [guardAction,blocked] at named
    | expires asleep ran =>
      cases named
      obtain ⟨fresh,kept⟩ := separate.settle (Waiters.abandon_waiting asleep)
      exact ⟨_,.construct fresh ran,rfl,kept _ _⟩
    | spurious => cases named
    | destroys present _ =>
      cases named
      exact ⟨_,.destroy present,rfl,separate.erase _ _⟩
    | releases present _ told =>
      cases named
      exact ⟨_,.destroy present,rfl,(separate.perm (Waiters.notifyOne_waiting told)).erase _ _⟩
    | ignores invalid =>
      cases named
      refine ⟨_,.setMaxConcurrency,?_,separate⟩
      simp [InferenceLimiter.setMaxConcurrency,Int.not_lt.mpr invalid]
    | limits valid =>
      cases named
      exact ⟨_,.setMaxConcurrency,rfl,separate.once,separate.fresh⟩
  · rintro s _ action next ⟨rfl,separate⟩ one unnamed
    cases one with
    | enters _ _ ran => simp [guardAction,ran] at unnamed
    | sleeps fresh apart _ =>
      refine ⟨rfl,List.nodup_cons.mpr ⟨apart,separate.once⟩,?_⟩
      intro other waits
      rcases List.mem_cons.mp waits with rfl | old
      · exact fresh
      · exact separate.fresh other old
    | resumes _ ran => simp [guardAction,ran] at unnamed
    | sleepsAgain awake _ =>
      exact ⟨rfl,separate.perm (Waiters.look_waiting awake).symm⟩
    | spurious asleep => exact ⟨rfl,separate.perm (Waiters.wake_waiting asleep)⟩
    | expires | destroys | releases | ignores | limits => cases unnamed

def free (limiter : InferenceLimiter) : Int := limiter.maxConcurrent.val - limiter.activeCount

theorem construct_free {limiter after : InferenceLimiter}
    (ran : limiter.construct kind = some (after,acquired)) : free after ≤ free limiter ∧
      (0 < free limiter → acquired = true ∧ free after = free limiter - 1) := by
  unfold free
  rcases InferenceLimiter.construct_cases ran with ⟨rfl,below,rfl⟩ | ⟨_,full,rfl⟩
  · simp only [InferenceLimiter.claim]
    exact ⟨by omega,fun _ => ⟨trivial,by omega⟩⟩
  · exact ⟨Int.le_refl _,by omega⟩

theorem construct_blocked {limiter : InferenceLimiter} (blocked : limiter.construct kind = none) :
    free limiter ≤ 0 := by
  unfold free
  rw [← Int.not_lt]
  intro below
  have capacity : limiter.hasCapacity = true := by
    simp only [InferenceLimiter.hasCapacity,decide_eq_true_eq]
    omega
  cases kind <;> simp [InferenceLimiter.construct,InferenceLimiter.acquire,InferenceLimiter.tryAcquireFor,
    capacity] at blocked

theorem construct_open {limiter : InferenceLimiter} (some_free : 0 < free limiter) (kind : GuardKind) :
    limiter.construct kind = some (limiter.claim,true) := by
  unfold free at some_free
  have capacity : limiter.hasCapacity = true := by
    simp only [InferenceLimiter.hasCapacity,decide_eq_true_eq]
    omega
  cases kind <;> simp [InferenceLimiter.construct,InferenceLimiter.acquire,InferenceLimiter.tryAcquire,
    InferenceLimiter.tryAcquireFor,capacity]

theorem destruct_free (limiter : InferenceLimiter) (idle : acquired = false ∨ limiter.activeCount ≤ 0) :
    limiter.destruct acquired = limiter := by
  unfold InferenceLimiter.destruct InferenceLimiter.release
  rcases idle with rfl | none_active
  · rfl
  · rw [if_neg (Int.not_lt.mpr none_active)]
    split <;> rfl

theorem release_free (limiter : InferenceLimiter) (some_active : 0 < limiter.activeCount) :
    free (limiter.destruct true) = free limiter + 1 := by
  unfold free
  simp only [InferenceLimiter.destruct,if_true,InferenceLimiter.release,if_pos some_active]
  omega

def Covered (s : State Owner) : Prop := s.waiters.Covered (free s.guards.limiter)

theorem covered_preserved (covered : Covered s) (one : Step s action next) : Covered next := by
  cases one with
  | enters _ _ ran => exact Waiters.Covered.mono covered (construct_free ran).1
  | sleeps _ _ blocked => exact Waiters.covered_full (construct_blocked blocked) _
  | resumes awake ran =>
    obtain ⟨shrinks,takes⟩ := construct_free ran
    by_cases some_free : 0 < free s.guards.limiter
    · have taken := Waiters.Covered.look covered awake
      rw [← (takes some_free).2] at taken
      exact taken
    · exact Waiters.covered_full (by dsimp only; omega) _
  | sleepsAgain _ blocked => exact Waiters.covered_full (construct_blocked blocked) _
  | expires _ ran => exact (Waiters.Covered.abandon covered _).mono (construct_free ran).1
  | spurious asleep => exact (Waiters.Covered.wake covered asleep).mono (by dsimp only; omega)
  | destroys present idle =>
    unfold Covered
    dsimp only
    rw [destruct_free _ idle]
    exact covered
  | releases present some_active told =>
    unfold Covered
    dsimp only
    rw [release_free _ some_active]
    exact Waiters.Covered.notifyOne covered told
  | ignores => exact covered
  | limits => exact Waiters.covered_wakeAll _ _

theorem runs_covered (path : Runs initial trace s) : Covered s :=
  path.invariant (I := Covered) (fun asleep => absurd rfl asleep)
    (fun covered one => covered_preserved covered one)

theorem runs_guards (path : Runs initial trace s) :
    ∃ steps, Guards.Runs .initial steps s.guards ∧ steps.map Prod.snd = Machine.labels guardAction trace := by
  obtain ⟨steps,g,followed,same,rfl,_⟩ := guards_follow.runs path
    ⟨rfl,List.nodup_nil,fun _ waits => absurd waits List.not_mem_nil⟩
  exact ⟨steps,followed,same⟩

-- What a waiting thread depends on: that woken threads go on, and that guards
-- are destroyed.
def serves : Action Owner → Bool
  | .resume .. | .destroy _ => true
  | _ => false

-- With no place free some guard has one, and its destructor gives it back.
theorem gives_place (path : Runs initial trace s) (full : free s.guards.limiter ≤ 0) :
    ∃ owner next, Step s (.destroy owner) next ∧
      free next.guards.limiter = free s.guards.limiter + 1 ∧
      next.waiters.waiting.Perm s.waiters.waiting := by
  obtain ⟨steps,followed,_⟩ := runs_guards path
  have counted : s.guards.limiter.activeCount = s.guards.granted := Guards.runs_counted followed
  have positive : 0 < s.guards.limiter.maxConcurrent.val :=
    followed.invariant (I := fun g : Guards Owner => 0 < g.limiter.maxConcurrent.val)
      (show (0 : Int) < 4 by decide)
      (fun before one => Guards.positive_step before one)
  unfold free at full
  have some_active : 0 < s.guards.limiter.activeCount := by omega
  have some_granted : 0 < s.guards.live.entries.countP Sigma.snd := by
    simp only [Guards.granted] at counted
    omega
  obtain ⟨⟨owner,acquired⟩,listed,granted⟩ := List.countP_pos_iff.mp some_granted
  obtain rfl : acquired = true := granted
  have present : s.guards.live.lookup owner = some true := List.mem_dlookup s.guards.live.nodupKeys listed
  have told : ∃ waiters, Waiters.NotifyOne s.waiters waiters := by
    cases asleep : s.waiters.sleeping with
    | nil => exact ⟨_,.nobody asleep⟩
    | cons waiter rest => exact ⟨_,.some (show waiter ∈ s.waiters.sleeping by rw [asleep]; exact List.mem_cons_self)⟩
  obtain ⟨waiters,told⟩ := told
  exact ⟨owner,_,.releases present some_active told,release_free _ some_active,
    Waiters.notifyOne_waiting told⟩

theorem makes_room (short : Nat) (path : Runs initial trace s)
    (missing : 1 ≤ free s.guards.limiter + short) :
    ∃ later next, Runs s later next ∧ (∀ entry ∈ later, serves entry.2 = true) ∧
      0 < free next.guards.limiter ∧ next.waiters.waiting.length = s.waiters.waiting.length := by
  induction short generalizing s trace with
  | zero => exact ⟨[],s,.nil,List.forall_mem_nil _,by omega,rfl⟩
  | succ short ih =>
    by_cases full : free s.guards.limiter ≤ 0
    · obtain ⟨owner,middle,one,grown,same⟩ := gives_place path full
      obtain ⟨later,next,rest,kinds,room,waits⟩ := ih (path.step one) (by omega)
      refine ⟨_,next,(Machine.Runs.single one).append rest,?_,room,waits.trans same.length_eq⟩
      intro entry present
      rcases List.mem_append.mp present with first | after
      · cases List.mem_singleton.mp first
        rfl
      · exact kinds entry after
    · exact ⟨[],s,.nil,List.forall_mem_nil _,Int.not_le.mp full,rfl⟩

theorem takes_place (covered : Covered s) (room : 0 < free s.guards.limiter)
    (waits : s.waiters.waiting ≠ []) :
    ∃ waiter elapsed next, Step s (.resume waiter elapsed) next ∧
      next.waiters.waiting.length + 1 = s.waiters.waiting.length := by
  obtain ⟨⟨owner,kind⟩,awake⟩ :=
    List.exists_mem_of_ne_nil _ (Waiters.Covered.awake covered room waits)
  refine ⟨(owner,kind),false,_,.resumes awake (construct_open room _),?_⟩
  have left := (Waiters.look_waiting awake).length_eq
  exact left.symm

theorem served (count : Nat) (path : Runs initial trace s) (waits : s.waiters.waiting.length = count) :
    ∃ later next, Runs s later next ∧ (∀ entry ∈ later, serves entry.2 = true) ∧
      next.waiters.waiting = [] := by
  induction count generalizing s trace with
  | zero => exact ⟨[],s,.nil,List.forall_mem_nil _,List.eq_nil_of_length_eq_zero waits⟩
  | succ count ih =>
    obtain ⟨opening,middle,opens,kinds,room,same⟩ :=
      makes_room (1 - free s.guards.limiter).toNat path (by omega)
    have reached := path.append opens
    have some_waiting : middle.waiters.waiting ≠ [] := by
      intro nobody
      rw [nobody] at same
      simp only [List.length_nil] at same
      omega
    obtain ⟨waiter,elapsed,after,one,fewer⟩ := takes_place (runs_covered reached) room some_waiting
    obtain ⟨later,next,rest,others,nobody⟩ := ih (reached.step one) (by omega)
    refine ⟨_,next,(opens.step one).append rest,?_,nobody⟩
    intro entry present
    rcases List.mem_append.mp present with before | after
    · rcases List.mem_append.mp before with first | last
      · exact kinds entry first
      · cases List.mem_singleton.mp last
        rfl
    · exact others entry after

-- No wake-up is lost: while somebody sleeps every free place has a thread on its
-- way to it, and so all that wait can still be served.
theorem waiters_served (path : Runs initial trace s) :
    (s.waiters.sleeping ≠ [] → free s.guards.limiter ≤ s.waiters.woken.length) ∧
    ∃ later next, Runs s later next ∧ (∀ entry ∈ later, serves entry.2 = true) ∧
      next.waiters.waiting = [] :=
  ⟨runs_covered path,served _ path rfl⟩

theorem one_fits : (-2^31 : Int) ≤ 1 ∧ (1 : Int) < 2^31 := by decide

def limitedState : State Nat :=
  ⟨⟨InferenceLimiter.create.setMaxConcurrency ⟨1,one_fits⟩,∅⟩,.nobody⟩

def takenState : State Nat :=
  ⟨⟨limitedState.guards.limiter.claim,limitedState.guards.live.insert 0 true⟩,.nobody⟩

theorem waiters_served_second : ∃ trace, ∃ s : State Nat, Runs initial trace s ∧
    s.waiters.sleeping = [(1,.guard)] ∧
    ∃ later next, Runs s later next ∧ (∀ entry ∈ later, serves entry.2 = true) ∧
      next.waiters.waiting = [] := by
  have limits : Step initial (.setMaxConcurrency ⟨1,one_fits⟩) limitedState := .limits (by decide)
  have enters : Step limitedState (.construct 0 .guard) takenState :=
    .enters (AList.notMem_empty _) List.not_mem_nil rfl
  have sleeps : Step takenState (.construct 1 .guard)
      { takenState with waiters := takenState.waiters.sleep (1,.guard) } :=
    .sleeps (by decide) List.not_mem_nil rfl
  have path : Runs initial _ { takenState with waiters := takenState.waiters.sleep (1,.guard) } :=
    .step (.step (.step .nil limits) enters) sleeps
  exact ⟨_,_,path,rfl,(waiters_served path).2⟩

end JotaTranscriber.InferenceWaiters

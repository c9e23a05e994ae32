import JotaTranscriber.Basic
import JotaTranscriber.Machine

namespace JotaTranscriber

-- ctx_ is a number that tells one loaded context from another, unload_future_
-- the task whose result it will hold. ref_count_ is an int; it counts holders
-- and stays far from its bound. shutdown_ is set by the destructor, at the end
-- of the process.
structure ModelCache where
  ctx : Option Nat
  loadedPath : Text
  refCount : Int
  ttlSeconds : Int
  unloadPending : Bool
  shutdown : Bool
  unloadFuture : Option Nat

namespace ModelCache

def empty : ModelCache :=
  { ctx := none
    loadedPath := []
    refCount := 0
    ttlSeconds := 300
    unloadPending := false
    shutdown := false
    unloadFuture := none }

-- What a stretch of code under mutex_ leaves behind, with the contexts it
-- passed to whisper_free. Notifications have no trace: a waiting task may wake
-- up at any time.
structure Unloaded where
  cache : ModelCache
  freed : List Nat

def configure (cache : ModelCache) (ttlSeconds : Int) : ModelCache := { cache with ttlSeconds }

def unloadLocked (cache : ModelCache) : Unloaded :=
  match cache.ctx with
  | some ctx => ⟨{ cache with ctx := none, loadedPath := [], refCount := 0 },[ctx]⟩
  | none => ⟨cache,[]⟩

def cancelUnloadLocked (cache : ModelCache) : ModelCache :=
  if cache.unloadPending then { cache with unloadPending := false } else cache

-- The future that release() drains after it has unlocked is the second part.
def scheduleUnloadLocked (cache : ModelCache) (task : Nat) : ModelCache × Option Nat :=
  let old := cache.unloadFuture
  let cleared := if old.isSome then { cache with unloadPending := false } else cache
  ({ cleared with unloadPending := true, unloadFuture := some task },old)

structure Acquired where
  cache : ModelCache
  freed : List Nat
  ctx : Option Nat

-- `loaded` is what whisper_init_from_file_with_params answers if it is called;
-- on a null pointer acquire throws (`ctx` is none).
def acquire (cache : ModelCache) (path : Text) (loaded : Option Nat) : Acquired :=
  let cache := cache.cancelUnloadLocked
  let load (cache : ModelCache) (freed : List Nat) : Acquired :=
    match loaded with
    | none => ⟨cache,freed,none⟩
    | some ctx => ⟨{ cache with ctx := some ctx, loadedPath := path, refCount := 1 },freed,some ctx⟩
  match cache.ctx with
  | some ctx =>
    if cache.loadedPath = path then ⟨{ cache with refCount := cache.refCount + 1 },[],some ctx⟩
    else load { cache with ctx := none, loadedPath := [] } [ctx]
  | none => load cache []

-- `scheduled` is the TTL that a newly launched unload task captures.
structure Released where
  cache : ModelCache
  freed : List Nat
  scheduled : Option Int
  old : Option Nat

def release (cache : ModelCache) (task : Nat) : Released :=
  if cache.refCount ≤ 0 then ⟨cache,[],none,none⟩
  else
    let cache := { cache with refCount := cache.refCount - 1 }
    if cache.refCount = 0 then
      if cache.ttlSeconds = 0 then
        let done := cache.unloadLocked
        ⟨done.cache,done.freed,none,none⟩
      else if cache.ttlSeconds > 0 then
        let (scheduled,old) := cache.scheduleUnloadLocked task
        ⟨scheduled,[],some cache.ttlSeconds,old⟩
      else ⟨cache,[],none,none⟩
    else ⟨cache,[],none,none⟩

def forceUnload (cache : ModelCache) : Unloaded := cache.cancelUnloadLocked.unloadLocked

-- The predicate an unload task waits for, and what it does when the wait ends
-- without it.
def stopsWaiting (cache : ModelCache) : Bool := !cache.unloadPending || cache.shutdown

def expire (cache : ModelCache) : Unloaded :=
  let done := cache.unloadLocked
  ⟨{ done.cache with unloadPending := false },done.freed⟩

-- What each section can do, said once.
theorem unloadLocked_cases (cache : ModelCache) :
    (∃ ctx, cache.ctx = some ctx ∧
      cache.unloadLocked = ⟨{ cache with ctx := none, loadedPath := [], refCount := 0 },[ctx]⟩) ∨
    cache.ctx = none ∧ cache.unloadLocked = ⟨cache,[]⟩ := by
  unfold unloadLocked
  cases loaded : cache.ctx with
  | some ctx => exact .inl ⟨ctx,rfl,rfl⟩
  | none => exact .inr ⟨rfl,rfl⟩

theorem cancelUnloadLocked_eq (cache : ModelCache) :
    cache.cancelUnloadLocked = { cache with unloadPending := false } := by
  unfold cancelUnloadLocked
  split
  · rfl
  · rename_i calm
    rw [← Bool.eq_false_iff.mpr calm]

theorem scheduleUnloadLocked_eq (cache : ModelCache) (task : Nat) :
    cache.scheduleUnloadLocked task =
      ({ cache with unloadPending := true, unloadFuture := some task },cache.unloadFuture) := by
  unfold scheduleUnloadLocked
  cases cache.unloadFuture <;> rfl

-- The model is shared, or loaded anew (after the one for another path has been
-- freed), or cannot be loaded.
theorem acquire_cases (cache : ModelCache) (path : Text) (loaded : Option Nat) :
    (∃ ctx, cache.ctx = some ctx ∧ cache.loadedPath = path ∧ cache.acquire path loaded =
      ⟨{ cache with unloadPending := false, refCount := cache.refCount + 1 },[],some ctx⟩) ∨
    (∀ ctx, cache.ctx = some ctx → cache.loadedPath ≠ path) ∧
      ((∃ ctx, loaded = some ctx ∧ cache.acquire path loaded =
        ⟨{ cache with unloadPending := false, ctx := some ctx, loadedPath := path, refCount := 1 },
          cache.ctx.toList,some ctx⟩) ∨
      loaded = none ∧ ∃ left, cache.acquire path loaded =
        ⟨{ cache with unloadPending := false, ctx := none, loadedPath := left },
          cache.ctx.toList,none⟩) := by
  unfold acquire
  rw [cancelUnloadLocked_eq]
  cases present : cache.ctx with
  | some ctx =>
    by_cases same : cache.loadedPath = path
    · exact .inl ⟨ctx,rfl,same,by simp [same]⟩
    · refine .inr ⟨fun _ _ => same,?_⟩
      cases loaded with
      | some new => exact .inl ⟨new,rfl,by simp [same]⟩
      | none => exact .inr ⟨rfl,[],by simp [same]⟩
  | none =>
    refine .inr ⟨fun _ impossible => (by cases impossible),?_⟩
    cases loaded with
    | some new => exact .inl ⟨new,rfl,by simp⟩
    | none => exact .inr ⟨rfl,cache.loadedPath,by simp⟩

theorem release_cases (cache : ModelCache) (task : Nat) :
    (cache.refCount ≤ 0 ∧ cache.release task = ⟨cache,[],none,none⟩) ∨
    (cache.refCount > 1 ∧ cache.release task =
      ⟨{ cache with refCount := cache.refCount - 1 },[],none,none⟩) ∨
    cache.refCount = 1 ∧
      ((cache.ttlSeconds = 0 ∧ ∃ done, { cache with refCount := 0 }.unloadLocked = done ∧
        cache.release task = ⟨done.cache,done.freed,none,none⟩) ∨
      (cache.ttlSeconds > 0 ∧ cache.release task =
        ⟨{ cache with refCount := 0, unloadPending := true, unloadFuture := some task },[],
          some cache.ttlSeconds,cache.unloadFuture⟩) ∨
      cache.ttlSeconds < 0 ∧ cache.release task = ⟨{ cache with refCount := 0 },[],none,none⟩) := by
  unfold release
  by_cases idle : cache.refCount ≤ 0
  · exact .inl ⟨idle,if_pos idle⟩
  refine .inr ?_
  rw [if_neg idle]
  by_cases last : cache.refCount - 1 = 0
  · have one : cache.refCount = 1 := by omega
    refine .inr ⟨one,?_⟩
    simp only [last,if_true]
    by_cases immediate : cache.ttlSeconds = 0
    · exact .inl ⟨immediate,_,rfl,by simp [immediate]⟩
    by_cases deferred : cache.ttlSeconds > 0
    · exact .inr (.inl ⟨deferred,by simp [immediate,deferred,scheduleUnloadLocked_eq]⟩)
    · exact .inr (.inr ⟨by omega,by simp [immediate,deferred]⟩)
  · exact .inl ⟨by omega,by simp [last]⟩

end ModelCache

-- The cache among its callers. An unload task is launched by release(), gets
-- mutex_ at some later time and fixes its deadline then; it is known by its
-- position in `tasks`. A holder is a successful acquire that is not released
-- yet, written as the context it was given, and `draining` lists the tasks that
-- a release() call waits for in old_future.get().
namespace CacheMachine

inductive Task where
  | starting (ttlSeconds : Int)
  | waiting (deadline : Instant)
  | finished
  deriving DecidableEq, Repr

-- `idle` is a release that brought ref_count_ to 0, `expired` a task that
-- unloads.
inductive Event where
  | freed (ctx : Nat)
  | idle (time : Instant)
  | expired (task : Nat) (time : Instant)
  deriving DecidableEq, Repr

structure State where
  cache : ModelCache
  holders : List Nat
  tasks : List Task
  draining : List Nat
  clock : Instant
  nextCtx : Nat
  log : List Event

inductive Action where
  | tick (elapsed : Nat)
  | configure (ttlSeconds : Int)
  | acquire (path : Text) (loads : Bool)
  | release (ctx : Nat)
  | drain (task : Nat)
  | forceUnload
  | start (task : Nat)
  | wake (task : Nat) (timedOut : Bool)
  deriving DecidableEq, Repr

def initial (ttlSeconds : Int) (now : Instant) : State :=
  ⟨ModelCache.empty.configure ttlSeconds,[],[],[],now,0,[]⟩

-- Each holder releases once. A wait ends with a timeout only at its deadline,
-- and otherwise at any time.
def allowed (s : State) : Action → Bool
  | .release ctx => decide (ctx ∈ s.holders)
  | .drain task => decide (task ∈ s.draining) && decide (s.tasks[task]? = some .finished)
  | .start task =>
    match s.tasks[task]? with
    | some (.starting _) => true
    | _ => false
  | .wake task timedOut =>
    match s.tasks[task]? with
    | some (.waiting deadline) => !timedOut || decide (deadline ≤ s.clock)
    | _ => false
  | _ => true

-- The unload task: wait_for checks its predicate before it waits, and after
-- every wake-up.
def startTask (s : State) (task : Nat) : State :=
  match s.tasks[task]? with
  | some (.starting ttlSeconds) =>
    let next := if s.cache.stopsWaiting then .finished else .waiting (s.clock + seconds ttlSeconds)
    { s with tasks := s.tasks.set task next }
  | _ => s

def wakeTask (s : State) (task : Nat) (timedOut : Bool) : State :=
  if s.cache.stopsWaiting then { s with tasks := s.tasks.set task .finished }
  else if timedOut then
    let done := s.cache.expire
    { s with
      cache := done.cache
      tasks := s.tasks.set task .finished
      log := s.log ++ .expired task s.clock :: done.freed.map .freed }
  else s

def apply (s : State) : Action → State
  | .tick elapsed => { s with clock := s.clock + elapsed }
  | .configure ttlSeconds => { s with cache := s.cache.configure ttlSeconds }
  | .acquire path loads =>
    let done := s.cache.acquire path (if loads then some s.nextCtx else none)
    { s with
      cache := done.cache
      holders := s.holders ++ done.ctx.toList
      nextCtx := s.nextCtx + 1
      log := s.log ++ done.freed.map .freed }
  | .release ctx =>
    let done := s.cache.release s.tasks.length
    { s with
      cache := done.cache
      holders := s.holders.erase ctx
      tasks := s.tasks ++ (done.scheduled.map Task.starting).toList
      draining := s.draining ++ done.old.toList
      log := s.log ++ (if s.cache.refCount = 1 then [.idle s.clock] else []) ++ done.freed.map .freed }
  | .drain task => { s with draining := s.draining.erase task }
  | .forceUnload =>
    let done := s.cache.forceUnload
    { s with cache := done.cache, log := s.log ++ done.freed.map .freed }
  | .start task => startTask s task
  | .wake task timedOut => wakeTask s task timedOut

def Step (s : State) (action : Action) (next : State) : Prop :=
  allowed s action = true ∧ next = apply s action

abbrev Runs := Machine.Runs Step

def advance (s : State) (action : Action) : Option State :=
  if allowed s action then some (apply s action) else none

theorem advance_exact : advance s action = some next ↔ Step s action next := by
  unfold advance Step
  by_cases permitted : allowed s action = true
  · rw [if_pos permitted,Option.some.injEq]
    constructor
    · intro same
      exact ⟨permitted,same.symm⟩
    · rintro ⟨_,same⟩
      exact same.symm
  · rw [if_neg permitted]
    constructor
    · intro impossible
      cases impossible
    · rintro ⟨met,_⟩
      exact absurd met permitted

end CacheMachine
end JotaTranscriber

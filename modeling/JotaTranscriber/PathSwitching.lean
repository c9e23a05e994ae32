import JotaTranscriber.CacheLifetime

-- The cache under callers that ask for arbitrary paths. What is known of the
-- single path of CacheLifetime holds for the path of the moment.
namespace JotaTranscriber.PathSwitching
open CacheMachine CacheLifetime

variable {ttlSeconds : Int} {now : Instant} {trace : List (State × Action)} {s next : State} {action : Action}

def Sound (s : State) : Prop := ∃ modelPath, CacheLifetime.Sound modelPath s

def acquired (s : State) (path : Text) (loads : Bool) : ModelCache.Acquired :=
  s.cache.acquire path (if loads then some s.nextCtx else none)

-- A model for another path is dropped only when nobody holds it and the new one
-- loads.
def proper (s : State) : Action → Bool
  | .acquire path loads =>
    s.cache.ctx.isNone || decide (s.cache.loadedPath = path) || (s.holders.isEmpty && loads)
  | _ => true

structure Respects (s : State) (path : Text) (loads : Bool) : Prop where
  heldKept : ∀ ctx ∈ (acquired s path loads).freed, ctx ∉ s.holders
  failureKeeps : (acquired s path loads).ctx = none →
    (acquired s path loads).cache.ctx = s.cache.ctx ∧
    (acquired s path loads).cache.loadedPath = s.cache.loadedPath ∧
    (acquired s path loads).cache.refCount = s.cache.refCount

def Counted (s : State) : Prop := s.cache.refCount = s.holders.length

-- The counter is right in every state of the run, and every acquire leaves
-- alone what it must.
structure Switches (trace : List (State × Action)) (s : State) : Prop where
  counted : (∀ entry ∈ trace, Counted entry.1) ∧ Counted s
  respects : ∀ before path loads, (before,.acquire path loads) ∈ trace → Respects before path loads

theorem acquire_same {cache : ModelCache} (kept : ∀ ctx, cache.ctx = some ctx → cache.loadedPath = path)
    (loaded : Option Nat) :
    (cache.acquire path loaded).freed = [] ∧ ((cache.acquire path loaded).ctx = none →
      (cache.acquire path loaded).cache = { cache with unloadPending := false }) := by
  unfold ModelCache.acquire
  rw [ModelCache.cancelUnloadLocked_eq]
  cases present : cache.ctx with
  | some ctx =>
    simp only [kept ctx present,if_true]
    exact ⟨trivial,nofun⟩
  | none =>
    cases loaded with
    | some ctx => exact ⟨rfl,nofun⟩
    | none => exact ⟨rfl,fun _ => rfl⟩

theorem acquire_other {cache : ModelCache} (present : cache.ctx = some ctx)
    (other : cache.loadedPath ≠ path) (loaded : Option Nat) :
    (cache.acquire path loaded).freed = [ctx] ∧ (cache.acquire path loaded).ctx = loaded ∧
      (cache.acquire path loaded).cache.ctx = loaded := by
  rcases cache.acquire_cases path loaded with ⟨_,_,same,_⟩ | ⟨_,⟨new,rfl,installs⟩ | ⟨rfl,_,fails⟩⟩
  · exact absurd same other
  · rw [installs,present]
    exact ⟨rfl,rfl,rfl⟩
  · rw [fails,present]
    exact ⟨rfl,rfl,rfl⟩

-- Where no other path is loaded, this one may be taken for the only one.
theorem Sound.at_path (sound : Sound s)
    (kept : ∀ ctx, s.cache.ctx = some ctx → s.cache.loadedPath = path) : CacheLifetime.Sound path s := by
  obtain ⟨_,lifetime⟩ := sound
  exact ⟨lifetime.counted,lifetime.held,lifetime.pending,kept,lifetime.fresh,lifetime.earlier⟩

theorem proper_cases (permitted : proper s (.acquire path loads) = true) :
    (∀ ctx, s.cache.ctx = some ctx → s.cache.loadedPath = path) ∨
    ∃ ctx, s.cache.ctx = some ctx ∧ s.cache.loadedPath ≠ path ∧ s.holders = [] ∧ loads = true := by
  cases present : s.cache.ctx with
  | none => exact .inl fun _ impossible => by cases impossible
  | some ctx =>
    by_cases same : s.cache.loadedPath = path
    · exact .inl fun _ _ => same
    · have idle : s.holders = [] ∧ loads = true := by simpa [proper,present,same] using permitted
      exact .inr ⟨ctx,rfl,same,idle⟩

theorem improper_cases (refused : proper s (.acquire path loads) = false) :
    ∃ ctx, s.cache.ctx = some ctx ∧ s.cache.loadedPath ≠ path ∧ (s.holders ≠ [] ∨ loads = false) := by
  cases present : s.cache.ctx with
  | none => simp [proper,present] at refused
  | some ctx =>
    simp only [proper,present,Option.isNone_some,Bool.false_or,Bool.or_eq_false_iff,decide_eq_false_iff_not,
      Bool.and_eq_false_iff,List.isEmpty_eq_false_iff] at refused
    exact ⟨ctx,rfl,refused.1,refused.2⟩

theorem respects_of_proper (permitted : proper s (.acquire path loads) = true) :
    Respects s path loads := by
  rcases proper_cases permitted with kept | ⟨ctx,present,other,idle,rfl⟩
  · obtain ⟨nothing,unchanged⟩ := acquire_same kept (if loads then some s.nextCtx else none)
    constructor
    · unfold acquired
      rw [nothing]
      exact List.forall_mem_nil _
    · intro failed
      have same : (acquired s path loads).cache = { s.cache with unloadPending := false } := unchanged failed
      rw [same]
      exact ⟨rfl,rfl,rfl⟩
  · obtain ⟨_,given,_⟩ := acquire_other present other (some s.nextCtx)
    constructor
    · intro _ _
      rw [idle]
      exact List.not_mem_nil
    · intro failed
      rw [acquired,if_pos (by rfl),given] at failed
      cases failed

-- Anything else frees a context in use or loses the model that was loaded.
theorem proper_of_respects (sound : Sound s) (respects : Respects s path loads) :
    proper s (.acquire path loads) = true := by
  rw [← Bool.not_eq_false]
  intro refused
  obtain ⟨ctx,present,other,bad⟩ := improper_cases refused
  obtain ⟨freed,given,left⟩ := acquire_other present other (if loads then some s.nextCtx else none)
  rcases bad with held | failing
  · obtain ⟨holder,member⟩ := List.exists_mem_of_ne_nil _ held
    obtain ⟨_,lifetime⟩ := sound
    have loaded := lifetime.held holder member
    rw [present,Option.some.injEq] at loaded
    subst loaded
    refine respects.heldKept ctx ?_ member
    unfold acquired
    rw [freed]
    exact List.mem_singleton_self ctx
  · subst failing
    have kept := (respects.failureKeeps given).1
    have lost : (acquired s path false).cache.ctx = none := left
    rw [lost,present] at kept
    cases kept

theorem switch_sound (sound : Sound s) (present : s.cache.ctx = some ctx) (other : s.cache.loadedPath ≠ path)
    (idle : s.holders = []) : CacheLifetime.Sound path (apply s (.acquire path true)) := by
  obtain ⟨_,lifetime⟩ := sound
  rcases s.cache.acquire_cases path (some s.nextCtx) with
    ⟨_,_,same,_⟩ | ⟨_,⟨new,given,installs⟩ | ⟨impossible,_⟩⟩
  · exact absurd same other
  · cases given
    simp only [CacheLifetime.Sound,apply,if_true,installs,present,idle,freedContexts_append,
      freedContexts_freed]
    refine ⟨rfl,?_,fun impossible => (by cases impossible),fun _ _ => rfl,?_,?_⟩
    · intro holder member
      rw [List.mem_singleton.mp member]
    · intro found loaded
      cases loaded
      refine ⟨Nat.lt_succ_self _,?_⟩
      intro gone
      rcases List.mem_append.mp gone with old | last
      · exact Nat.lt_irrefl _ (lifetime.earlier _ old)
      · have below := (lifetime.fresh ctx present).1
        rw [List.mem_singleton.mp last] at below
        exact Nat.lt_irrefl _ below
    · intro found gone
      rcases List.mem_append.mp gone with old | last
      · exact Nat.lt_succ_of_lt (lifetime.earlier found old)
      · rw [List.mem_singleton.mp last]
        exact Nat.lt_succ_of_lt (lifetime.fresh ctx present).1
  · cases impossible

theorem sound_preserved (sound : Sound s) (permitted : proper s action = true)
    (unforced : action ≠ .forceUnload) (one : Step s action next) : Sound next := by
  cases action with
  | acquire path loads =>
    refine ⟨path,?_⟩
    rcases proper_cases permitted with kept | ⟨ctx,present,other,idle,rfl⟩
    · exact CacheLifetime.sound_preserved (sound.at_path kept) (by simp [ordinary]) one
    · rw [one.2]
      exact switch_sound sound present other idle
  | forceUnload => exact absurd rfl unforced
  | _ =>
    obtain ⟨modelPath,lifetime⟩ := sound
    exact ⟨modelPath,CacheLifetime.sound_preserved lifetime (by rfl) one⟩

theorem Switches.before (switches : Switches (trace ++ [(s,action)]) next) : Switches trace s := by
  obtain ⟨⟨visited,_⟩,respects⟩ := switches
  refine ⟨⟨?_,visited _ (List.mem_append_right _ (List.mem_singleton_self _))⟩,?_⟩
  · intro entry present
    exact visited entry (List.mem_append_left _ present)
  · intro before path loads present
    exact respects before path loads (List.mem_append_left _ present)

theorem runs_proper (path : Runs (initial ttlSeconds now) trace s)
    (unforced : ∀ entry ∈ trace, entry.2 ≠ .forceUnload) (switches : Switches trace s) :
    (∀ entry ∈ trace, proper entry.1 entry.2 = true) ∧ Sound s := by
  revert switches
  refine path.history (I := fun trace s => Switches trace s →
    (∀ entry ∈ trace, proper entry.1 entry.2 = true) ∧ Sound s)
    (C := fun _ action => action ≠ .forceUnload) unforced ?_ ?_
  · intro _
    exact ⟨List.forall_mem_nil _,[],initial_sound [] ttlSeconds now⟩
  · intro past s action next _ ih calm one switches
    obtain ⟨earlier,sound⟩ := ih switches.before
    have permitted : proper s action = true := by
      cases action with
      | acquire path loads =>
        exact proper_of_respects sound (switches.respects s path loads (by simp))
      | _ => rfl
    refine ⟨?_,sound_preserved sound permitted calm one⟩
    intro entry present
    rcases List.mem_append.mp present with old | last
    · exact earlier entry old
    · rw [List.mem_singleton.mp last]
      exact permitted

theorem Switches.after (switches : Switches trace s) (sound : Sound next)
    (permitted : proper s action = true) : Switches (trace ++ [(s,action)]) next := by
  obtain ⟨⟨visited,current⟩,respects⟩ := switches
  refine ⟨⟨?_,?_⟩,?_⟩
  · intro entry present
    rcases List.mem_append.mp present with old | last
    · exact visited entry old
    · rw [List.mem_singleton.mp last]
      exact current
  · obtain ⟨_,lifetime⟩ := sound
    exact lifetime.counted
  · intro before path loads present
    rcases List.mem_append.mp present with old | last
    · exact respects before path loads old
    · cases List.mem_singleton.mp last
      exact respects_of_proper permitted

theorem runs_switches (path : Runs (initial ttlSeconds now) trace s)
    (unforced : ∀ entry ∈ trace, entry.2 ≠ .forceUnload)
    (permitted : ∀ entry ∈ trace, proper entry.1 entry.2 = true) : Sound s ∧ Switches trace s := by
  refine path.history (I := fun trace s => Sound s ∧ Switches trace s)
    (C := fun s action => action ≠ .forceUnload ∧ proper s action = true)
    (fun entry present => ⟨unforced entry present,permitted entry present⟩) ?_ ?_
  · refine ⟨⟨[],initial_sound [] ttlSeconds now⟩,⟨List.forall_mem_nil _,rfl⟩,?_⟩
    intro before path loads present
    cases present
  · intro past s action next _ kept allowed one
    have sound := sound_preserved kept.1 allowed.2 allowed.1 one
    exact ⟨sound,kept.2.after sound allowed.2⟩

theorem path_switching_iff (path : Runs (initial ttlSeconds now) trace s)
    (unforced : ∀ entry ∈ trace, entry.2 ≠ .forceUnload) :
    Switches trace s ↔ ∀ entry ∈ trace, proper entry.1 entry.2 = true := by
  constructor
  · intro switches
    exact (runs_proper path unforced switches).1
  · intro permitted
    exact (runs_switches path unforced permitted).2

-- The second model is loaded once the first is released, and then shared.
def relaySchedule : List Action :=
  [.acquire (bytes "small.bin") true,.release 0,.acquire (bytes "large.bin") true,
    .acquire (bytes "large.bin") true,.release 1]

theorem path_switching_iff_relay : ∃ trace s, Runs (initial 300 0) trace s ∧
    trace.map Prod.snd = relaySchedule ∧ s.holders = [1] ∧ .freed 0 ∈ s.log ∧ Switches trace s := by
  obtain ⟨s,ran,held,freed⟩ : ∃ s, Machine.replay advance proper (initial 300 0) relaySchedule = some s ∧
      s.holders = [1] ∧ .freed 0 ∈ s.log := ⟨_,rfl,rfl,by decide⟩
  obtain ⟨trace,same,path,permitted⟩ := Machine.replay_sound advance_exact.mp ran
  have unforced : ∀ entry ∈ trace, entry.2 ≠ .forceUnload := by
    intro entry present forced
    have listed := List.mem_map_of_mem (f := Prod.snd) present
    rw [same,forced] at listed
    revert listed
    decide
  exact ⟨trace,s,path,same,held,freed,(path_switching_iff path unforced).mpr permitted⟩

def small : State := apply (initial 300 0) (.acquire (bytes "small.bin") true)

def idleSmall : State := apply small (.release 0)

-- A model in use is freed and the counter loses its holder; and a load that
-- fails has already dropped the model it was to replace.
theorem switch_frees_held_model :
    (∃ trace s, Runs (initial 300 0) trace s ∧
      trace.map Prod.snd = [.acquire (bytes "small.bin") true,.acquire (bytes "large.bin") true] ∧
      s.holders = [0,1] ∧ s.cache.refCount = 1 ∧ .freed 0 ∈ s.log ∧ ¬ Switches trace s) ∧
    ∃ trace s, Runs (initial 300 0) trace s ∧
      trace.map Prod.snd =
        [.acquire (bytes "small.bin") true,.release 0,.acquire (bytes "missing.bin") false] ∧
      ¬ Switches trace s := by
  have loaded : Runs (initial 300 0) [(initial 300 0,.acquire (bytes "small.bin") true)] small :=
    .single ⟨by rfl,by rfl⟩
  constructor
  · have switched : Step small (.acquire (bytes "large.bin") true) _ := ⟨by rfl,by rfl⟩
    refine ⟨_,_,loaded.step switched,by rfl,by rfl,by rfl,by decide,?_⟩
    intro switches
    have counted := switches.counted.2
    revert counted
    unfold Counted
    decide
  · have released : Step small (.release 0) idleSmall := ⟨by rfl,by rfl⟩
    have failed : Step idleSmall (.acquire (bytes "missing.bin") false) _ := ⟨by rfl,by rfl⟩
    refine ⟨_,_,(loaded.step released).step failed,by rfl,?_⟩
    intro switches
    have respects := switches.respects idleSmall (bytes "missing.bin") false (by simp)
    have kept := (respects.failureKeeps (by rfl)).1
    revert kept
    decide

end JotaTranscriber.PathSwitching

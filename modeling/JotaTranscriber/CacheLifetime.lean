import JotaTranscriber.ModelCache

namespace JotaTranscriber.CacheLifetime
open CacheMachine

def freedContexts (log : List Event) : List Nat :=
  log.filterMap fun
    | .freed ctx => some ctx
    | _ => none

-- Every caller passes config.model_path, and nobody calls forceUnload.
def ordinary (modelPath : Text) : Action → Bool
  | .acquire path _ => decide (path = modelPath)
  | .forceUnload => false
  | _ => true

-- The counter, the holders and the contexts seen so far. Timer tasks do not
-- occur: all they rely on is that a pending unload means no holder.
structure Lifetime (modelPath : Text) (cache : ModelCache) (holders : List Nat) (nextCtx : Nat)
    (freed : List Nat) : Prop where
  counted : cache.refCount = holders.length
  held : ∀ holder ∈ holders, cache.ctx = some holder
  pending : cache.unloadPending = true → holders = []
  loadedPath : ∀ ctx, cache.ctx = some ctx → cache.loadedPath = modelPath
  fresh : ∀ ctx, cache.ctx = some ctx → ctx < nextCtx ∧ ctx ∉ freed
  earlier : ∀ ctx ∈ freed, ctx < nextCtx

theorem freedContexts_append (log new : List Event) :
    freedContexts (log ++ new) = freedContexts log ++ freedContexts new := List.filterMap_append

theorem freedContexts_freed (contexts : List Nat) : freedContexts (contexts.map .freed) = contexts := by
  induction contexts with
  | nil => rfl
  | cons ctx rest ih => exact congrArg (ctx :: ·) ih

theorem mem_freedContexts : ctx ∈ freedContexts log ↔ .freed ctx ∈ log := by
  simp only [freedContexts,List.mem_filterMap]
  constructor
  · rintro ⟨event,present,found⟩
    cases event <;> cases found
    exact present
  · intro present
    exact ⟨_,present,rfl⟩

theorem Lifetime.unload (lifetime : Lifetime modelPath cache [] nextCtx freed) :
    Lifetime modelPath cache.unloadLocked.cache [] nextCtx (freed ++ cache.unloadLocked.freed) := by
  rcases cache.unloadLocked_cases with ⟨ctx,present,unloads⟩ | ⟨_,nothing⟩
  · rw [unloads]
    obtain ⟨below,unfreed⟩ := lifetime.fresh ctx present
    refine ⟨rfl,List.forall_mem_nil _,fun _ => rfl,fun _ impossible => (by cases impossible),
      fun _ impossible => (by cases impossible),?_⟩
    intro other present
    rcases List.mem_append.mp present with old | last
    · exact lifetime.earlier other old
    · rw [List.mem_singleton.mp last]; exact below
  · rw [nothing]
    simpa using lifetime

theorem Lifetime.unheld (lifetime : Lifetime modelPath cache holders nextCtx freed)
    (missing : cache.ctx = none) : holders = [] := by
  rw [List.eq_nil_iff_forall_not_mem]
  intro holder present
  have loaded := lifetime.held holder present
  rw [missing] at loaded
  cases loaded

theorem Lifetime.acquire (lifetime : Lifetime modelPath cache holders nextCtx freed)
    (answer : loaded = none ∨ loaded = some nextCtx) :
    Lifetime modelPath (cache.acquire modelPath loaded).cache
      (holders ++ (cache.acquire modelPath loaded).ctx.toList) (nextCtx + 1)
      (freed ++ (cache.acquire modelPath loaded).freed) := by
  have earlier : ∀ ctx ∈ freed, ctx < nextCtx + 1 :=
    fun ctx present => Nat.lt_succ_of_lt (lifetime.earlier ctx present)
  rcases cache.acquire_cases modelPath loaded with ⟨ctx,present,same,shares⟩ | ⟨other,loads⟩
  · rw [shares]
    obtain ⟨below,unfreed⟩ := lifetime.fresh ctx present
    refine ⟨?_,?_,fun impossible => (by cases impossible),lifetime.loadedPath,?_,by simpa using earlier⟩
    · simp [lifetime.counted]
    · intro holder member
      rcases List.mem_append.mp member with old | new
      · exact lifetime.held holder old
      · rw [List.mem_singleton.mp new]; exact present
    · intro found loaded
      obtain ⟨below,unfreed⟩ := lifetime.fresh found loaded
      exact ⟨Nat.lt_succ_of_lt below,by simpa using unfreed⟩
  -- No caller asks for another path, so what is not shared is not loaded.
  have missing : cache.ctx = none := by
    cases present : cache.ctx with
    | none => rfl
    | some ctx => exact absurd (lifetime.loadedPath ctx present) (other ctx present)
  have nobody := lifetime.unheld missing
  subst nobody
  rcases loads with ⟨ctx,found,installs⟩ | ⟨_,left,fails⟩
  · rw [installs,missing]
    obtain rfl : ctx = nextCtx := by
      rcases answer with nothing | new
      · rw [nothing] at found; cases found
      · exact Option.some.inj (found.symm.trans new)
    refine ⟨rfl,?_,fun impossible => (by cases impossible),fun _ _ => rfl,?_,by simpa using earlier⟩
    · intro holder member
      rw [List.mem_singleton.mp member]
    · intro found loaded
      cases loaded
      refine ⟨Nat.lt_succ_self _,?_⟩
      intro present
      have below := lifetime.earlier ctx (by simpa using present)
      exact Nat.lt_irrefl ctx below
  · rw [fails,missing]
    exact ⟨lifetime.counted,List.forall_mem_nil _,fun _ => rfl,fun _ impossible => (by cases impossible),
      fun _ impossible => (by cases impossible),by simpa using earlier⟩

theorem Lifetime.release (lifetime : Lifetime modelPath cache holders nextCtx freed)
    (present : ctx ∈ holders) (task : Nat) :
    Lifetime modelPath (cache.release task).cache (holders.erase ctx) nextCtx
      (freed ++ (cache.release task).freed) := by
  have length := List.length_erase_of_mem present
  have counted := lifetime.counted
  have some_held : 0 < holders.length := List.length_pos_of_mem present
  have held : ∀ holder ∈ holders.erase ctx, cache.ctx = some holder :=
    fun holder member => lifetime.held holder (List.mem_of_mem_erase member)
  have calm : cache.unloadPending = true → holders.erase ctx = [] := by
    intro pending
    rw [lifetime.pending pending] at present
    cases present
  have last (one : cache.refCount = 1) : holders.erase ctx = [] :=
    List.eq_nil_of_length_eq_zero (by omega)
  rcases cache.release_cases task with ⟨none_held,_⟩ | ⟨several,released⟩ |
      ⟨one,⟨_,_,rfl,released⟩ | ⟨_,released⟩ | ⟨_,released⟩⟩
  · omega
  · rw [released,List.append_nil]
    exact ⟨by simp only; omega,held,calm,lifetime.loadedPath,lifetime.fresh,lifetime.earlier⟩
  all_goals
    have nobody := last one
    rw [released,nobody]
  · apply Lifetime.unload
    exact ⟨rfl,List.forall_mem_nil _,fun _ => rfl,lifetime.loadedPath,lifetime.fresh,lifetime.earlier⟩
  all_goals
    rw [List.append_nil]
    exact ⟨rfl,List.forall_mem_nil _,fun _ => rfl,lifetime.loadedPath,lifetime.fresh,lifetime.earlier⟩

theorem Lifetime.expire (lifetime : Lifetime modelPath cache holders nextCtx freed)
    (pending : cache.unloadPending = true) :
    Lifetime modelPath cache.expire.cache holders nextCtx (freed ++ cache.expire.freed) := by
  have nobody := lifetime.pending pending
  subst nobody
  have unloaded := lifetime.unload
  exact ⟨unloaded.counted,unloaded.held,fun _ => rfl,unloaded.loadedPath,unloaded.fresh,unloaded.earlier⟩

def Sound (modelPath : Text) (s : State) : Prop :=
  Lifetime modelPath s.cache s.holders s.nextCtx (freedContexts s.log)

theorem initial_sound (modelPath : Text) (ttlSeconds : Int) (now : Instant) :
    Sound modelPath (initial ttlSeconds now) :=
  ⟨rfl,List.forall_mem_nil _,fun _ => rfl,fun _ impossible => (by cases impossible),
    fun _ impossible => (by cases impossible),List.forall_mem_nil _⟩

theorem startTask_sound (sound : Sound modelPath s) : Sound modelPath (startTask s task) := by
  unfold startTask
  split
  · exact sound
  · exact sound

theorem wakeTask_sound (sound : Sound modelPath s) : Sound modelPath (wakeTask s task timedOut) := by
  unfold wakeTask
  split
  · exact sound
  rename_i waits
  split
  · have pending : s.cache.unloadPending = true := by
      simp only [ModelCache.stopsWaiting,Bool.or_eq_true,Bool.not_eq_true',not_or] at waits
      simpa using waits.1
    have expired := Lifetime.expire sound pending
    rw [← freedContexts_freed s.cache.expire.freed] at expired
    change Lifetime _ _ _ _ (freedContexts (s.log ++ _))
    rw [freedContexts_append]
    exact expired
  · exact sound

theorem sound_preserved (sound : Sound modelPath s) (permitted : ordinary modelPath action = true)
    (one : Step s action next) : Sound modelPath next := by
  obtain ⟨enabled,rfl⟩ := one
  cases action with
  | tick | drain => exact sound
  | configure => exact ⟨sound.counted,sound.held,sound.pending,sound.loadedPath,sound.fresh,sound.earlier⟩
  | acquire path loads =>
    obtain rfl : path = modelPath := by simpa [ordinary] using permitted
    have answer : (if loads then some s.nextCtx else none) = none ∨
        (if loads then some s.nextCtx else none) = some s.nextCtx := by
      cases loads
      · exact .inl rfl
      · exact .inr rfl
    have acquired := Lifetime.acquire sound answer
    rw [← freedContexts_freed (ModelCache.acquire ..).freed,← freedContexts_append] at acquired
    exact acquired
  | release ctx =>
    have present : ctx ∈ s.holders := by simpa [allowed] using enabled
    have released := Lifetime.release sound present s.tasks.length
    have silent : freedContexts (if s.cache.refCount = 1 then [.idle s.clock] else []) = [] := by
      split <;> rfl
    simp only [Sound,apply,freedContexts_append,silent,List.append_nil,freedContexts_freed]
    exact released
  | forceUnload => cases permitted
  | start => exact startTask_sound sound
  | wake => exact wakeTask_sound sound

theorem runs_sound (path : Runs (initial ttlSeconds now) trace s)
    (permitted : ∀ entry ∈ trace, ordinary modelPath entry.2 = true) : Sound modelPath s :=
  path.guarded (I := Sound modelPath) (C := fun _ action => ordinary modelPath action = true) permitted
    (initial_sound modelPath ttlSeconds now) (fun sound met one => sound_preserved sound met one)

theorem references_keep_context (path : Runs (initial ttlSeconds now) trace s)
    (permitted : ∀ entry ∈ trace, ordinary modelPath entry.2 = true) :
    s.cache.refCount = s.holders.length ∧
    (s.cache.unloadPending = true → s.cache.refCount = 0) ∧
    (∀ holder ∈ s.holders, s.cache.ctx = some holder) ∧
    ∀ ctx, .freed ctx ∈ s.log → ctx ∉ s.holders := by
  have sound := runs_sound path permitted
  refine ⟨sound.counted,?_,sound.held,?_⟩
  · intro pending
    rw [sound.counted,sound.pending pending]
    rfl
  · intro ctx freed present
    have loaded := sound.held ctx present
    exact (sound.fresh ctx loaded).2 (mem_freedContexts.mpr freed)

-- Two holders, a timer that is cancelled and one that expires, and a new load.
def sharedSchedule : List Action :=
  [.acquire (bytes "model.bin") true,.acquire (bytes "model.bin") true,.release 0,.release 0,.start 0,
    .acquire (bytes "model.bin") true,.wake 0 false,.release 0,.start 1,.tick 300000000000,.wake 1 true,
    .drain 0,.acquire (bytes "model.bin") false,.configure 0,.acquire (bytes "model.bin") true]

theorem references_keep_context_shared : ∃ trace s, Runs (initial 300 0) trace s ∧
    trace.map Prod.snd = sharedSchedule ∧
    (∀ entry ∈ trace, ordinary (bytes "model.bin") entry.2 = true) ∧
    s.holders = [4] ∧ .freed 0 ∈ s.log ∧ s.cache.refCount = s.holders.length ∧
    ∀ ctx, .freed ctx ∈ s.log → ctx ∉ s.holders := by
  obtain ⟨s,ran,held,freed⟩ : ∃ s, Machine.replay advance (fun _ action => ordinary (bytes "model.bin") action)
      (initial 300 0) sharedSchedule = some s ∧ s.holders = [4] ∧ .freed 0 ∈ s.log :=
    ⟨_,rfl,rfl,by decide⟩
  obtain ⟨trace,same,path,permitted⟩ := Machine.replay_sound advance_exact.mp ran
  have kept := references_keep_context path permitted
  exact ⟨trace,s,path,same,permitted,held,freed,kept.1,kept.2.2.2⟩

end JotaTranscriber.CacheLifetime

import JotaTranscriber.ModelCache

namespace JotaTranscriber.CacheTtl
open CacheMachine

def idleTimes (log : List Event) : List Instant :=
  log.filterMap fun
    | .idle time => some time
    | _ => none

-- The most recent release that brought ref_count_ to 0.
def lastIdle (log : List Event) : Option Instant := (idleTimes log).getLast?

-- Every task that unloads does so at least a TTL after that release.
def Timely (ttlSeconds : Int) (log : List Event) : Prop :=
  Machine.Justified (fun before event => ∀ task time, event = .expired task time →
    ∃ since, lastIdle before = some since ∧ since + seconds ttlSeconds ≤ time) log

-- A later release has moved the task's future out of unload_future_ and drains
-- it.
def superseded (s : State) (task : Nat) : Bool := decide (s.cache.unloadFuture ≠ some task)

def Leaves (s : State) (task : Nat) (timedOut : Bool) : Prop :=
  (apply s (.wake task timedOut)).tasks[task]? = some .finished ∧
    (apply s (.wake task timedOut)).log = s.log

def DrainedLeave (trace : List (State × Action)) : Prop :=
  ∀ s task timedOut, (s,.wake task timedOut) ∈ trace → superseded s task = true → Leaves s task timedOut

-- A superseded task gets mutex_ back before a new release sets the pending flag
-- that its own cancellation has cleared.
def unraced (s : State) : Action → Bool
  | .wake task _ => !(superseded s task && s.cache.unloadPending)
  | _ => true

def steady (ttlSeconds : Int) : Action → Bool
  | .configure ttl => decide (ttl = ttlSeconds)
  | _ => true

@[simp] theorem idleTimes_append (log new : List Event) :
    idleTimes (log ++ new) = idleTimes log ++ idleTimes new := List.filterMap_append

theorem timely_append (timely : Timely ttlSeconds log)
    (silent : ∀ task time, .expired task time ∉ new) : Timely ttlSeconds (log ++ new) := by
  refine Machine.justified_append.mpr ⟨timely,?_⟩
  rintro before event after rfl task time rfl
  exact absurd (List.mem_append_right _ List.mem_cons_self) (silent task time)

theorem timely_freed (timely : Timely ttlSeconds log) (contexts : List Nat) :
    Timely ttlSeconds (log ++ contexts.map .freed) := by
  apply timely_append timely
  intro task time present
  obtain ⟨_,_,impossible⟩ := List.mem_map.mp present
  cases impossible

theorem timely_expired (timely : Timely ttlSeconds log) (since_idle : lastIdle log = some since)
    (elapsed : since + seconds ttlSeconds ≤ time) : Timely ttlSeconds (log ++ [.expired task time]) := by
  refine Machine.justified_append.mpr ⟨timely,?_⟩
  rw [Machine.justified_singleton,List.append_nil]
  rintro _ _ same
  cases same
  exact ⟨since,since_idle,elapsed⟩

-- What the task of the most recent release still has ahead of it.
def ahead (ttlSeconds : Int) (since : Instant) : Task → Prop
  | .starting ttl => ttl = ttlSeconds
  | .waiting deadline => since + seconds ttlSeconds ≤ deadline
  | .finished => True

-- A pending unload belongs to the task in unload_future_, which the most recent
-- release launched.
def Armed (ttlSeconds : Int) (s : State) : Prop :=
  s.cache.unloadPending = true → ∃ task since, s.cache.unloadFuture = some task ∧
    lastIdle s.log = some since ∧ since ≤ s.clock ∧
    ∀ status, s.tasks[task]? = some status → ahead ttlSeconds since status

structure Steady (ttlSeconds : Int) (cache : ModelCache) : Prop where
  ttlSeconds : cache.ttlSeconds = ttlSeconds
  running : cache.shutdown = false

structure Scheduled (ttlSeconds : Int) (s : State) : Prop where
  armed : Armed ttlSeconds s
  timely : Timely ttlSeconds s.log

theorem unloadLocked_steady (steady : Steady ttlSeconds cache) :
    Steady ttlSeconds cache.unloadLocked.cache := by
  rcases cache.unloadLocked_cases with ⟨ctx,_,unloads⟩ | ⟨_,nothing⟩
  · rw [unloads]; exact ⟨steady.ttlSeconds,steady.running⟩
  · rw [nothing]; exact steady

theorem unloadLocked_pending (cache : ModelCache) :
    cache.unloadLocked.cache.unloadPending = cache.unloadPending := by
  rcases cache.unloadLocked_cases with ⟨ctx,_,unloads⟩ | ⟨_,nothing⟩
  · rw [unloads]
  · rw [nothing]

theorem acquire_steady (steady : Steady ttlSeconds cache) (path : Text) (loaded : Option Nat) :
    Steady ttlSeconds (cache.acquire path loaded).cache := by
  rcases cache.acquire_cases path loaded with ⟨_,_,_,done⟩ | ⟨_,⟨_,_,done⟩ | ⟨_,_,done⟩⟩
  all_goals rw [done]; exact ⟨steady.ttlSeconds,steady.running⟩

theorem acquire_pending (cache : ModelCache) (path : Text) (loaded : Option Nat) :
    (cache.acquire path loaded).cache.unloadPending = false := by
  rcases cache.acquire_cases path loaded with ⟨_,_,_,done⟩ | ⟨_,⟨_,_,done⟩ | ⟨_,_,done⟩⟩
  all_goals rw [done]

theorem cancelUnloadLocked_steady (steady : Steady ttlSeconds cache) :
    Steady ttlSeconds cache.cancelUnloadLocked := by
  rw [ModelCache.cancelUnloadLocked_eq]
  exact ⟨steady.ttlSeconds,steady.running⟩

theorem release_steady (steady : Steady ttlSeconds cache) (task : Nat) :
    Steady ttlSeconds (cache.release task).cache := by
  rcases cache.release_cases task with ⟨_,done⟩ | ⟨_,done⟩ | ⟨_,⟨_,_,rfl,done⟩ | ⟨_,done⟩ | ⟨_,done⟩⟩
  · rw [done]; exact steady
  · rw [done]; exact ⟨steady.ttlSeconds,steady.running⟩
  · rw [done]
    apply unloadLocked_steady
    exact ⟨steady.ttlSeconds,steady.running⟩
  · rw [done]; exact ⟨steady.ttlSeconds,steady.running⟩
  · rw [done]; exact ⟨steady.ttlSeconds,steady.running⟩

theorem steady_preserved (before : Steady ttlSeconds s.cache) (constant : steady ttlSeconds action = true)
    (one : Step s action next) : Steady ttlSeconds next.cache := by
  obtain ⟨_,rfl⟩ := one
  cases action with
  | tick | drain => exact before
  | configure ttl => exact ⟨show ttl = ttlSeconds by simpa [steady] using constant,before.running⟩
  | acquire path loads => exact acquire_steady before _ _
  | release ctx => exact release_steady before _
  | forceUnload => exact unloadLocked_steady (cancelUnloadLocked_steady before)
  | start task =>
    simp only [apply,startTask]
    split <;> exact before
  | wake task timedOut =>
    simp only [apply,wakeTask]
    split
    · exact before
    split
    · have unloaded := unloadLocked_steady before
      exact ⟨unloaded.ttlSeconds,unloaded.running⟩
    · exact before

theorem runs_steady (path : Runs (initial ttlSeconds now) trace s)
    (constant : ∀ entry ∈ trace, steady ttlSeconds entry.2 = true) : Steady ttlSeconds s.cache :=
  path.guarded (I := fun s => Steady ttlSeconds s.cache)
    (C := fun _ action => steady ttlSeconds action = true) constant ⟨rfl,rfl⟩
    (fun before met one => steady_preserved before met one)

theorem armed_set (armed : Armed ttlSeconds s) (task : Nat) (status : Task)
    (kept : ∀ since, since ≤ s.clock → (∀ old, s.tasks[task]? = some old → ahead ttlSeconds since old) →
      ahead ttlSeconds since status) :
    Armed ttlSeconds { s with tasks := s.tasks.set task status } := by
  intro pending
  obtain ⟨current,since,future,idle,passed,bound⟩ := armed pending
  refine ⟨current,since,future,idle,passed,?_⟩
  intro found present
  by_cases same : task = current
  · subst same
    have own : found = status := by
      rw [List.getElem?_set,if_pos rfl] at present
      split at present
      · exact (Option.some.inj present).symm
      · cases present
    rw [own]
    exact kept since passed bound
  · rw [List.getElem?_set_ne same] at present
    exact bound found present

theorem startTask_scheduled (scheduled : Scheduled ttlSeconds s) :
    Scheduled ttlSeconds (startTask s task) := by
  unfold startTask
  split
  · rename_i ttl launched
    refine ⟨armed_set scheduled.armed task _ ?_,scheduled.timely⟩
    intro since passed bound
    split
    · trivial
    · have own : ttl = ttlSeconds := bound _ launched
      change since + seconds ttlSeconds ≤ s.clock + seconds ttl
      rw [own]
      exact Int.add_le_add_right passed _
  · exact scheduled

theorem wakeTask_scheduled (scheduled : Scheduled ttlSeconds s)
    (enabled : allowed s (.wake task timedOut) = true)
    (apart : unraced s (.wake task timedOut) = true) : Scheduled ttlSeconds (wakeTask s task timedOut) := by
  unfold wakeTask
  split
  · exact ⟨armed_set scheduled.armed task _ (fun _ _ _ => trivial),scheduled.timely⟩
  rename_i waits
  split
  · rename_i expires
    have pending : s.cache.unloadPending = true := by
      simp only [ModelCache.stopsWaiting,Bool.or_eq_true,Bool.not_eq_true',not_or] at waits
      simpa using waits.1
    obtain ⟨current,since,future,idle,_,bound⟩ := scheduled.armed pending
    have own : s.cache.unloadFuture = some task := by simpa [unraced,superseded,pending] using apart
    obtain rfl : current = task := Option.some.inj (future.symm.trans own)
    have elapsed : since + seconds ttlSeconds ≤ s.clock := by
      simp only [allowed,expires,Bool.not_true,Bool.false_or] at enabled
      split at enabled
      · rename_i deadline waiting
        exact Int.le_trans (bound _ waiting) (of_decide_eq_true enabled)
      · cases enabled
    refine ⟨fun impossible => (by cases impossible),?_⟩
    change Timely ttlSeconds (s.log ++ .expired current s.clock :: _)
    rw [List.append_cons]
    exact timely_freed (timely_expired scheduled.timely idle elapsed) _
  · exact scheduled

theorem release_unscheduled (scheduled : Scheduled ttlSeconds s) (still : s.cache.refCount ≠ 1)
    (done : s.cache.release s.tasks.length = ⟨cache,[],none,none⟩)
    (pending : cache.unloadPending = s.cache.unloadPending)
    (future : cache.unloadFuture = s.cache.unloadFuture) :
    Scheduled ttlSeconds (apply s (.release ctx)) := by
  have log : (apply s (.release ctx)).log = s.log := by simp [apply,done,still]
  have tasks : (apply s (.release ctx)).tasks = s.tasks := by simp [apply,done]
  refine ⟨?_,by rw [log]; exact scheduled.timely⟩
  intro still_pending
  replace still_pending : s.cache.unloadPending = true := by
    rw [← pending]
    simpa [apply,done] using still_pending
  obtain ⟨current,since,present,idle,passed,bound⟩ := scheduled.armed still_pending
  refine ⟨current,since,?_,by rw [log]; exact idle,passed,by rw [tasks]; exact bound⟩
  simp [apply,done,future,present]

theorem release_scheduled (steady : Steady ttlSeconds s.cache) (positive : 0 < ttlSeconds)
    (scheduled : Scheduled ttlSeconds s) : Scheduled ttlSeconds (apply s (.release ctx)) := by
  have ttl := steady.ttlSeconds
  rcases s.cache.release_cases s.tasks.length with ⟨none_held,done⟩ | ⟨several,done⟩ |
      ⟨one,⟨immediate,_⟩ | ⟨_,done⟩ | ⟨forever,_⟩⟩
  · exact release_unscheduled scheduled (by omega) done rfl rfl
  · exact release_unscheduled scheduled (by omega) done rfl rfl
  · omega
  · have log : (apply s (.release ctx)).log = s.log ++ [.idle s.clock] := by simp [apply,done,one]
    have tasks : (apply s (.release ctx)).tasks = s.tasks ++ [.starting s.cache.ttlSeconds] := by
      simp [apply,done]
    refine ⟨?_,?_⟩
    · intro _
      refine ⟨s.tasks.length,s.clock,by simp [apply,done],?_,Int.le_refl _,?_⟩
      · rw [log,lastIdle,idleTimes_append]
        simp [idleTimes]
      · intro status present
        rw [tasks,List.getElem?_concat_length] at present
        rw [← Option.some.inj present]
        exact ttl
    · rw [log]
      exact timely_append scheduled.timely (by simp)
  · omega

theorem scheduled_preserved (positive : 0 < ttlSeconds) (steady : Steady ttlSeconds s.cache)
    (scheduled : Scheduled ttlSeconds s) (apart : unraced s action = true) (one : Step s action next) :
    Scheduled ttlSeconds next := by
  obtain ⟨enabled,rfl⟩ := one
  cases action with
  | tick elapsed =>
    refine ⟨?_,scheduled.timely⟩
    intro pending
    obtain ⟨current,since,future,idle,passed,bound⟩ := scheduled.armed pending
    refine ⟨current,since,future,idle,?_,bound⟩
    exact Int.le_trans passed (Int.le_add_of_nonneg_right (Int.natCast_nonneg elapsed))
  | configure => exact ⟨scheduled.armed,scheduled.timely⟩
  | acquire path loads =>
    have calm : (apply s (.acquire path loads)).cache.unloadPending = false := acquire_pending _ _ _
    exact ⟨(fun pending => by rw [calm] at pending; cases pending),timely_freed scheduled.timely _⟩
  | release ctx => exact release_scheduled steady positive scheduled
  | drain => exact ⟨scheduled.armed,scheduled.timely⟩
  | forceUnload =>
    have calm : (apply s .forceUnload).cache.unloadPending = false := by
      change s.cache.cancelUnloadLocked.unloadLocked.cache.unloadPending = false
      rw [unloadLocked_pending,ModelCache.cancelUnloadLocked_eq]
    exact ⟨(fun pending => by rw [calm] at pending; cases pending),timely_freed scheduled.timely _⟩
  | start task => exact startTask_scheduled scheduled
  | wake task timedOut => exact wakeTask_scheduled scheduled enabled apart

theorem runs_scheduled (path : Runs (initial ttlSeconds now) trace s) (positive : 0 < ttlSeconds)
    (constant : ∀ entry ∈ trace, steady ttlSeconds entry.2 = true)
    (apart : ∀ entry ∈ trace, unraced entry.1 entry.2 = true) : Scheduled ttlSeconds s := by
  have both : ∀ entry ∈ trace, steady ttlSeconds entry.2 = true ∧ unraced entry.1 entry.2 = true :=
    fun entry present => ⟨constant entry present,apart entry present⟩
  refine (path.guarded (I := fun s => Steady ttlSeconds s.cache ∧ Scheduled ttlSeconds s)
    (C := fun s action => steady ttlSeconds action = true ∧ unraced s action = true) both
    ⟨⟨rfl,rfl⟩,⟨fun impossible => (by cases impossible),Machine.justified_nil⟩⟩ ?_).2
  rintro s action next ⟨fixed,scheduled⟩ ⟨same,unrace⟩ one
  exact ⟨steady_preserved fixed same one,scheduled_preserved positive fixed scheduled unrace one⟩

theorem leaves_iff (running : s.cache.shutdown = false)
    (enabled : allowed s (.wake task timedOut) = true) :
    Leaves s task timedOut ↔ s.cache.unloadPending = false := by
  have waiting : ∃ deadline, s.tasks[task]? = some (.waiting deadline) := by
    simp only [allowed] at enabled
    split at enabled
    · rename_i deadline found
      exact ⟨deadline,found⟩
    · cases enabled
  obtain ⟨deadline,found⟩ := waiting
  constructor
  · rintro ⟨gone,silent⟩
    by_contra pending
    have stays : s.cache.stopsWaiting = false := by
      simpa [ModelCache.stopsWaiting,running] using pending
    cases timedOut with
    | true => simp [apply,wakeTask,stays] at silent
    | false => simp [apply,wakeTask,stays,found] at gone
  · intro calm
    have stops : s.cache.stopsWaiting = true := by simp [ModelCache.stopsWaiting,calm]
    have inside : task < s.tasks.length := (List.getElem?_eq_some_iff.mp found).1
    simp [Leaves,apply,wakeTask,stops,inside]

theorem ttl_law_iff (path : Runs (initial ttlSeconds now) trace s) (positive : 0 < ttlSeconds)
    (constant : ∀ entry ∈ trace, steady ttlSeconds entry.2 = true) :
    (Timely ttlSeconds s.log ∧ DrainedLeave trace) ↔
      ∀ entry ∈ trace, unraced entry.1 entry.2 = true := by
  have woken {s : State} {task : Nat} {timedOut : Bool} (present : (s,.wake task timedOut) ∈ trace) :
      Leaves s task timedOut ↔ s.cache.unloadPending = false := by
    obtain ⟨past,next,reached,part,enabled,_⟩ := path.member present
    have fixed := runs_steady reached (fun entry member => constant entry (part.subset member))
    exact leaves_iff fixed.running enabled
  constructor
  · rintro ⟨_,drained⟩ ⟨s,action⟩ present
    cases action with
    | wake task timedOut =>
      by_cases old : superseded s task = true
      · have calm := (woken present).mp (drained s task timedOut present old)
        simp [unraced,calm]
      · simp [unraced,old]
    | _ => rfl
  · intro apart
    refine ⟨(runs_scheduled path positive constant apart).timely,?_⟩
    intro s task timedOut present old
    refine (woken present).mpr ?_
    simpa [unraced,old] using apart _ present

-- The cancelled task is seen to leave, and the next one waits its full time.
def patientSchedule : List Action :=
  [.acquire (bytes "model.bin") true,.release 0,.start 0,.tick 100000000000,
    .acquire (bytes "model.bin") true,.wake 0 false,.release 0,.drain 0,.start 1,
    .tick 300000000000,.wake 1 true]

theorem ttl_law_iff_patient : ∃ trace s, trace.map Prod.snd = patientSchedule ∧
    Runs (initial 300 0) trace s ∧ .expired 1 400000000000 ∈ s.log ∧
    Timely 300 s.log ∧ DrainedLeave trace := by
  let permitted : State → Action → Bool := fun s action => steady 300 action && unraced s action
  obtain ⟨s,ran,expired⟩ : ∃ s, Machine.replay advance permitted (initial 300 0) patientSchedule = some s ∧
      .expired 1 400000000000 ∈ s.log := ⟨_,rfl,by decide⟩
  obtain ⟨trace,same,path,met⟩ := Machine.replay_sound advance_exact.mp ran
  have both : ∀ entry ∈ trace, steady 300 entry.2 = true ∧ unraced entry.1 entry.2 = true :=
    fun entry present => Bool.and_eq_true_iff.mp (met entry present)
  have law := (ttl_law_iff path (by decide) (fun entry present => (both entry present).1)).mpr
    (fun entry present => (both entry present).2)
  exact ⟨trace,s,same,path,expired,law⟩

-- A client leaves and another comes and goes 100 s later, before the task that
-- was cancelled has got mutex_ back: it finds the flag set again, stays, and
-- unloads at its own deadline, 200 s after the last release.
def hastySchedule : List Action :=
  [.acquire (bytes "model.bin") true,.release 0,.start 0,.tick 100000000000,
    .acquire (bytes "model.bin") true,.release 0]

theorem cancelled_task_unloads : ∃ trace s,
    trace.map Prod.snd = hastySchedule ++ [.wake 0 false,.tick 200000000000,.wake 0 true] ∧
    Runs (initial 300 0) trace s ∧ (∀ entry ∈ trace, steady 300 entry.2 = true) ∧
    ¬ Timely 300 s.log ∧ ¬ DrainedLeave trace := by
  let permitted : State → Action → Bool := fun _ action => steady 300 action
  obtain ⟨raced,hurried,old,stays,s,ran,log⟩ : ∃ raced,
      Machine.replay advance permitted (initial 300 0) hastySchedule = some raced ∧
      superseded raced 0 = true ∧
      (apply raced (.wake 0 false)).tasks[0]? = some (.waiting 300000000000) ∧
      ∃ s, Machine.replay advance permitted (apply raced (.wake 0 false))
        [.tick 200000000000,.wake 0 true] = some s ∧
      s.log = [.idle 0,.idle 100000000000,.expired 0 300000000000,.freed 0] :=
    ⟨_,rfl,by decide,by decide,_,rfl,by decide⟩
  obtain ⟨first,same,path,met⟩ := Machine.replay_sound advance_exact.mp hurried
  obtain ⟨rest,later,onward,kept⟩ := Machine.replay_sound advance_exact.mp ran
  have woken : Step raced (.wake 0 false) (apply raced (.wake 0 false)) := by
    cases hurried
    exact ⟨by decide,rfl⟩
  refine ⟨first ++ [(raced,.wake 0 false)] ++ rest,s,?_,(Machine.Runs.step path woken).append onward,?_,?_,?_⟩
  · simp [same,later]
  · intro entry present
    simp only [List.mem_append,List.mem_singleton] at present
    rcases present with (before | rfl) | after
    · exact met entry before
    · rfl
    · exact kept entry after
  · intro timely
    obtain ⟨since,idle,elapsed⟩ := timely [.idle 0,.idle 100000000000] _ [.freed 0] log _ _ rfl
    cases idle
    revert elapsed
    decide
  · intro drained
    have left := drained raced 0 false (by simp) old
    rw [Leaves,stays] at left
    cases left.1

end JotaTranscriber.CacheTtl

import JotaTranscriber.CacheTtl

-- What becomes of the unload tasks and of the releases that wait for one when
-- no more calls come in.
namespace JotaTranscriber.IdleUnload
open CacheMachine CacheTtl

def unattended : Action → Bool
  | .tick _ | .start _ | .wake _ _ | .drain _ => true
  | _ => false

def modest (longest : Int) : Action → Bool
  | .configure ttlSeconds => decide (ttlSeconds ≤ longest)
  | _ => true

def Within (longest : Int) (clock : Instant) : Task → Prop
  | .starting ttlSeconds => ttlSeconds ≤ longest
  | .waiting deadline => deadline ≤ clock + seconds longest
  | .finished => True

-- A flag that is set has a task to act on it, and every task somebody waits for
-- exists and is over before long.
structure Tracked (longest : Int) (s : State) : Prop where
  running : s.cache.shutdown = false
  ttl : s.cache.ttlSeconds ≤ longest
  within : ∀ task ∈ s.tasks, Within longest s.clock task
  future : ∀ task, s.cache.unloadFuture = some task → task < s.tasks.length
  draining : ∀ task ∈ s.draining, task < s.tasks.length
  armed : s.cache.unloadPending = true → ∃ task ∈ s.tasks, task ≠ .finished

variable {longest : Int} {s next : State}

theorem tracked_initial (modestly : ttlSeconds ≤ longest) (now : Instant) :
    Tracked longest (initial ttlSeconds now) where
  running := rfl
  ttl := modestly
  within := List.forall_mem_nil _
  future := fun _ impossible => by cases impossible
  draining := List.forall_mem_nil _
  armed := fun impossible => by cases impossible

theorem Tracked.quiet (tracked : Tracked longest s) (cache : ModelCache)
    (running : cache.shutdown = false) (ttl : cache.ttlSeconds ≤ longest)
    (future : cache.unloadFuture = s.cache.unloadFuture)
    (pending : cache.unloadPending = true → s.cache.unloadPending = true)
    (same : next.cache = cache ∧ next.tasks = s.tasks ∧ next.draining = s.draining ∧ next.clock = s.clock) :
    Tracked longest next := by
  obtain ⟨rfl,tasks,draining,clock⟩ := same
  exact {
    running := running
    ttl := ttl
    within := by rw [tasks,clock]; exact tracked.within
    future := by rw [future,tasks]; exact tracked.future
    draining := by rw [tasks,draining]; exact tracked.draining
    armed := fun set => by rw [tasks]; exact tracked.armed (pending set) }

theorem within_later (within : Within longest clock task) (later : clock ≤ after) :
    Within longest after task := by
  cases task with
  | starting | finished => exact within
  | waiting deadline => exact Int.le_trans within (Int.add_le_add_right later _)

theorem unloadLocked_future (cache : ModelCache) :
    cache.unloadLocked.cache.unloadFuture = cache.unloadFuture := by
  rcases cache.unloadLocked_cases with ⟨ctx,_,unloads⟩ | ⟨_,nothing⟩
  · rw [unloads]
  · rw [nothing]

theorem acquire_future (cache : ModelCache) (path : Text) (loaded : Option Nat) :
    (cache.acquire path loaded).cache.unloadFuture = cache.unloadFuture := by
  rcases cache.acquire_cases path loaded with ⟨_,_,_,done⟩ | ⟨_,⟨_,_,done⟩ | ⟨_,_,done⟩⟩
  all_goals rw [done]

theorem release_tracked (tracked : Tracked longest s) (ctx : Nat) :
    Tracked longest (apply s (.release ctx)) := by
  have fixed : Steady s.cache.ttlSeconds s.cache := ⟨rfl,tracked.running⟩
  have steady := release_steady fixed s.tasks.length
  rcases s.cache.release_cases s.tasks.length with ⟨_,done⟩ | ⟨_,done⟩ |
      ⟨_,⟨_,_,rfl,done⟩ | ⟨_,done⟩ | ⟨_,done⟩⟩
  · exact tracked.quiet _ steady.running (steady.ttlSeconds ▸ tracked.ttl) (by rw [done]) (by rw [done]; exact id)
      (by simp [apply,done])
  · exact tracked.quiet _ steady.running (steady.ttlSeconds ▸ tracked.ttl) (by rw [done]) (by rw [done]; exact id)
      (by simp [apply,done])
  · refine tracked.quiet _ steady.running (steady.ttlSeconds ▸ tracked.ttl) (by rw [done,unloadLocked_future])
      (by rw [done,unloadLocked_pending]; exact id) (by simp [apply,done])
  · -- The task is launched: the flag has one more to act on it.
    have tasks : (apply s (.release ctx)).tasks = s.tasks ++ [.starting s.cache.ttlSeconds] := by
      simp [apply,done]
    have draining : (apply s (.release ctx)).draining = s.draining ++ s.cache.unloadFuture.toList := by
      simp [apply,done]
    exact {
      running := steady.running
      ttl := steady.ttlSeconds ▸ tracked.ttl
      within := by
        rw [tasks]
        exact List.forall_mem_append.mpr ⟨tracked.within,List.forall_mem_singleton.mpr tracked.ttl⟩
      future := by
        intro task same
        have own : task = s.tasks.length := by simpa [apply,done] using same.symm
        rw [tasks,own,List.length_append]
        exact Nat.lt_succ_self _
      draining := by
        intro task present
        rw [tasks,List.length_append]
        rw [draining,List.mem_append] at present
        have inside : task < s.tasks.length := by
          rcases present with waited | old
          · exact tracked.draining task waited
          · exact tracked.future task (Option.mem_toList.mp old)
        exact Nat.lt_succ_of_lt inside
      armed := fun _ => ⟨_,by rw [tasks]; exact List.mem_append_right _ (List.mem_singleton_self _),
        fun same => by cases same⟩ }
  · exact tracked.quiet _ steady.running (steady.ttlSeconds ▸ tracked.ttl) (by rw [done]) (by rw [done]; exact id)
      (by simp [apply,done])

theorem Tracked.set (tracked : Tracked longest s) (cache : ModelCache) (log : List Event) (task : Nat)
    (status : Task) (running : cache.shutdown = false) (ttl : cache.ttlSeconds ≤ longest)
    (future : cache.unloadFuture = s.cache.unloadFuture) (within : Within longest s.clock status)
    (armed : cache.unloadPending = true → ∃ found ∈ s.tasks.set task status, found ≠ .finished) :
    Tracked longest { s with cache, tasks := s.tasks.set task status, log } where
  running := running
  ttl := ttl
  within := by
    intro found present
    rcases List.mem_or_eq_of_mem_set present with old | rfl
    · exact tracked.within found old
    · exact within
  future := by rw [future,List.length_set]; exact tracked.future
  draining := by rw [List.length_set]; exact tracked.draining
  armed := armed

theorem start_tracked (tracked : Tracked longest s) (task : Nat) : Tracked longest (startTask s task) := by
  unfold startTask
  split
  · rename_i ttlSeconds launched
    have inside := (List.getElem?_eq_some_iff.mp launched).1
    refine tracked.set s.cache s.log task _ tracked.running tracked.ttl rfl ?_ ?_
    · split
      · trivial
      · exact Int.add_le_add_left (Int.mul_le_mul_of_nonneg_right
          (tracked.within _ (List.mem_of_getElem? launched)) (by decide)) _
    · intro pending
      have stays : s.cache.stopsWaiting = false := by simp [ModelCache.stopsWaiting,pending,tracked.running]
      refine ⟨_,List.mem_set inside _,?_⟩
      simp [stays]
  · exact tracked

theorem wake_tracked (tracked : Tracked longest s) (task : Nat) (timedOut : Bool) :
    Tracked longest (wakeTask s task timedOut) := by
  unfold wakeTask
  split
  · rename_i stops
    refine tracked.set s.cache s.log task .finished tracked.running tracked.ttl rfl trivial ?_
    intro pending
    simp [ModelCache.stopsWaiting,pending,tracked.running] at stops
  · split
    · have steady : Steady s.cache.ttlSeconds s.cache.unloadLocked.cache :=
        unloadLocked_steady ⟨rfl,tracked.running⟩
      exact tracked.set _ _ task .finished steady.running (steady.ttlSeconds ▸ tracked.ttl)
        (unloadLocked_future s.cache) trivial (fun impossible => by cases impossible)
    · exact tracked

theorem tracked_step (tracked : Tracked longest s) (modestly : modest longest action = true)
    (one : Step s action next) : Tracked longest next := by
  obtain ⟨enabled,rfl⟩ := one
  have fixed : Steady s.cache.ttlSeconds s.cache := ⟨rfl,tracked.running⟩
  cases action with
  | tick elapsed =>
    have later : s.clock ≤ s.clock + elapsed := Int.le_add_of_nonneg_right (Int.natCast_nonneg elapsed)
    exact { tracked with within := fun task present => within_later (tracked.within task present) later }
  | configure ttlSeconds =>
    exact tracked.quiet (s.cache.configure ttlSeconds) tracked.running (of_decide_eq_true modestly) rfl id
      ⟨rfl,rfl,rfl,rfl⟩
  | acquire path loads =>
    have steady := acquire_steady fixed path (if loads then some s.nextCtx else none)
    refine tracked.quiet _ steady.running (steady.ttlSeconds ▸ tracked.ttl) (acquire_future _ _ _) ?_
      ⟨rfl,rfl,rfl,rfl⟩
    intro impossible
    rw [acquire_pending] at impossible
    cases impossible
  | release ctx => exact release_tracked tracked ctx
  | drain task =>
    exact { tracked with draining := fun other present => tracked.draining other (List.mem_of_mem_erase present) }
  | forceUnload =>
    have steady := unloadLocked_steady (cancelUnloadLocked_steady fixed)
    refine tracked.quiet s.cache.forceUnload.cache steady.running (steady.ttlSeconds ▸ tracked.ttl) ?_ ?_
      ⟨rfl,rfl,rfl,rfl⟩
    · rw [ModelCache.forceUnload,unloadLocked_future,ModelCache.cancelUnloadLocked_eq]
    · intro impossible
      rw [ModelCache.forceUnload,unloadLocked_pending,ModelCache.cancelUnloadLocked_eq] at impossible
      cases impossible
  | start task => exact start_tracked tracked task
  | wake task timedOut => exact wake_tracked tracked task timedOut

theorem runs_tracked (path : Runs (initial ttlSeconds now) trace s) (modestly : ttlSeconds ≤ longest)
    (configured : ∀ entry ∈ trace, modest longest entry.2 = true) : Tracked longest s :=
  path.guarded (C := fun _ action => modest longest action = true) configured (tracked_initial modestly now)
    tracked_step

def Settles (s next : State) : Prop :=
  ∃ later, Runs s later next ∧ ∀ entry ∈ later, unattended entry.2 = true

theorem Settles.refl (s : State) : Settles s s := ⟨[],.nil,List.forall_mem_nil _⟩

theorem Settles.single (permitted : allowed s action = true) (own : unattended action = true) :
    Settles s (apply s action) :=
  ⟨_,.single ⟨permitted,rfl⟩,List.forall_mem_singleton.mpr own⟩

theorem Settles.trans (one : Settles s middle) (two : Settles middle next) : Settles s next := by
  obtain ⟨first,left,owned⟩ := one
  obtain ⟨second,right,also⟩ := two
  exact ⟨first ++ second,left.append right,List.forall_mem_append.mpr ⟨owned,also⟩⟩

-- First every task that was launched gets mutex_, before any time passes.
def begun (s : State) : Task → Task
  | .starting ttlSeconds => if s.cache.stopsWaiting then .finished else .waiting (s.clock + seconds ttlSeconds)
  | task => task

theorem starts_all (s : State) (front rest : List Task) :
    Settles { s with tasks := front ++ rest } { s with tasks := front ++ rest.map (begun s) } := by
  induction rest generalizing front with
  | nil => exact .refl _
  | cons task rest ih =>
    have others := ih (front ++ [begun s task])
    rw [List.append_assoc,List.append_assoc,List.singleton_append,List.singleton_append] at others
    refine .trans ?_ others
    cases task with
    | waiting | finished => exact .refl _
    | starting ttlSeconds =>
      have found : (front ++ .starting ttlSeconds :: rest)[front.length]? = some (.starting ttlSeconds) := by simp
      have started : apply { s with tasks := front ++ .starting ttlSeconds :: rest } (.start front.length) =
          { s with tasks := front ++ begun s (.starting ttlSeconds) :: rest } := by
        simp only [apply,startTask,found,List.set_append_right _ _ (Nat.le_refl _),Nat.sub_self,
          List.set_cons_zero]
        rfl
      rw [← started]
      exact .single (by simp [allowed]) rfl

def Overdue (limit : Instant) : Task → Prop
  | .starting _ => False
  | .waiting deadline => deadline ≤ limit
  | .finished => True

theorem begun_overdue (s : State) (within : Within longest s.clock task) :
    Overdue (s.clock + seconds longest) (begun s task) := by
  cases task with
  | waiting | finished => exact within
  | starting ttlSeconds =>
    rw [begun]
    split
    · trivial
    · exact Int.add_le_add_left (Int.mul_le_mul_of_nonneg_right within (by decide)) _

theorem begun_unfinished (running : s.cache.shutdown = false) (pending : s.cache.unloadPending = true)
    (unfinished : task ≠ .finished) : begun s task ≠ .finished := by
  cases task with
  | waiting => exact unfinished
  | finished => exact absurd rfl unfinished
  | starting => simp [begun,ModelCache.stopsWaiting,running,pending]

def Emptied (before after : ModelCache) : Prop :=
  before.unloadPending = true ∧ after.unloadPending = false ∧ after.ctx = none ∧
    after.shutdown = before.shutdown

theorem expire_emptied (pending : cache.unloadPending = true) : Emptied cache cache.expire.cache := by
  rcases cache.unloadLocked_cases with ⟨ctx,_,unloads⟩ | ⟨missing,nothing⟩
  · simp [Emptied,ModelCache.expire,unloads,pending]
  · simp [Emptied,ModelCache.expire,nothing,pending,missing]

theorem clock_reaches {clock deadline limit : Int} (passed : clock ≤ limit) (due : deadline ≤ limit) :
    ∃ elapsed : Nat, deadline ≤ clock + elapsed ∧ clock + elapsed ≤ limit :=
  ⟨(deadline - clock).toNat,by omega,by omega⟩

theorem outwaits (running : s.cache.shutdown = false) (passed : s.clock ≤ limit)
    (split : s.tasks = front ++ .waiting deadline :: rest) (due : deadline ≤ limit) :
    ∃ next, Settles s next ∧ next.clock ≤ limit ∧ next.tasks = front ++ .finished :: rest ∧
      next.holders = s.holders ∧ next.draining = s.draining ∧
      (s.cache.unloadPending = false ∧ next.cache = s.cache ∨ Emptied s.cache next.cache) := by
  obtain ⟨elapsed,reached,bounded⟩ := clock_reaches passed due
  have found : (apply s (.tick elapsed)).tasks[front.length]? = some (.waiting deadline) := by
    simp [apply,split]
  have permitted : allowed (apply s (.tick elapsed)) (.wake front.length true) = true := by
    simp only [allowed,found]
    exact decide_eq_true reached
  have finished : s.tasks.set front.length .finished = front ++ .finished :: rest := by
    rw [split,List.set_append_right _ _ (Nat.le_refl _),Nat.sub_self,List.set_cons_zero]
  have woken : apply (apply s (.tick elapsed)) (.wake front.length true) =
      wakeTask (apply s (.tick elapsed)) front.length true := rfl
  refine ⟨_,.trans (.single rfl rfl) (.single permitted rfl),?_⟩
  cases pending : s.cache.unloadPending with
  | false =>
    have stops : (apply s (.tick elapsed)).cache.stopsWaiting = true := by
      simp [apply,ModelCache.stopsWaiting,pending]
    rw [woken,wakeTask,if_pos stops]
    exact ⟨bounded,finished,rfl,rfl,.inl ⟨rfl,rfl⟩⟩
  | true =>
    have stays : ¬ (apply s (.tick elapsed)).cache.stopsWaiting = true := by
      simp [apply,ModelCache.stopsWaiting,pending,running]
    rw [woken,wakeTask,if_neg stays,if_pos rfl]
    exact ⟨bounded,finished,rfl,rfl,.inr (expire_emptied pending)⟩

theorem outwaits_all (running : s.cache.shutdown = false) (passed : s.clock ≤ limit)
    (front rest : List Task) (split : s.tasks = front ++ rest) (due : ∀ task ∈ rest, Overdue limit task) :
    ∃ next, Settles s next ∧ next.clock ≤ limit ∧ next.tasks = front ++ rest.map (fun _ => .finished) ∧
      next.holders = s.holders ∧ next.draining = s.draining ∧
      ((s.cache.unloadPending = true → ∀ task ∈ rest, task = .finished) ∧ next.cache = s.cache ∨
        Emptied s.cache next.cache) := by
  induction rest generalizing s front with
  | nil => exact ⟨s,.refl s,passed,split,rfl,rfl,.inl ⟨fun _ => List.forall_mem_nil _,rfl⟩⟩
  | cons task rest ih =>
    obtain ⟨first,others⟩ := List.forall_mem_cons.mp due
    cases task with
    | starting => exact first.elim
    | finished =>
      obtain ⟨next,settled,clock,tasks,holders,draining,cache⟩ :=
        ih running passed (front ++ [.finished]) (by rw [split,List.append_assoc]; rfl) others
      refine ⟨next,settled,clock,by rw [tasks,List.append_assoc]; rfl,holders,draining,?_⟩
      refine cache.imp_left fun ⟨idle,same⟩ => ⟨fun pending => ?_,same⟩
      exact List.forall_mem_cons.mpr ⟨rfl,idle pending⟩
    | waiting deadline =>
      obtain ⟨middle,moved,clock,tasks,holders,draining,cache⟩ := outwaits running passed split first
      have still : middle.cache.shutdown = false := by
        rcases cache with ⟨_,same⟩ | ⟨_,_,_,same⟩
        · rw [same,running]
        · rw [same,running]
      obtain ⟨next,settled,clock,tasks,holders',draining',after⟩ :=
        ih still clock (front ++ [.finished]) (by rw [tasks,List.append_assoc]; rfl) others
      refine ⟨next,moved.trans settled,clock,by rw [tasks,List.append_assoc]; rfl,
        holders'.trans holders,draining'.trans draining,?_⟩
      rcases cache with ⟨calm,same⟩ | emptied
      · rcases after with ⟨_,kept⟩ | ⟨impossible,_⟩
        · exact .inl ⟨fun pending => (by rw [calm] at pending; cases pending),kept.trans same⟩
        · rw [same,calm] at impossible
          cases impossible
      · rcases after with ⟨_,kept⟩ | ⟨impossible,_⟩
        · exact .inr (kept ▸ emptied)
        · rw [emptied.2.1] at impossible
          cases impossible

theorem drains_all (ended : ∀ task ∈ s.tasks, task = .finished)
    (inside : ∀ task ∈ s.draining, task < s.tasks.length) : Settles s { s with draining := [] } := by
  generalize waiting : s.draining = tasks at inside
  induction tasks generalizing s with
  | nil =>
    rw [← waiting]
    exact .refl s
  | cons task rest ih =>
    obtain ⟨here,others⟩ := List.forall_mem_cons.mp inside
    have finished : s.tasks[task]? = some .finished := by
      rw [List.getElem?_eq_getElem here,ended _ (List.getElem_mem here)]
    have drained : (apply s (.drain task)).draining = rest := by simp [apply,waiting]
    have permitted : allowed s (.drain task) = true := by simp [allowed,waiting,finished]
    exact .trans (.single permitted rfl) (ih (s := apply s (.drain task)) ended drained others)

-- Left alone, the releases that wait for a task return, every task ends and an
-- idle model is freed, all within the longest time to live there has been.
theorem idle_model_unloaded (path : Runs (initial ttlSeconds now) trace s) (positive : 0 ≤ longest)
    (modestly : ttlSeconds ≤ longest) (configured : ∀ entry ∈ trace, modest longest entry.2 = true) :
    ∃ later next, Runs s later next ∧ (∀ entry ∈ later, unattended entry.2 = true) ∧
      next.clock ≤ s.clock + seconds longest ∧ next.draining = [] ∧ (∀ task ∈ next.tasks, task = .finished) ∧
      next.holders = s.holders ∧
      next.cache.ctx = if s.cache.unloadPending then none else s.cache.ctx := by
  have tracked := runs_tracked path modestly configured
  have started : Settles s { s with tasks := s.tasks.map (begun s) } := starts_all s [] s.tasks
  have due : ∀ task ∈ s.tasks.map (begun s), Overdue (s.clock + seconds longest) task :=
    List.forall_mem_map.mpr fun task present => begun_overdue s (tracked.within task present)
  have passed : s.clock ≤ s.clock + seconds longest :=
    Int.le_add_of_nonneg_right (Int.mul_nonneg positive (by decide))
  obtain ⟨middle,waited,clock,tasks,holders,draining,cache⟩ :=
    outwaits_all (s := { s with tasks := s.tasks.map (begun s) }) tracked.running passed [] _ rfl due
  have ended : ∀ task ∈ middle.tasks, task = .finished := by
    rw [tasks]
    exact List.forall_mem_map.mpr fun _ _ => rfl
  have inside : ∀ task ∈ middle.draining, task < middle.tasks.length := by
    rw [draining,tasks]
    simpa using tracked.draining
  obtain ⟨later,ran,owned⟩ := (started.trans waited).trans (drains_all ended inside)
  refine ⟨later,_,ran,owned,clock,rfl,ended,holders,?_⟩
  rcases cache with ⟨idle,same⟩ | ⟨pending,_,emptied,_⟩
  · have calm : s.cache.unloadPending = false := by
      refine Bool.eq_false_iff.mpr fun pending => ?_
      obtain ⟨task,present,unfinished⟩ := tracked.armed pending
      exact begun_unfinished tracked.running pending unfinished
        (idle pending _ (List.mem_map_of_mem present))
    simp [calm,same]
  · have set : s.cache.unloadPending = true := pending
    simp [set,emptied]

-- The model is released twice, and the second release waits for the first one's task.
def supersededSchedule : List Action :=
  [.acquire (bytes "model.bin") true,.release 0,.start 0,.acquire (bytes "model.bin") true,.release 0]

theorem idle_model_unloaded_superseded : ∃ trace s, Runs (initial 300 0) trace s ∧
    trace.map Prod.snd = supersededSchedule ∧ s.draining = [0] ∧ s.cache.ctx = some 0 ∧
    ∃ later next, Runs s later next ∧ (∀ entry ∈ later, unattended entry.2 = true) ∧
      next.clock ≤ s.clock + seconds 300 ∧ next.draining = [] ∧ (∀ task ∈ next.tasks, task = .finished) ∧
      next.holders = s.holders ∧ next.cache.ctx = if s.cache.unloadPending then none else s.cache.ctx := by
  obtain ⟨s,ran,waits,loaded⟩ : ∃ s, Machine.replay advance (fun _ action => modest 300 action)
      (initial 300 0) supersededSchedule = some s ∧ s.draining = [0] ∧ s.cache.ctx = some 0 :=
    ⟨_,rfl,rfl,rfl⟩
  obtain ⟨trace,same,path,configured⟩ := Machine.replay_sound advance_exact.mp ran
  exact ⟨trace,s,path,same,waits,loaded,idle_model_unloaded path (by decide) (by decide) configured⟩

end JotaTranscriber.IdleUnload

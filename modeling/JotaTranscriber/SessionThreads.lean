import JotaTranscriber.ConnectionAccounting

-- The vector of thread handles that main joins at shutdown.
namespace JotaTranscriber.SessionThreads
open AcceptLoop ConnectionAccounting

variable {maxTotal maxPerIp : Nat} {trace past : List (State × Action)} {s next : State} {action : Action}

-- emplace_back succeeds exactly where the thread starts, and nothing is ever
-- taken out: join() leaves the element in place.
def emplaced : State × Action → Option Connection
  | (s,.spawn true) =>
    match s.main with
    | .spawning connection => some connection
    | _ => none
  | _ => none

def sessionThreads (trace : List (State × Action)) : List Connection := trace.filterMap emplaced

-- The sessions that have ended fit into the slots that are free with the new
-- connection counted.
def fits (s : State) : Action → Bool
  | .spawn true => s.finished.length + s.limiter.total ≤ s.limiter.maxTotal
  | _ => true

theorem sessionThreads_snoc (past : List (State × Action)) (s : State) (action : Action) :
    sessionThreads (past ++ [(s,action)]) = sessionThreads past ++ (emplaced (s,action)).toList := by
  rw [sessionThreads,List.filterMap_append]
  cases started : emplaced (s,action) with
  | none => simp [sessionThreads,started]
  | some connection => simp [sessionThreads,started]

theorem emplaced_step (move : Move s action next) :
    next.serving.length + next.finished.length =
      s.serving.length + s.finished.length + (emplaced (s,action)).toList.length := by
  cases move with
  | spawn pc => simp [emplaced,pc]; omega
  | @finish connection _ present =>
    have length := List.length_erase_of_mem present
    have positive := List.length_pos_of_mem present
    simp only [emplaced,List.length_cons,Option.toList_none,List.length_nil]
    omega
  | _ => rfl

theorem sessionThreads_length (path : Runs (initial maxTotal maxPerIp) trace s) :
    (sessionThreads trace).length = s.serving.length + s.finished.length := by
  induction path with
  | nil => rfl
  | @step trace middle action after prior one ih =>
    rw [sessionThreads_snoc,List.length_append,ih,emplaced_step one.2]

theorem spawn_length (path : Runs (initial maxTotal maxPerIp) past s) (move : Move s (.spawn true) next) :
    (sessionThreads (past ++ [(s,.spawn true)])).length = s.finished.length + s.limiter.total := by
  have counted := (runs_accounted path).counts.total
  cases move with
  | @spawn _ connection pc =>
    rw [sessionThreads_snoc,List.length_append,sessionThreads_length path]
    simp only [live,pc,pending,emplaced,List.map_append,List.length_append,List.length_map,
      List.length_singleton,Option.toList_some] at counted ⊢
    omega

theorem unchanged (past : List (State × Action)) (s : State) (calm : action ≠ .spawn true) :
    sessionThreads (past ++ [(s,action)]) = sessionThreads past ∧ fits s action = true := by
  rw [sessionThreads_snoc]
  cases action with
  | spawn succeeds =>
    cases succeeds with
    | true => exact absurd rfl calm
    | false => exact ⟨List.append_nil _,rfl⟩
  | _ => exact ⟨List.append_nil _,rfl⟩

theorem fits_iff (path : Runs (initial maxTotal maxPerIp) past s) (move : Move s (.spawn true) next) :
    fits s (.spawn true) = true ↔ (sessionThreads (past ++ [(s,.spawn true)])).length ≤ maxTotal := by
  rw [spawn_length path move,fits,decide_eq_true_iff,(runs_accounted path).maxTotal]

theorem bounded_iff (path : Runs (initial maxTotal maxPerIp) trace s) :
    (sessionThreads trace).length ≤ maxTotal ↔ ∀ entry ∈ trace, fits entry.1 entry.2 = true := by
  induction path with
  | nil => exact iff_of_true (Nat.zero_le _) (List.forall_mem_nil _)
  | @step trace middle action after prior one ih =>
    rw [List.forall_mem_append,List.forall_mem_singleton,← ih]
    by_cases spawns : action = .spawn true
    · subst spawns
      rw [fits_iff prior one.2,sessionThreads_snoc,List.length_append]
      omega
    · obtain ⟨same,met⟩ := unchanged trace middle spawns
      rw [same]
      exact ⟨fun bounded => ⟨bounded,met⟩,And.left⟩

theorem thread_handles_bounded_iff (path : Runs (initial maxTotal maxPerIp) trace s) :
    (∀ past, past <+: trace → (sessionThreads past).length ≤ maxTotal) ↔
      ∀ entry ∈ trace, fits entry.1 entry.2 = true := by
  rw [← bounded_iff path]
  constructor
  · intro always
    exact always trace (List.prefix_refl trace)
  · intro bounded past earlier
    exact Nat.le_trans (earlier.sublist.filterMap emplaced).length_le bounded

theorem thread_handles_bounded_iff_full_day : ∃ trace s, trace.map Prod.snd = fullDay ∧
    Runs (initial 8 1) trace s ∧ ∀ past, past <+: trace → (sessionThreads past).length ≤ 8 := by
  obtain ⟨s,ran⟩ : ∃ s, Machine.replay advance fits (initial 8 1) fullDay = some s := ⟨_,rfl⟩
  obtain ⟨trace,same,path,fitting⟩ := Machine.replay_sound advance_sound ran
  exact ⟨trace,s,same,path,(thread_handles_bounded_iff path).mpr fitting⟩

-- One connection at a time, twice: no slot is in use twice, and the vector
-- keeps both handles.
def twoInTurn : List Action :=
  [.check,.accept .connected,.remoteEndpoint (some localhost),.isTrusted false,.tryAcquire,.spawn true,
    .finish ⟨0,localhost,false⟩,
    .check,.accept .connected,.remoteEndpoint (some localhost),.isTrusted false,.tryAcquire,.spawn true]

theorem ended_sessions_keep_handles : ∃ trace s, trace.map Prod.snd = twoInTurn ∧
    Runs (initial 1 1) trace s ∧ s.limiter.total = 1 ∧
    ¬ ∀ past, past <+: trace → (sessionThreads past).length ≤ 1 := by
  obtain ⟨s,ran,total,kept⟩ : ∃ s, run (initial 1 1) twoInTurn = some s ∧ s.limiter.total = 1 ∧
      s.serving.length + s.finished.length = 2 := ⟨_,rfl,rfl,rfl⟩
  obtain ⟨trace,same,path⟩ := run_sound ran
  refine ⟨trace,s,same,path,total,?_⟩
  intro always
  have bounded := always trace (List.prefix_refl trace)
  rw [sessionThreads_length path,kept] at bounded
  cases Nat.le_of_succ_le_succ bounded

end JotaTranscriber.SessionThreads

import Mathlib.Data.List.Basic

namespace Machine
variable {State Action : Type}

-- A trace keeps the state every action was taken in, so that a condition on
-- the steps of a run is a condition on the members of its trace.
inductive Runs (Step : State → Action → State → Prop) :
    State → List (State × Action) → State → Prop where
  | nil : Runs Step s [] s
  | step : Runs Step origin trace middle → Step middle action after →
      Runs Step origin (trace ++ [(middle,action)]) after

variable {Step : State → Action → State → Prop} {origin middle after : State}
  {trace earlier later : List (State × Action)}

theorem Runs.single (one : Step s action next) : Runs Step s [(s,action)] next := by
  simpa using Runs.step .nil one

theorem Runs.append (left : Runs Step origin earlier middle) (right : Runs Step middle later after) :
    Runs Step origin (earlier ++ later) after := by
  induction right with
  | nil => rwa [List.append_nil]
  | step _ one extended =>
    rw [← List.append_assoc]
    exact .step extended one

-- The invariant may speak about the trace so far, and the step rule may use
-- whatever condition the steps of this particular run are known to meet.
theorem Runs.history {I : List (State × Action) → State → Prop} {C : State → Action → Prop}
    (path : Runs Step origin trace after) (allowed : ∀ entry ∈ trace, C entry.1 entry.2)
    (initial : I [] origin)
    (preserved : ∀ {past s action next}, Runs Step origin past s → I past s → C s action →
      Step s action next → I (past ++ [(s,action)]) next) : I trace after := by
  induction path with
  | nil => exact initial
  | @step trace middle action after prior one ih =>
    have before : ∀ entry ∈ trace, C entry.1 entry.2 :=
      fun entry member => allowed entry (List.mem_append_left _ member)
    exact preserved prior (ih before) (allowed (middle,action) (by simp)) one

theorem Runs.guarded {I : State → Prop} {C : State → Action → Prop}
    (path : Runs Step origin trace after) (allowed : ∀ entry ∈ trace, C entry.1 entry.2)
    (initial : I origin)
    (preserved : ∀ {s action next}, I s → C s action → Step s action next → I next) : I after :=
  path.history (I := fun _ s => I s) allowed initial
    (fun _ valid permitted one => preserved valid permitted one)

theorem Runs.invariant {I : State → Prop} (path : Runs Step origin trace after)
    (initial : I origin) (preserved : ∀ {s action next}, I s → Step s action next → I next) :
    I after :=
  path.guarded (C := fun _ _ => True) (fun _ _ => trivial) initial
    (fun valid _ one => preserved valid one)

-- Every entry of a trace was a step of the run: its state was reached by the
-- part of the trace before it and its action led on from there.
theorem Runs.split (path : Runs Step origin trace after) (position : trace = earlier ++ (s,action) :: later) :
    Runs Step origin earlier s ∧ ∃ next, Step s action next := by
  induction path generalizing later with
  | nil => simp at position
  | @step trace middle taken after prior one ih =>
    rcases List.eq_nil_or_concat later with rfl | ⟨front,last,rfl⟩
    · obtain ⟨rfl,same⟩ := List.append_inj' position rfl
      cases same
      exact ⟨prior,after,one⟩
    · have shorter : trace = earlier ++ (s,action) :: front := by
        rw [List.concat_eq_append,← List.cons_append,← List.append_assoc] at position
        exact (List.append_inj' position rfl).1
      exact ih shorter

theorem Runs.member (path : Runs Step origin trace after) (present : (s,action) ∈ trace) :
    ∃ past next, Runs Step origin past s ∧ past <+: trace ∧ Step s action next := by
  obtain ⟨earlier,later,position⟩ := List.append_of_mem present
  obtain ⟨reached,next,led⟩ := path.split position
  exact ⟨earlier,next,reached,position ▸ List.prefix_append _ _,led⟩

theorem Runs.rest (path : Runs Step origin trace after) (position : trace = earlier ++ (s,action) :: later) :
    ∃ next, Step s action next ∧ Runs Step next later after := by
  induction path generalizing later with
  | nil => simp at position
  | @step trace middle taken after prior one ih =>
    rcases List.eq_nil_or_concat later with rfl | ⟨front,last,rfl⟩
    · obtain ⟨rfl,same⟩ := List.append_inj' position rfl
      cases same
      exact ⟨after,one,.nil⟩
    · rw [List.concat_eq_append,← List.cons_append,← List.append_assoc] at position
      obtain ⟨shorter,same⟩ := List.append_inj' position rfl
      obtain ⟨next,led,rest⟩ := ih shorter
      cases same
      exact ⟨next,led,List.concat_eq_append ▸ rest.step one⟩

-- Two runs of one machine that took the same steps are in the same state.
theorem Runs.deterministic (left : Runs Step origin trace middle) (right : Runs Step origin trace after)
    (functional : ∀ s action next other, Step s action next → Step s action other → next = other) :
    middle = after := by
  cases left with
  | nil =>
    generalize empty : [] = found at right
    cases right with
    | nil => rfl
    | step => simp at empty
  | step _ one =>
    generalize same : _ ++ [_] = found at right
    cases right with
    | nil => simp at same
    | step _ other =>
      obtain ⟨_,last⟩ := List.append_inj' same rfl
      cases last
      exact functional _ _ _ _ one other

-- A schedule replayed through an executable step, as long as each step is
-- permitted.
def replay (advance : State → Action → Option State) (permitted : State → Action → Bool) (s : State) :
    List Action → Option State
  | [] => some s
  | action :: rest =>
    if permitted s action then (advance s action).bind fun next => replay advance permitted next rest
    else none

def visited (advance : State → Action → Option State) (s : State) : List Action → List (State × Action)
  | [] => []
  | action :: rest =>
    (s,action) :: ((advance s action).map fun next => visited advance next rest).getD []

theorem replay_visited {advance : State → Action → Option State} {permitted : State → Action → Bool}
    (sound : ∀ {s action next}, advance s action = some next → Step s action next)
    (ran : replay advance permitted s actions = some next) :
    (visited advance s actions).map Prod.snd = actions ∧
      Runs Step s (visited advance s actions) next ∧
      ∀ entry ∈ visited advance s actions, permitted entry.1 entry.2 = true := by
  induction actions generalizing s with
  | nil => cases ran; exact ⟨rfl,.nil,List.forall_mem_nil _⟩
  | cons action rest ih =>
    simp only [replay] at ran
    split at ran
    · rename_i met
      obtain ⟨middle,first,others⟩ := Option.bind_eq_some_iff.mp ran
      obtain ⟨same,path,kept⟩ := ih others
      have unfolded : visited advance s (action :: rest) = (s,action) :: visited advance middle rest := by
        simp [visited,first]
      rw [unfolded]
      refine ⟨by simp [same],(Runs.single (sound first)).append path,?_⟩
      intro entry present
      rcases List.mem_cons.mp present with rfl | later
      · exact met
      · exact kept entry later
    · cases ran

theorem replay_sound {advance : State → Action → Option State} {permitted : State → Action → Bool}
    (sound : ∀ {s action next}, advance s action = some next → Step s action next)
    (ran : replay advance permitted s actions = some next) :
    ∃ trace, trace.map Prod.snd = actions ∧ Runs Step s trace next ∧
      ∀ entry ∈ trace, permitted entry.1 entry.2 = true :=
  ⟨_,replay_visited sound ran⟩

-- The trace of a machine whose every action can be taken in every state.
def trail (advance : State → Action → State) (s : State) : List Action → List (State × Action)
  | [] => []
  | action :: rest => (s,action) :: trail advance (advance s action) rest

theorem runs_trail (advance : State → Action → State) (s : State) (actions : List Action) :
    Runs (fun s action next => next = advance s action) s (trail advance s actions)
      (actions.foldl advance s) := by
  induction actions generalizing s with
  | nil => exact .nil
  | cons action rest ih => exact (Runs.single rfl).append (ih (advance s action))

-- A log in which every entry is justified by the entries before it.
def Justified {Entry : Type} (P : List Entry → Entry → Prop) (log : List Entry) : Prop :=
  ∀ before entry after, log = before ++ entry :: after → P before entry

section Logs
variable {Entry : Type} {P : List Entry → Entry → Prop} {log new : List Entry}

theorem justified_nil : Justified P [] := by
  intro before entry after empty
  simp at empty

theorem justified_append :
    Justified P (log ++ new) ↔ Justified P log ∧ Justified (fun before => P (log ++ before)) new := by
  constructor
  · intro justified
    refine ⟨?_,?_⟩
    · rintro before entry after rfl
      exact justified before entry (after ++ new) (by simp)
    · rintro before entry after rfl
      exact justified (log ++ before) entry after (by simp)
  · rintro ⟨old,recent⟩ before entry after split
    rcases List.append_eq_append_iff.mp split with ⟨middle,rfl,later⟩ | ⟨middle,rfl,later⟩
    · exact recent middle entry after later
    · cases middle with
      | nil => simpa using recent [] entry after (by simpa using later.symm)
      | cons head rest =>
        cases later
        exact old before entry rest rfl

theorem justified_singleton {entry : Entry} : Justified P [entry] ↔ P [] entry := by
  constructor
  · intro justified
    exact justified [] entry [] rfl
  · rintro holds before found after split
    cases before with
    | nil => cases split; exact holds
    | cons head rest => simp at split

end Logs
end Machine

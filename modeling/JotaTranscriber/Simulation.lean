import JotaTranscriber.Machine

-- A machine that keeps to another one: a step with a label is a step of the
-- other machine, and any other step is none of its business.
namespace Machine
variable {State Action Spec Label : Type}

structure Simulation (Step : State → Action → State → Prop) (Abstract : Spec → Label → Spec → Prop)
    (R : State → Spec → Prop) (label : State → Action → Option Label) : Prop where
  seen : ∀ {s spec action next name}, R s spec → Step s action next → label s action = some name →
    ∃ later, Abstract spec name later ∧ R next later
  unseen : ∀ {s spec action next}, R s spec → Step s action next → label s action = none → R next spec

def labels (label : State → Action → Option Label) (trace : List (State × Action)) : List Label :=
  trace.filterMap fun entry => label entry.1 entry.2

variable {Step : State → Action → State → Prop} {Abstract : Spec → Label → Spec → Prop}
  {R : State → Spec → Prop} {label : State → Action → Option Label} {origin after : State} {spec : Spec}
  {trace : List (State × Action)}

theorem Simulation.runs (simulation : Simulation Step Abstract R label)
    (path : Runs Step origin trace after) (related : R origin spec) :
    ∃ steps later, Runs Abstract spec steps later ∧ steps.map Prod.snd = labels label trace ∧
      R after later := by
  induction path with
  | nil => exact ⟨[],spec,.nil,rfl,related⟩
  | @step trace middle action after prior one ih =>
    obtain ⟨steps,reached,abstract,same,between⟩ := ih
    have split : labels label (trace ++ [(middle,action)]) =
        labels label trace ++ labels label [(middle,action)] := List.filterMap_append
    cases named : label middle action with
    | none =>
      refine ⟨steps,reached,abstract,?_,simulation.unseen between one named⟩
      rw [split,same]
      simp [labels,named]
    | some name =>
      obtain ⟨later,led,now⟩ := simulation.seen between one named
      refine ⟨_,later,.step abstract led,?_,now⟩
      rw [split,List.map_append,same]
      simp [labels,named]

-- A change of names that no step notices.
theorem Runs.map {f : State → Spec} {g : Action → Label} {Renamed : Spec → Label → Spec → Prop}
    (unnoticed : ∀ {s action next}, Step s action next → Renamed (f s) (g action) (f next))
    (path : Runs Step origin trace after) :
    Runs Renamed (f origin) (trace.map fun entry => (f entry.1,g entry.2)) (f after) := by
  induction path with
  | nil => exact .nil
  | step prior one ih =>
    rw [List.map_append]
    exact .step ih (unnoticed one)

end Machine

import Mathlib.Data.List.Basic

-- Triples for computations that are known by the effects they leave behind and
-- by how they end. An automaton says which effect may come next.
namespace Effects
variable {State Effect Failure α β : Type}

def follow (permit : State → Effect → Option State) : State → List Effect → Option State
  | s,[] => some s
  | s,effect :: rest => (permit s effect).bind fun next => follow permit next rest

theorem follow_append (permit : State → Effect → Option State) (s : State) (first rest : List Effect) :
    follow permit s (first ++ rest) = (follow permit s first).bind fun middle =>
      follow permit middle rest := by
  induction first generalizing s with
  | nil => rfl
  | cons effect later ih =>
    simp only [List.cons_append,follow,Option.bind_assoc]
    exact Option.bind_congr fun next _ => ih next

-- From P the effects are followed, to Q if a value is returned and to E if the
-- computation is left early.
def Triple (permit : State → Effect → Option State) (P : State → Prop) (effects : List Effect)
    (result : Except Failure α) (Q : α → State → Prop) (E : Failure → State → Prop) : Prop :=
  ∀ s, P s → ∃ after, follow permit s effects = some after ∧
    match result with
    | .ok value => Q value after
    | .error failure => E failure after

variable {permit : State → Effect → Option State} {P : State → Prop} {Q : α → State → Prop}
  {R : β → State → Prop} {E : Failure → State → Prop} {failure : Failure}

theorem Triple.pure (established : ∀ s, P s → Q value s) :
    Triple permit P [] (.ok value) Q E :=
  fun s before => ⟨s,rfl,established s before⟩

theorem Triple.raise (failed : ∀ s, P s → E failure s) :
    Triple permit P [] (.error failure) Q E :=
  fun s before => ⟨s,rfl,failed s before⟩

theorem Triple.single (permitted : ∀ s, P s → ∃ next, permit s effect = some next ∧
      match result with
      | .ok value => Q value next
      | .error failure => E failure next) :
    Triple permit P [effect] result Q E := by
  intro s before
  obtain ⟨next,allowed,reached⟩ := permitted s before
  exact ⟨next,by simp [follow,allowed],reached⟩

theorem Triple.bind (first : Triple permit P effects (.ok value) Q E)
    (rest : Triple permit (Q value) later result R E) :
    Triple permit P (effects ++ later) result R E := by
  intro s before
  obtain ⟨middle,ran,reached⟩ := first s before
  obtain ⟨after,followed,ended⟩ := rest middle reached
  exact ⟨after,by rw [follow_append,ran]; exact followed,ended⟩

theorem Triple.given {H : Prop} (known : H → Triple permit P effects result Q E) :
    Triple permit (fun s => P s ∧ H) effects result Q E :=
  fun s before => known before.2 s before.1

theorem Triple.cut (first : Triple permit P effects (.error failure) Q E) :
    Triple permit P effects (.error failure) R E := first

-- A release that is performed however the scope is left.
theorem Triple.finally {Q' : α → State → Prop} {E' : Failure → State → Prop} {result : Except Failure α}
    (body : Triple permit P effects result Q' E')
    (returned : ∀ value s, Q' value s → ∃ next, permit s release = some next ∧ Q value next)
    (failed : ∀ failure s, E' failure s → ∃ next, permit s release = some next ∧ E failure next) :
    Triple permit P (effects ++ [release]) result Q E := by
  intro s before
  obtain ⟨middle,ran,reached⟩ := body s before
  have closes (next : State) (allowed : permit middle release = some next) :
      follow permit s (effects ++ [release]) = some next := by
    simp [follow_append,ran,follow,allowed]
  cases result with
  | ok value =>
    obtain ⟨next,allowed,ended⟩ := returned value middle reached
    exact ⟨next,closes next allowed,ended⟩
  | error failure =>
    obtain ⟨next,allowed,ended⟩ := failed failure middle reached
    exact ⟨next,closes next allowed,ended⟩

theorem Triple.recover {E' : Failure → State → Prop} {fallback : α}
    (body : Triple permit P effects (.error failure) Q E')
    (recovered : ∀ s, E' failure s → Q fallback s) : Triple permit P effects (.ok fallback) Q E := by
  intro s before
  obtain ⟨after,ran,reached⟩ := body s before
  exact ⟨after,ran,recovered after reached⟩

-- The automaton without a memory.
open Classical in
noncomputable def only (P : Effect → Prop) (_ : Unit) (effect : Effect) : Option Unit :=
  if P effect then some () else none

end Effects

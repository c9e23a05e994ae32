import Mathlib.Data.List.Basic

-- A machine that answers each input with outputs of its own number, may refuse
-- an input, and may owe outputs until it is told that the input has ended.
structure Transducer (In Out : Type) where
  State : Type
  initial : State
  step : State → In → Option (List Out × State)
  finish : State → List Out

namespace Transducer
variable {In Out : Type} (machine : Transducer In Out)

-- What comes out while the inputs are read, and the state they lead to.
def run (state : machine.State) : List In → Option (List Out × machine.State)
  | [] => some ([],state)
  | input :: rest =>
    match machine.step state input with
    | none => none
    | some (out,next) => (run next rest).map fun later => (out ++ later.1,later.2)

-- All that comes out, the end of the input included.
def output (inputs : List In) : Option (List Out) :=
  (machine.run machine.initial inputs).map fun ran => ran.1 ++ machine.finish ran.2

variable {machine} {state next after : machine.State} {inputs rest : List In} {input : In}
  {out : List Out}

theorem run_cons (stepped : machine.step state input = some (out,next)) :
    machine.run state (input :: rest) =
      (machine.run next rest).map fun later => (out ++ later.1,later.2) := by
  rw [run,stepped]

theorem run_cons_iff : machine.run state (input :: rest) = some (out,after) ↔
    ∃ first middle later, machine.step state input = some (first,middle) ∧
      machine.run middle rest = some (later,after) ∧ out = first ++ later := by
  constructor
  · intro ran
    rw [run] at ran
    split at ran
    · cases ran
    · rename_i first middle stepped
      obtain ⟨later,ended,same⟩ := Option.map_eq_some_iff.mp ran
      cases same
      exact ⟨first,middle,later.1,stepped,ended,rfl⟩
  · rintro ⟨first,middle,later,stepped,ended,rfl⟩
    rw [run_cons stepped,ended]
    rfl

end Transducer

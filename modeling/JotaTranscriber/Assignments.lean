import Mathlib.Data.List.Basic
import Mathlib.Logic.Function.Basic

-- A record whose fields are assigned in turn, each from a text that may not be
-- readable as a value of the field.
namespace Assignments
variable {Field Raw : Type} {Value : Field → Type}

-- What a field holds in the end: its last assignment, or what it held before.
def Holds (read : (field : Field) → Raw → Option (Value field)) (before after : (field : Field) → Value field)
    (field : Field) : Option Raw → Prop
  | none => after field = before field
  | some raw => read field raw = some (after field)

variable {read : (field : Field) → Raw → Option (Value field)} {record after : (field : Field) → Value field}

theorem Holds.total {value : Raw → Value field} (total : ∀ raw, read field raw = some (value raw))
    (holds : Holds read record after field said) : after field = (said.map value).getD (record field) := by
  cases said with
  | none => exact holds
  | some raw => exact (Option.some.inj ((total raw).symm.trans holds)).symm

variable [DecidableEq Field]

def assign (read : (field : Field) → Raw → Option (Value field)) (record : (field : Field) → Value field)
    (entry : Field × Raw) : Option ((field : Field) → Value field) :=
  (read entry.1 entry.2).map (Function.update record entry.1)

def assignAll (read : (field : Field) → Raw → Option (Value field)) (record : (field : Field) → Value field)
    (log : List (Field × Raw)) : Option ((field : Field) → Value field) :=
  log.foldlM (assign read) record

def latest (log : List (Field × Raw)) (field : Field) : Option Raw := log.reverse.lookup field

theorem latest_append (first second : List (Field × Raw)) (field : Field) :
    latest (first ++ second) field = (latest second field).or (latest first field) := by
  rw [latest,List.reverse_append,List.lookup_append]
  rfl

@[simp] theorem latest_nil (field : Field) : latest ([] : List (Field × Raw)) field = none := rfl

theorem latest_cons (entry : Field × Raw) (log : List (Field × Raw)) (field : Field) :
    latest (entry :: log) field = (latest log field).or (if field = entry.1 then some entry.2 else none) := by
  obtain ⟨own,raw⟩ := entry
  rw [← List.singleton_append,latest_append]
  congr 1
  by_cases same : field = own
  · subst same
    simp [latest]
  · simp [latest,List.lookup_cons,same,beq_false_of_ne same]

theorem latest_none {log : List (Field × Raw)} (absent : ∀ entry ∈ log, entry.1 ≠ field) :
    latest log field = none :=
  List.lookup_eq_none_iff.mpr fun entry present =>
    bne_iff_ne.mpr (absent entry (List.mem_reverse.mp present)).symm

theorem assignAll_singleton (entry : Field × Raw) :
    assignAll read record [entry] = assign read record entry := by
  rw [assignAll,List.foldlM_cons]
  exact Option.bind_fun_some _

theorem assignAll_append (first second : List (Field × Raw)) :
    assignAll read record (first ++ second) =
      (assignAll read record first).bind fun between => assignAll read between second :=
  List.foldlM_append

theorem assignAll_iff (log : List (Field × Raw)) : assignAll read record log = some after ↔
    (∀ entry ∈ log, (read entry.1 entry.2).isSome) ∧ ∀ field, Holds read record after field (latest log field) := by
  induction log generalizing record with
  | nil =>
    simp only [assignAll,List.foldlM_nil,latest_nil,Holds]
    constructor
    · intro same
      cases same
      exact ⟨fun _ impossible => absurd impossible List.not_mem_nil,fun _ => rfl⟩
    · rintro ⟨_,same⟩
      exact congrArg some (funext fun field => (same field).symm)
  | cons entry rest ih =>
    rw [assignAll,List.foldlM_cons,assign]
    cases value : read entry.1 entry.2 with
    | none => simp [value]
    | some value' =>
      have assigned : ((some (Function.update record entry.1 value')).bind fun record =>
          rest.foldlM (assign read) record) = assignAll read (Function.update record entry.1 value') rest := rfl
      simp only [Option.map_some,bind,assigned,ih,List.forall_mem_cons,value,Option.isSome_some,true_and]
      refine and_congr_right fun _ => forall_congr' fun field => ?_
      rw [latest_cons]
      cases latest rest field with
      | some raw => exact Iff.rfl
      | none =>
        by_cases same : field = entry.1
        · subst same
          simp [Holds,value,eq_comm]
        · simp [Holds,same]

end Assignments

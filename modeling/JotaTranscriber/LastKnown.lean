import Mathlib.Data.List.AList

-- A table that keeps, for each key, the last value reported for it. A report
-- without a value is a failure and leaves the table as it is.
abbrev LastKnown (Key Value : Type) := AList (fun _ : Key => Value)

namespace LastKnown
variable {Key Value : Type} [DecidableEq Key] {key : Key}

abbrev Report (Key Value : Type) := Key × Option Value

def record (table : LastKnown Key Value) (report : Report Key Value) : LastKnown Key Value :=
  match report.2 with
  | some value => table.insert report.1 value
  | none => table

def recordAll (table : LastKnown Key Value) (reports : List (Report Key Value)) : LastKnown Key Value :=
  reports.foldl record table

-- Entries of the first table replace those of the second, one after the other.
def merge (new old : LastKnown Key Value) : LastKnown Key Value :=
  new.entries.foldl (fun table entry => table.insert entry.1 entry.2) old

def latest (key : Key) : List (Report Key Value) → Option Value
  | [] => none
  | report :: rest => (latest key rest).or (if report.1 = key then report.2 else none)

theorem latest_append (first second : List (Report Key Value)) :
    latest key (first ++ second) = (latest key second).or (latest key first) := by
  induction first with
  | nil => simp [latest]
  | cons report rest ih =>
    rw [List.cons_append,latest,ih,latest,Option.or_assoc]

theorem lookup_record (table : LastKnown Key Value) (report : Report Key Value) :
    (record table report).lookup key =
      (if report.1 = key then report.2 else none).or (table.lookup key) := by
  unfold record
  cases given : report.2 with
  | none => simp
  | some value =>
    by_cases own : report.1 = key
    · subst own
      simp
    · rw [AList.lookup_insert_ne (Ne.symm own),if_neg own,Option.none_or]

theorem lookup_recordAll (table : LastKnown Key Value) (reports : List (Report Key Value)) :
    (recordAll table reports).lookup key = (latest key reports).or (table.lookup key) := by
  induction reports generalizing table with
  | nil => simp [recordAll,latest]
  | cons report rest ih =>
    have later := ih (record table report)
    rw [lookup_record,← Option.or_assoc] at later
    exact later

theorem lookup_foldl_insert (entries : List (Sigma fun _ : Key => Value)) (distinct : entries.NodupKeys)
    (old : LastKnown Key Value) :
    (entries.foldl (fun table entry => table.insert entry.1 entry.2) old).lookup key =
      (entries.dlookup key).or (old.lookup key) := by
  induction entries generalizing old with
  | nil => simp
  | cons entry rest ih =>
    obtain ⟨unique,others⟩ := List.nodupKeys_cons.mp distinct
    rw [List.foldl_cons,ih others]
    obtain ⟨own,value⟩ := entry
    by_cases same : key = own
    · subst same
      rw [List.dlookup_eq_none.mpr unique,List.dlookup_cons_eq,AList.lookup_insert]
      rfl
    · rw [AList.lookup_insert_ne same,List.dlookup_cons_ne rest ⟨own,value⟩ same]

theorem lookup_merge (new old : LastKnown Key Value) :
    (merge new old).lookup key = (new.lookup key).or (old.lookup key) :=
  lookup_foldl_insert new.entries new.nodupKeys old

end LastKnown

import Mathlib.Data.List.Basic

-- Well-formed UTF-8 as an automaton that reads one byte at a time: no overlong
-- forms, no surrogates and nothing above U+10FFFF.
namespace Utf8

-- Between two characters, or inside one: the range of the next byte and how
-- many continuation bytes follow it.
inductive State where
  | start
  | expects (more : Nat) (low high : UInt8)
  deriving DecidableEq, Repr

def lead (byte : UInt8) : Option State :=
  if byte ≤ 0x7F then some .start
  else if 0xC2 ≤ byte ∧ byte ≤ 0xDF then some (.expects 0 0x80 0xBF)
  else if byte = 0xE0 then some (.expects 1 0xA0 0xBF)
  else if byte = 0xED then some (.expects 1 0x80 0x9F)
  else if 0xE1 ≤ byte ∧ byte ≤ 0xEF then some (.expects 1 0x80 0xBF)
  else if byte = 0xF0 then some (.expects 2 0x90 0xBF)
  else if 0xF1 ≤ byte ∧ byte ≤ 0xF3 then some (.expects 2 0x80 0xBF)
  else if byte = 0xF4 then some (.expects 2 0x80 0x8F)
  else none

def continuing : Nat → State
  | 0 => .start
  | more+1 => .expects more 0x80 0xBF

def step : State → UInt8 → Option State
  | .start,byte => lead byte
  | .expects more low high,byte => if low ≤ byte ∧ byte ≤ high then some (continuing more) else none

def run : State → List UInt8 → Option State
  | state,[] => some state
  | state,byte :: rest => (step state byte).bind fun next => run next rest

def valid (text : List UInt8) : Bool := decide (run .start text = some .start)

theorem run_append (state : State) (first second : List UInt8) :
    run state (first ++ second) = (run state first).bind fun middle => run middle second := by
  induction first generalizing state with
  | nil => rfl
  | cons byte rest ih =>
    rw [List.cons_append,run,run]
    cases step state byte with
    | none => rfl
    | some next => exact ih next

def Inside : State → Prop
  | .start => True
  | .expects _ low high => 0x80 ≤ low ∧ high ≤ 0xBF

theorem continuing_inside (more : Nat) : Inside (continuing more) := by
  cases more with
  | zero => trivial
  | succ more => exact ⟨by decide,by decide⟩

theorem lead_inside {byte : UInt8} {next : State} (stepped : lead byte = some next) : Inside next := by
  unfold lead at stepped
  repeat' split at stepped
  all_goals cases stepped
  · trivial
  all_goals exact ⟨by decide,by decide⟩

theorem lead_continuation {byte : UInt8} (low : 0x80 ≤ byte) (high : byte ≤ 0xBF) : lead byte = none := by
  have bounds : 0x80 ≤ byte.toNat ∧ byte.toNat ≤ 0xBF := ⟨low,high⟩
  unfold lead
  simp only [UInt8.le_iff_toNat_le,← UInt8.toNat_inj]
  repeat' rw [if_neg (by simp; omega)]

theorem run_inside {state next : State} {text : List UInt8} (inside : Inside state)
    (ran : run state text = some next) : Inside next := by
  induction text generalizing state with
  | nil =>
    cases ran
    exact inside
  | cons byte rest ih =>
    obtain ⟨middle,stepped,others⟩ := Option.bind_eq_some_iff.mp ran
    refine ih ?_ others
    cases state with
    | start => exact lead_inside stepped
    | expects more low high =>
      simp only [step] at stepped
      split at stepped
      · cases stepped
        exact continuing_inside more
      · cases stepped

theorem valid_iff (text : List UInt8) : valid text = true ↔ run .start text = some .start :=
  decide_eq_true_iff

theorem valid_append_left {first : List UInt8} (well : valid first = true) (second : List UInt8) :
    valid (first ++ second) = valid second := by
  have ran := (valid_iff first).mp well
  rw [valid,run_append,ran]
  rfl

-- A character that is cut off cannot be completed by well-formed text.
theorem valid_append_right {second : List UInt8} (first : List UInt8) (well : valid second = true) :
    valid (first ++ second) = valid first := by
  cases whole : valid first with
  | true => rw [valid_append_left whole,well]
  | false =>
    rw [← Bool.not_eq_true]
    intro joined
    rw [valid_iff,run_append] at joined
    obtain ⟨middle,ran,rest⟩ := Option.bind_eq_some_iff.mp joined
    have inside := run_inside (by trivial : Inside .start) ran
    cases middle with
    | start =>
      rw [(valid_iff first).mpr ran] at whole
      cases whole
    | expects more low high =>
      cases second with
      | nil => cases rest
      | cons byte others =>
        obtain ⟨next,stepped,_⟩ := Option.bind_eq_some_iff.mp rest
        obtain ⟨_,led,_⟩ := Option.bind_eq_some_iff.mp ((valid_iff _).mp well)
        obtain ⟨above,below⟩ := inside
        simp only [step] at stepped led
        split at stepped
        · rename_i between
          obtain ⟨from_low,to_high⟩ := between
          have low : 0x80 ≤ byte := UInt8.le_trans above from_low
          have high : byte ≤ 0xBF := UInt8.le_trans to_high below
          rw [lead_continuation low high] at led
          cases led
        · cases stepped

theorem valid_append {first second : List UInt8} (one : valid first = true) (two : valid second = true) :
    valid (first ++ second) = true := by
  rw [valid_append_left one,two]

theorem valid_flatten {texts : List (List UInt8)} (each : ∀ text ∈ texts, valid text = true) :
    valid texts.flatten = true := by
  induction texts with
  | nil => rfl
  | cons text rest ih =>
    rw [List.flatten_cons,valid_append_left (each text List.mem_cons_self)]
    exact ih fun other present => each other (List.mem_cons_of_mem _ present)

section Characters
variable {n v : Nat}

theorem lead_one (small : n < 0x80) : lead (.ofNat n) = some .start := by
  revert n
  decide

theorem lead_two (high : n < 32) (low : 2 ≤ n) :
    lead (.ofNat (n + 0xC0)) = some (.expects 0 0x80 0xBF) := by
  revert n
  decide

theorem lead_three (small : n < 16) : lead (.ofNat (n + 0xE0)) =
    some (.expects 1 (if n = 0 then 0xA0 else 0x80) (if n = 13 then 0x9F else 0xBF)) := by
  revert n
  decide

theorem lead_four (small : n < 5) : lead (.ofNat (n + 0xF0)) =
    some (.expects 2 (if n = 0 then 0x90 else 0x80) (if n = 4 then 0x8F else 0xBF)) := by
  revert n
  decide

theorem step_tail {more : Nat} {low high : UInt8} (small : n < 64) (above : low.toNat ≤ n + 0x80)
    (below : n + 0x80 ≤ high.toNat) :
    step (.expects more low high) (.ofNat (n + 0x80)) = some (continuing more) := by
  have exact : (UInt8.ofNat (n + 0x80)).toNat = n + 0x80 := by
    rw [UInt8.toNat_ofNat']
    omega
  rw [step,if_pos]
  rw [UInt8.le_iff_toNat_le,UInt8.le_iff_toNat_le,exact]
  exact ⟨above,below⟩

theorem step_continuation {more : Nat} (small : n < 64) :
    step (continuing (more+1)) (.ofNat (n + 0x80)) = some (continuing more) :=
  step_tail small (Nat.le_add_left _ _) (by simp; omega)

theorem run_two (low : 0x80 ≤ v) (high : v ≤ 0x7FF) :
    run .start [.ofNat (v / 64 % 32 + 0xC0),.ofNat (v % 64 + 0x80)] = some .start := by
  have first := lead_two (by omega : v / 64 % 32 < 32) (by omega)
  have second : step (.expects 0 0x80 0xBF) (.ofNat (v % 64 + 0x80)) = some .start :=
    step_continuation (by omega)
  simp only [run,step,first,Option.bind_some] at second ⊢
  rw [second]
  rfl

-- The first continuation byte of a longer form has the narrower range when the
-- lead byte is the first or the last of its kind.
theorem run_three (low : 0x800 ≤ v) (high : v ≤ 0xFFFF) (scalar : v < 0xD800 ∨ 0xDFFF < v) :
    run .start [.ofNat (v / 4096 % 16 + 0xE0),.ofNat (v / 64 % 64 + 0x80),.ofNat (v % 64 + 0x80)] =
      some .start := by
  have first := lead_three (by omega : v / 4096 % 16 < 16)
  have second : step (.expects 1 (if v / 4096 % 16 = 0 then 0xA0 else 0x80)
      (if v / 4096 % 16 = 13 then 0x9F else 0xBF)) (.ofNat (v / 64 % 64 + 0x80)) =
      some (continuing 1) := by
    apply step_tail (by omega)
    · split <;> simp
      omega
    · split <;> simp <;> omega
  have third : step (continuing 1) (.ofNat (v % 64 + 0x80)) = some .start := step_continuation (by omega)
  rw [run,show step .start _ = _ from first,Option.bind_some,run,second,Option.bind_some,run,third]
  rfl

theorem run_four (low : 0x10000 ≤ v) (high : v ≤ 0x10FFFF) :
    run .start [.ofNat (v / 262144 % 8 + 0xF0),.ofNat (v / 4096 % 64 + 0x80),
      .ofNat (v / 64 % 64 + 0x80),.ofNat (v % 64 + 0x80)] = some .start := by
  have first := lead_four (by omega : v / 262144 % 8 < 5)
  have second : step (.expects 2 (if v / 262144 % 8 = 0 then 0x90 else 0x80)
      (if v / 262144 % 8 = 4 then 0x8F else 0xBF)) (.ofNat (v / 4096 % 64 + 0x80)) =
      some (continuing 2) := by
    apply step_tail (by omega)
    · split <;> simp
      omega
    · split <;> simp <;> omega
  have third : step (continuing 2) (.ofNat (v / 64 % 64 + 0x80)) = some (continuing 1) :=
    step_continuation (by omega)
  have fourth : step (continuing 1) (.ofNat (v % 64 + 0x80)) = some .start := step_continuation (by omega)
  rw [run,show step .start _ = _ from first,Option.bind_some,run,second,Option.bind_some,run,third,
    Option.bind_some,run,fourth]
  rfl

-- Every string is accepted, character by character.
theorem valid_character (c : Char) : valid (String.utf8EncodeChar c) = true := by
  rw [valid_iff]
  unfold String.utf8EncodeChar
  dsimp only
  have range : c.val.toNat < 0xD800 ∨ 0xDFFF < c.val.toNat ∧ c.val.toNat < 0x110000 := c.valid
  generalize c.val.toNat = v at *
  split
  · rename_i one
    rw [run,step,lead_one (by omega)]
    rfl
  · split
    · exact run_two (by omega) (by omega)
    · split
      · exact run_three (by omega) (by omega) (by omega)
      · exact run_four (by omega) (by omega)

end Characters

theorem valid_toUTF8 (text : String) : valid text.toUTF8.data.toList = true := by
  obtain ⟨characters,encoded⟩ := text.isValidUTF8
  have whole : text.toUTF8.data.toList = (characters.map String.utf8EncodeChar).flatten := by
    rw [show text.toUTF8 = _ from encoded]
    simp [List.utf8Encode,List.flatMap]
  rw [whole]
  apply valid_flatten
  intro encoding present
  obtain ⟨c,_,rfl⟩ := List.mem_map.mp present
  exact valid_character c

end Utf8

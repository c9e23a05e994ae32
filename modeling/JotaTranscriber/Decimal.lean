import Mathlib.Data.List.Basic

-- Numbers as their decimal digits, byte by byte.
namespace Decimal

abbrev Bytes := List UInt8

def isDigit (byte : UInt8) : Bool := 48 ≤ byte && byte ≤ 57

def magnitude (digits : Bytes) : Nat := digits.foldl (fun n digit => 10 * n + (digit.toNat - 48)) 0

-- A text of digits only, and one with a minus sign in front.
def natural? (value : Bytes) : Option Nat :=
  if value ≠ [] ∧ value.all isDigit then some (magnitude value) else none

def number? (value : Bytes) : Option Int :=
  if value.head? = some 45 then (natural? value.tail).map fun n : Nat => -Int.ofNat n
  else (natural? value).map Int.ofNat

def encoded (text : String) : Bytes := text.toUTF8.data.toList

def decimal (n : Int) : Bytes := encoded (toString n)

def byteOf (c : Char) : UInt8 := c.val.toUInt8

theorem encoded_digits {digits : List Char} (all : ∀ c ∈ digits, c.isDigit = true) :
    encoded (String.ofList digits) = digits.map byteOf := by
  have whole : encoded (String.ofList digits) = digits.flatMap String.utf8EncodeChar := by
    rw [encoded,show (String.ofList digits).toUTF8 = _ from String.toByteArray_ofList]
    simp [List.utf8Encode]
  rw [whole,← List.flatMap_singleton' (digits.map byteOf),List.flatMap_map]
  refine List.flatMap_congr ?_
  intro c present
  have digit := all c present
  simp only [Char.isDigit,Bool.and_eq_true,decide_eq_true_eq] at digit
  have short : c.val ≤ 127 := UInt32.le_trans digit.2 (by decide)
  exact String.utf8EncodeChar_eq_singleton (Char.utf8Size_eq_one_iff.mpr short)

theorem byteOf_digit {c : Char} (digit : c.isDigit = true) :
    48 ≤ byteOf c ∧ byteOf c ≤ 57 ∧ (byteOf c).toNat = c.toNat := by
  simp only [Char.isDigit,Bool.and_eq_true,decide_eq_true_eq,ge_iff_le,UInt32.le_iff_toNat_le] at digit
  have low : 48 ≤ c.val.toNat := digit.1
  have high : c.val.toNat ≤ 57 := digit.2
  have same : (byteOf c).toNat = c.val.toNat := by
    rw [byteOf,UInt32.toNat_toUInt8]
    omega
  simp only [UInt8.le_iff_toNat_le,same]
  exact ⟨low,high,rfl⟩

theorem natural?_digits {digits : List Char} (all : ∀ c ∈ digits, c.isDigit = true) (some_digits : digits ≠ []) :
    natural? (digits.map byteOf) = some (Nat.ofDigitChars 10 digits 0) := by
  have proper : digits.map byteOf ≠ [] ∧ (digits.map byteOf).all isDigit = true := by
    refine ⟨by simpa using some_digits,List.all_eq_true.mpr ?_⟩
    intro byte present
    obtain ⟨c,own,rfl⟩ := List.mem_map.mp present
    obtain ⟨low,high,_⟩ := byteOf_digit (all c own)
    simp only [isDigit,low,high,decide_true,Bool.and_self]
  rw [natural?,if_pos proper,magnitude,List.foldl_map,Nat.ofDigitChars]
  refine congrArg some (List.foldl_ext _ _ _ ?_)
  intro sofar c present
  rw [(byteOf_digit (all c present)).2.2]
  rfl

theorem toDigits_digits (n : Nat) : ∀ c ∈ Nat.toDigits 10 n, c.isDigit = true :=
  fun _ present => Nat.isDigit_of_mem_toDigits (by decide) (by decide) present

theorem encoded_repr (n : Nat) : encoded n.repr = (Nat.toDigits 10 n).map byteOf := by
  rw [Nat.repr_eq_ofList_toDigits,encoded_digits (toDigits_digits n)]

theorem natural?_repr (n : Nat) : natural? (encoded n.repr) = some n := by
  rw [encoded_repr,natural?_digits (toDigits_digits n) Nat.toDigits_ne_nil,Nat.ofDigitChars_ten_toDigits]

theorem encoded_plain {n : Nat} {byte : UInt8} (present : byte ∈ encoded n.repr) : 48 ≤ byte := by
  rw [encoded_repr] at present
  obtain ⟨c,own,rfl⟩ := List.mem_map.mp present
  exact (byteOf_digit (toDigits_digits n c own)).1

theorem decimal_cases (n : Int) :
    (0 ≤ n ∧ decimal n = encoded n.toNat.repr) ∨ (n < 0 ∧ decimal n = 45 :: encoded (-n).toNat.repr) := by
  rw [decimal,Int.toString_eq_repr,Int.repr_eq_if]
  by_cases natural : 0 ≤ n
  · exact .inl ⟨natural,by rw [if_pos natural]⟩
  · refine .inr ⟨Int.not_le.mp natural,?_⟩
    rw [if_neg natural,encoded,show ("-" ++ (-n).toNat.repr).toUTF8 = _ from String.toByteArray_append,
      ByteArray.data_append,Array.toList_append]
    rfl

theorem number?_decimal (n : Int) : number? (decimal n) = some n := by
  rcases decimal_cases n with ⟨natural,same⟩ | ⟨negative,same⟩
  · have unsigned : (encoded n.toNat.repr).head? ≠ some 45 := fun sign =>
      absurd (encoded_plain (List.mem_of_mem_head? sign)) (by decide)
    rw [same,number?,if_neg unsigned,natural?_repr]
    exact congrArg some (Int.toNat_of_nonneg natural)
  · have positive : 0 ≤ -n := Int.neg_nonneg_of_nonpos (Int.le_of_lt negative)
    rw [same,number?,if_pos (by rfl),List.tail_cons,natural?_repr]
    have back : -((-n).toNat : Int) = n := by rw [Int.toNat_of_nonneg positive,Int.neg_neg]
    exact congrArg some back

end Decimal

import JotaTranscriber.Decimal

-- The text of a scrape: lines of comments and of samples, a sample being a name
-- and a number with a blank between them.
namespace Exposition
open Decimal

def newline : UInt8 := 10
def blank : UInt8 := 32
def mark : UInt8 := 35

inductive Line where
  | comment (text : Bytes)
  | sample (name value : Bytes)
  deriving DecidableEq

def Line.spell : Line → Bytes
  | .comment text => mark :: text
  | .sample name value => name ++ blank :: value

def spell (lines : List Line) : Bytes := lines.flatMap fun line => line.spell ++ [newline]

theorem spell_append (first second : List Line) : spell (first ++ second) = spell first ++ spell second :=
  List.flatMap_append

def readLine (line : Bytes) : Line :=
  if line.head? = some mark then .comment line.tail
  else .sample (line.takeWhile (· != blank)) (line.dropWhile (· != blank)).tail

def read (text : Bytes) : List Line := (text.splitOn newline).dropLast.map readLine

def Line.Plain : Line → Prop
  | .comment text => newline ∉ text
  | .sample name value => name.head? ≠ some mark ∧ blank ∉ name ∧ newline ∉ name ∧ newline ∉ value

theorem readLine_spell {line : Line} (plain : line.Plain) : readLine line.spell = line := by
  cases line with
  | comment text => rfl
  | sample name value =>
    obtain ⟨unmarked,unbroken,_,_⟩ := plain
    have letters : ∀ byte ∈ name, (byte != blank) = true := fun byte present => by
      simpa using fun equal : byte = blank => unbroken (equal ▸ present)
    have other : (name ++ blank :: value).head? ≠ some mark := by
      cases name with
      | nil => exact fun same => absurd (Option.some.inj same) (by decide)
      | cons => exact unmarked
    rw [Line.spell,readLine,if_neg other,List.takeWhile_append_of_pos letters,
      List.dropWhile_append_of_pos letters]
    simp

theorem newline_spell {line : Line} (plain : line.Plain) : newline ∉ line.spell := by
  cases line with
  | comment text =>
    rw [Line.spell,List.mem_cons,not_or]
    exact ⟨by decide,plain⟩
  | sample name value =>
    rw [Line.spell,List.mem_append,List.mem_cons,not_or,not_or]
    exact ⟨plain.2.2.1,by decide,plain.2.2.2⟩

theorem read_spell {lines : List Line} (plain : ∀ line ∈ lines, line.Plain) : read (spell lines) = lines := by
  induction lines with
  | nil => rfl
  | cons line rest ih =>
    obtain ⟨first,others⟩ := List.forall_mem_cons.mp plain
    have split : spell (line :: rest) = line.spell ++ newline :: spell rest := by simp [spell]
    have filled := List.splitOn_ne_nil newline (spell rest)
    rw [read,split,List.splitOn_append_cons_self_of_not_mem (newline_spell first),
      List.dropLast_cons_of_ne_nil filled,List.map_cons,readLine_spell first]
    exact congrArg _ (ih others)

def samples (text : Bytes) : List (Bytes × Option Int) :=
  (read text).filterMap fun
    | .comment _ => none
    | .sample name value => some (name,number? value)

theorem decimal_plain (n : Int) : newline ∉ decimal n := by
  intro present
  rcases decimal_cases n with ⟨_,same⟩ | ⟨_,same⟩
  · exact absurd (encoded_plain (same ▸ present)) (by decide)
  · rw [same] at present
    rcases List.mem_cons.mp present with sign | later
    · exact absurd sign (by decide)
    · exact absurd (encoded_plain later) (by decide)

end Exposition

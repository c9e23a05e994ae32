import JotaTranscriber.Basic
import Mathlib.Data.List.DropRight

namespace JotaTranscriber.MultipartParser

structure Part where
  filename : Text
  contentType : Text
  data : List UInt8
  deriving DecidableEq, Repr

abbrev Parts := List (Text × Part)

-- The map of the source: assigning to a name replaces what it had.
def Parts.assign (parts : Parts) (name : Text) (part : Part) : Parts :=
  (name,part) :: parts.filter (·.1 != name)

-- std::string::find from the current position: what stands before the first
-- occurrence of the needle and what stands after it.
def cut (needle : Text) : Text → Option (Text × Text)
  | [] => if needle = [] then some ([],[]) else none
  | byte :: rest =>
    match (byte :: rest).dropPrefix? needle with
    | some after => some ([],after)
    | none => (cut needle rest).map fun found => (byte :: found.1,found.2)

theorem dropPrefix_some {text needle after : Text} (stripped : text.dropPrefix? needle = some after) :
    text = needle ++ after := by
  obtain ⟨same,split,equal⟩ := List.dropPrefix?_eq_some_iff.mp stripped
  rw [split,eq_of_beq equal]

theorem cut_some (found : cut needle text = some (before,after)) :
    text = before ++ needle ++ after := by
  induction text generalizing before with
  | nil =>
    simp only [cut] at found
    split at found
    · rename_i empty
      cases found
      rw [empty]
      rfl
    · cases found
  | cons byte rest ih =>
    simp only [cut] at found
    split at found
    · rename_i tail stripped
      cases found
      exact dropPrefix_some stripped
    · obtain ⟨⟨front,back⟩,inner,same⟩ := Option.map_eq_some_iff.mp found
      cases same
      simp [ih inner]

def quote : UInt8 := 34
def carriageReturn : UInt8 := 13
def lineFeed : UInt8 := 10
def crlf : Text := [carriageReturn,lineFeed]
def dashes : Text := bytes "--"

def extractBoundary (contentType : Text) : Text :=
  match cut (bytes "boundary=") contentType with
  | none => []
  | some (_,b) =>
    let b := match b with
      | first :: rest =>
        if first = quote ∧ rest ≠ [] then
          match cut [quote] rest with
          | some (inside,_) => inside
          | none => rest
        else b
      | [] => b
    b.rdropWhile fun byte => byte = 59 || byte = 32 || byte = carriageReturn

def extractDispositionParam (header param : Text) : Text :=
  match cut (param ++ bytes "=\"") header with
  | none => []
  | some (_,value) =>
    match cut [quote] value with
    | some (inside,_) => inside
    | none => []

-- ::tolower in the C locale.
def toLower (byte : UInt8) : UInt8 := if 65 ≤ byte ∧ byte ≤ 90 then byte + 32 else byte

-- The lines std::getline reads: an empty last one is not returned.
def lines (text : Text) : List Text :=
  let pieces := text.splitOn lineFeed
  if pieces.getLast? = some [] then pieces.dropLast else pieces

structure Headers where
  fieldName : Text
  filename : Text
  contentType : Text

def parseHeader (headers : Headers) (line : Text) : Headers :=
  let line := if line.getLast? = some carriageReturn then line.dropLast else line
  let lower := line.map toLower
  if (bytes "content-disposition:").isPrefixOf lower then
    { headers with
      fieldName := extractDispositionParam line (bytes "name")
      filename := extractDispositionParam line (bytes "filename") }
  else if (bytes "content-type:").isPrefixOf lower then
    let value := match cut (bytes ":") line with
      | some (_,value) => value
      | none => []
    let trimmed := value.dropWhile (· = 32)
    { headers with contentType := if trimmed.isEmpty then value else trimmed }
  else headers

-- One round of the loop for each part. The position only moves forward, so a
-- fuel above the length of what is left is never used up.
def parseParts (delimiter : Text) : Nat → Text → Parts → Except Text Parts
  | 0,_,parts => .ok parts
  | fuel+1,rest,parts =>
    if dashes.isPrefixOf rest then .ok parts
    else
      match rest.dropPrefix? crlf with
      | none => .ok parts
      | some rest =>
        match cut (crlf ++ crlf) rest with
        | none => .error (bytes "MultipartParser: malformed part — no header terminator")
        | some (hdrs,rest) =>
          match cut delimiter rest with
          | none => .error (bytes "MultipartParser: malformed part — no closing boundary")
          | some (raw,rest) =>
            let headers := (lines hdrs).foldl parseHeader ⟨[],[],[]⟩
            parseParts delimiter fuel rest
              (if headers.fieldName.isEmpty then parts
                else parts.assign headers.fieldName ⟨headers.filename,headers.contentType,raw⟩)

def parse (body boundary : Text) : Except Text Parts :=
  match cut (dashes ++ boundary) body with
  | none => .error (bytes "MultipartParser: boundary not found in body")
  | some (_,rest) => parseParts (crlf ++ dashes ++ boundary) (rest.length + 1) rest []

theorem parseParts_fuel (delimiter : Text) (fuel more : Nat) (rest : Text) (parts : Parts)
    (enough : rest.length < fuel) :
    parseParts delimiter (fuel + more) rest parts = parseParts delimiter fuel rest parts := by
  induction fuel generalizing rest parts with
  | zero => cases enough
  | succ fuel ih =>
    rw [Nat.succ_add]
    simp only [parseParts]
    split
    · rfl
    split
    · rfl
    · rename_i opened stripped
      split
      · rfl
      · rename_i hdrs data found
        split
        · rfl
        · rename_i raw next closed
          have first := congrArg List.length (dropPrefix_some stripped)
          have second := congrArg List.length (cut_some found)
          have third := congrArg List.length (cut_some closed)
          simp only [List.length_append,crlf,List.length_cons,List.length_nil] at first second third
          exact ih next _ (by omega)

end JotaTranscriber.MultipartParser

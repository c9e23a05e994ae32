import JotaTranscriber.MultipartParser
import Mathlib.Logic.Function.Basic

-- The environment of the server and the .env file that adds to it.
namespace JotaTranscriber.DotEnv
open MultipartParser

abbrev Environment := Text → Option Text

-- What c_str() hands to getenv and setenv.
def cString (text : Text) : Text := text.takeWhile (· != 0)

-- setenv without overwrite. It refuses a name that is empty or has '=' in it.
def setenv (environ : Environment) (name value : Text) : Environment :=
  if name.isEmpty || name.contains 61 then environ
  else if (environ name).isSome then environ
  else Function.update environ name (some value)

def unquote (value : Text) : Text :=
  if value.length ≥ 2 then
    if (value.head? = some 34 ∨ value.head? = some 39) ∧ value.getLast? = value.head? then
      (value.drop 1).take (value.length - 2)
    else value
  else value

def popReturn (line : Text) : Text := if line.getLast? = some carriageReturn then line.dropLast else line

-- One turn of the loop: the line's key and its value, unless it is skipped.
def parseLine (line : Text) : Option (Text × Text) :=
  let line := popReturn line
  if line.isEmpty || line.head? = some 35 then none
  else
    match line.dropWhile (· != 61) with
    | [] => none
    | _ :: value => some (line.takeWhile (· != 61),unquote value)

def loadLine (environ : Environment) (line : Text) : Environment :=
  match parseLine line with
  | none => environ
  | some (key,value) =>
    if !key.isEmpty && (environ (cString key)).isNone then setenv environ (cString key) (cString value)
    else environ

-- none: the file cannot be opened.
def loadDotEnv (environ : Environment) : Option Text → Environment
  | none => environ
  | some content => (lines content).foldl loadLine environ

def assignment (line : Text) : Option (Text × Text) :=
  (parseLine line).bind fun (key,value) =>
    if (cString key).isEmpty then none else some (cString key,cString value)

def assignments (content : Option Text) : List (Text × Text) :=
  (lines (content.getD [])).filterMap assignment

theorem parseLine_key (parsed : parseLine line = some (key,value)) : 61 ∉ key := by
  simp only [parseLine] at parsed
  generalize popReturn line = line at parsed
  split at parsed
  · cases parsed
  · split at parsed
    · cases parsed
    · cases parsed
      intro present
      have kept := List.mem_takeWhile_imp present
      exact absurd kept (by decide)

theorem loadLine_eq (environ : Environment) (line name : Text) :
    loadLine environ line name = (environ name).or ((assignment line).toList.lookup name) := by
  unfold loadLine assignment
  cases parsed : parseLine line with
  | none => simp
  | some entry =>
    obtain ⟨key,value⟩ := entry
    have unsplit : 61 ∉ cString key := fun present =>
      parseLine_key parsed ((List.takeWhile_sublist _).subset present)
    by_cases empty : cString key = []
    · simp [empty,setenv]
    · have filled : key ≠ [] := by
        rintro rfl
        exact empty rfl
      by_cases set : (environ (cString key)).isNone = true
      · by_cases same : name = cString key
        · subst same
          simp [filled,empty,setenv,unsplit,Option.isNone_iff_eq_none.mp set]
        · have apart : (name == cString key) = false := beq_false_of_ne same
          simp [filled,empty,setenv,unsplit,Option.isNone_iff_eq_none.mp set,
            Function.update_of_ne same,List.lookup_cons,apart]
      · by_cases same : name = cString key
        · subst same
          obtain ⟨already,found⟩ := Option.ne_none_iff_exists'.mp fun none => set (Option.isNone_iff_eq_none.mpr none)
          simp [found,empty]
        · have apart : (name == cString key) = false := beq_false_of_ne same
          simp [set,empty,List.lookup_cons,apart]

-- A variable keeps the value the server is started with, and takes the one of
-- the first line that assigns it otherwise.
theorem loadDotEnv_eq (environ : Environment) (content : Option Text) (name : Text) :
    loadDotEnv environ content name = (environ name).or ((assignments content).lookup name) := by
  cases content with
  | none => simp [loadDotEnv,assignments,lines]
  | some content =>
    simp only [loadDotEnv,assignments,Option.getD_some]
    induction lines content generalizing environ with
    | nil => simp
    | cons line rest ih =>
      rw [List.foldl_cons,ih,loadLine_eq,Option.or_assoc]
      congr 1
      cases found : assignment line with
      | none => simp [found]
      | some entry => rw [List.filterMap_cons_some found,← List.singleton_append,List.lookup_append]; rfl

inductive Quoting where
  | bare
  | single
  | double

def Quoting.around : Quoting → Text → Text
  | .bare,value => value
  | .single,value => 39 :: (value ++ [39])
  | .double,value => 34 :: (value ++ [34])

-- A value without quotes of its own must not be taken for a quoted one, nor
-- its last character for the end of the line.
structure Assignment where
  name : Text
  value : Text
  quoting : Quoting
  named : name ≠ []
  uncommented : name.head? ≠ some 35
  plainName : 61 ∉ name ∧ lineFeed ∉ name ∧ 0 ∉ name
  plainValue : lineFeed ∉ value ∧ 0 ∉ value
  bare : quoting = .bare → unquote value = value ∧ value.getLast? ≠ some carriageReturn

inductive Line where
  | blank
  | comment (text : Text) (plain : lineFeed ∉ text)
  | assigns (assignment : Assignment)

def Line.spell : Line → Text
  | .blank => []
  | .comment text _ => 35 :: text
  | .assigns a => a.name ++ 61 :: a.quoting.around a.value

def Line.assigned? : Line → Option (Text × Text)
  | .assigns a => some (a.name,a.value)
  | _ => none

def spell (file : List (Line × Bool)) : Text :=
  file.flatMap fun (line,windows) => line.spell ++ (if windows then [carriageReturn] else []) ++ [lineFeed]

theorem cString_plain {text : Text} (plain : 0 ∉ text) : cString text = text := by
  refine List.takeWhile_eq_self_iff.mpr fun byte present => ?_
  simpa using fun zero : byte = 0 => plain (zero ▸ present)

theorem unquote_quoted (quote : UInt8) (own : quote = 34 ∨ quote = 39) (value : Text) :
    unquote (quote :: (value ++ [quote])) = value := by
  have long : 2 ≤ (quote :: (value ++ [quote])).length := by simp
  have last : (quote :: (value ++ [quote])).getLast? = some quote := by
    rw [← List.cons_append,List.getLast?_concat]
  rw [unquote,if_pos long,last,if_pos ⟨by simpa using own,rfl⟩]
  simp

theorem unquote_around (a : Assignment) : unquote (a.quoting.around a.value) = a.value := by
  cases style : a.quoting with
  | bare => exact (a.bare style).1
  | single => exact unquote_quoted 39 (.inr rfl) _
  | double => exact unquote_quoted 34 (.inl rfl) _

theorem popReturn_ended (line : Text) (windows : Bool) (last : line.getLast? ≠ some carriageReturn) :
    popReturn (line ++ if windows then [carriageReturn] else []) = line := by
  cases windows with
  | true => simp [popReturn]
  | false => simp [popReturn,last]

theorem parseLine_comment (text : Text) : parseLine (35 :: text) = none := by
  have first : (popReturn (35 :: text)).head? = some 35 := by
    cases text with
    | nil => rfl
    | cons byte rest =>
      rw [popReturn]
      split <;> rfl
  simp [parseLine,first]

theorem assigns_last (a : Assignment) : (Line.assigns a).spell.getLast? ≠ some carriageReturn := by
  have ends {value : Text} (last : value.getLast? ≠ some carriageReturn) :
      (a.name ++ 61 :: value).getLast? ≠ some carriageReturn := by
    cases value with
    | nil => simp; decide
    | cons byte rest => simpa using last
  cases style : a.quoting with
  | bare =>
    simp only [Line.spell,style,Quoting.around]
    exact ends (a.bare style).2
  | single | double =>
    simp only [Line.spell,style,Quoting.around]
    refine ends ?_
    rw [← List.cons_append,List.getLast?_concat]
    decide

theorem assignment_spell (line : Line) (windows : Bool) :
    assignment (line.spell ++ if windows then [carriageReturn] else []) = line.assigned? := by
  cases line with
  | blank => cases windows <;> rfl
  | comment text =>
    rw [Line.spell,List.cons_append,assignment,parseLine_comment]
    rfl
  | assigns a =>
    obtain ⟨unsplit,_,plain⟩ := a.plainName
    have key : ∀ byte ∈ a.name, (byte != 61) = true := fun byte present => by
      simpa using fun equal : byte = 61 => unsplit (equal ▸ present)
    have first : (Line.assigns a).spell.head? ≠ some 35 := by
      rw [Line.spell,List.head?_append_of_ne_nil _ a.named]
      exact a.uncommented
    have filled : (Line.assigns a).spell.isEmpty = false := by simp [Line.spell]
    have parsed : parseLine ((Line.assigns a).spell ++ if windows then [carriageReturn] else []) =
        some (a.name,a.value) := by
      simp only [parseLine,popReturn_ended _ _ (assigns_last a)]
      rw [if_neg (by simp [filled,first])]
      simp only [Line.spell,List.dropWhile_append_of_pos key,List.takeWhile_append_of_pos key]
      simp [unquote_around]
    simp [assignment,parsed,cString_plain plain,cString_plain a.plainValue.2,a.named,Line.assigned?]

theorem lines_cons {line : Text} (plain : lineFeed ∉ line) (rest : Text) :
    lines (line ++ lineFeed :: rest) = line :: lines rest := by
  have filled := List.splitOn_ne_nil lineFeed rest
  simp only [lines,List.splitOn_append_cons_self_of_not_mem plain,List.getLast?_cons_of_ne_nil filled,
    List.dropLast_cons_of_ne_nil filled]
  split <;> rfl

theorem spell_plain (line : Line) (windows : Bool) :
    lineFeed ∉ line.spell ++ if windows then [carriageReturn] else [] := by
  have ending : lineFeed ∉ if windows then [carriageReturn] else [] := by
    cases windows <;> decide
  have spelled : lineFeed ∉ line.spell := by
    cases line with
    | blank => exact List.not_mem_nil
    | comment text plain =>
      rw [Line.spell,List.mem_cons,not_or]
      exact ⟨by decide,plain⟩
    | assigns a =>
      obtain ⟨value,_⟩ := a.plainValue
      have quoted : lineFeed ∉ a.quoting.around a.value := by
        cases a.quoting with
        | bare => exact value
        | single | double =>
          rw [Quoting.around,List.mem_cons,List.mem_append,List.mem_singleton,not_or,not_or]
          exact ⟨by decide,value,by decide⟩
      rw [Line.spell,List.mem_append,List.mem_cons,not_or,not_or]
      exact ⟨a.plainName.2.1,by decide,quoted⟩
  rw [List.mem_append,not_or]
  exact ⟨spelled,ending⟩

-- A file that is written down is read back: with the variables already set kept,
-- and a variable assigned twice with the first of its values.
theorem dotEnv_round_trip (environ : Environment) (file : List (Line × Bool)) (name : Text) :
    loadDotEnv environ (some (spell file)) name =
      (environ name).or ((file.filterMap fun entry => entry.1.assigned?).lookup name) := by
  have read : (lines (spell file)).filterMap assignment = file.filterMap fun entry => entry.1.assigned? := by
    induction file with
    | nil => rfl
    | cons entry rest ih =>
      obtain ⟨line,windows⟩ := entry
      have split : spell ((line,windows) :: rest) =
          (line.spell ++ if windows then [carriageReturn] else []) ++ lineFeed :: spell rest := by
        simp [spell]
      rw [split,lines_cons (spell_plain line windows),List.filterMap_cons,List.filterMap_cons,
        assignment_spell,ih]
  rw [loadDotEnv_eq,assignments,Option.getD_some,read]

def portLine : Assignment where
  name := bytes "PORT"
  value := bytes "8080"
  quoting := .bare
  named := by decide
  uncommented := by decide
  plainName := by decide
  plainValue := by decide
  bare := fun _ => by decide

def promptLine : Assignment where
  name := bytes "WHISPER_INITIAL_PROMPT"
  value := bytes "'Hola' # =\r"
  quoting := .double
  named := by decide
  uncommented := by decide
  plainName := by decide
  plainValue := by decide
  bare := nofun

theorem dotEnv_round_trip_prompt :
    loadDotEnv (fun _ => none)
      (some (bytes "# local\r\n\nPORT=8080\nWHISPER_INITIAL_PROMPT=\"'Hola' # =\r\"\r\n"))
      (bytes "WHISPER_INITIAL_PROMPT") = some (bytes "'Hola' # =\r") :=
  dotEnv_round_trip (fun _ => none)
    [(.comment (bytes " local") (by decide),true),(.blank,false),(.assigns portLine,false),
      (.assigns promptLine,true)] (bytes "WHISPER_INITIAL_PROMPT")

end JotaTranscriber.DotEnv

import JotaTranscriber.MultipartBodies

-- The Content-Disposition line of a part, with its parameters in any order.
namespace JotaTranscriber.MultipartParser

def semicolon : UInt8 := 59
def space : UInt8 := 32
def tab : UInt8 := 9
def equalsSign : UInt8 := 61

def separating (byte : UInt8) : Bool := byte = semicolon || byte = space || byte = tab

-- key="value" or key=value, with what separates it from the text before.
structure Param where
  lead : Text
  key : Text
  value : Text
  quoted : Bool
  separated : semicolon ∈ lead ∧ ∀ byte ∈ lead, separating byte = true
  token : key ≠ [] ∧ ∀ byte ∈ key, separating byte = false ∧ byte ≠ equalsSign ∧ byte ≠ quote
  unquotable : quote ∉ value
  bare : quoted = false → value ≠ [] ∧ ∀ byte ∈ value, separating byte = false

namespace Param

def opening (param : Param) : Text := param.lead ++ param.key ++ [equalsSign]

def render (param : Param) : Text :=
  if param.quoted then param.opening ++ quote :: (param.value ++ [quote]) else param.opening ++ param.value

end Param

def tail (params : List Param) (closing : Text) : Text := params.flatMap Param.render ++ closing

structure Disposition where
  opening : Text
  params : List Param
  closing : Text
  starts : (bytes "content-disposition:").isPrefixOf (opening.map toLower) = true
  unquoted : quote ∉ opening ∧ quote ∉ closing
  oneLine : ∀ byte ∈ opening ++ tail params closing, byte ≠ carriageReturn ∧ byte ≠ lineFeed
  named : (params.filter fun param => param.key = bytes "name").length = 1
  filed : (params.filter fun param => param.key = bytes "filename").length ≤ 1

namespace Disposition

def text (line : Disposition) : Text := line.opening ++ tail line.params line.closing

-- What the sender says; empty if there is no such parameter.
def value (line : Disposition) (key : Text) : Text :=
  ((line.params.find? fun param => param.key = key).map Param.value).getD []

end Disposition

-- Up to the next double quote, and nothing if there is none.
def upToQuote (text : Text) : Text :=
  match cut [quote] text with
  | some (inside,_) => inside
  | none => []

-- What stands in quotes behind the first `key=` that a quote follows: such a
-- place is the end of a parameter's key, or of its value.
def located (key : Text) (closing : Text) : List Param → Text
  | [] => []
  | param :: rest =>
    if param.quoted then
      if key.isSuffixOf param.key then param.value
      else if (key ++ [equalsSign]).isSuffixOf param.value then upToQuote (tail rest closing)
      else located key closing rest
    else located key closing rest

namespace Disposition

def found (line : Disposition) (key : Text) : Text := located key line.closing line.params

end Disposition

def isDisposition (line : Text) : Bool := (bytes "content-disposition:").isPrefixOf (line.map toLower)

-- The header block has this line, with or without the carriage return that
-- getline leaves, and no other Content-Disposition.
def Carries (line : Disposition) (piece : Piece) : Prop :=
  ∃ above raw below, lines piece.headers = above ++ raw :: below ∧
    (raw = line.text ∨ raw = line.text ++ [carriageReturn]) ∧
    ∀ other ∈ above ++ below, isDisposition other = false

def AllParts (boundary body : Text) (pieces : List Piece) : Prop :=
  ∃ rest, Cuts boundary body pieces rest ∧ Final boundary rest

-- In whatever body the part comes, it is in the result under the name that its
-- line gives it, with the filename that the line gives; a later part of that
-- name would replace it.
def Stored (line : Disposition) : Prop :=
  ∀ boundary body earlier piece later parts, AllParts boundary body (earlier ++ piece :: later) →
    parse body boundary = .ok parts → Carries line piece →
    (∀ other ∈ later, other.name ≠ line.value (bytes "name")) →
    ∃ contentType, parts.lookup (line.value (bytes "name")) =
      some ⟨line.value (bytes "filename"),contentType,piece.data⟩

section Search
variable {stem front rest : Text} {mark : UInt8}

theorem cut_end (clean : mark ∉ front) (ends : stem <:+ front) (rest : Text) :
    (cut (stem ++ [mark]) (front ++ mark :: rest)).map Prod.snd = some rest := by
  obtain ⟨before,rfl⟩ := ends
  have first : Before (stem ++ [mark]) before := by
    rw [Before,← List.append_assoc,List.dropLast_concat]
    intro inside
    exact clean (inside.subset (by simp))
  have found : cut (stem ++ [mark]) (before ++ stem ++ mark :: rest) = some (before,rest) :=
    (cut_eq_some_iff (by simp)).mpr ⟨by simp,first⟩
  rw [found]
  rfl

theorem cut_behind (single : mark ∉ stem) (clean : mark ∉ front) (other : ¬ stem <:+ front) (rest : Text) :
    (cut (stem ++ [mark]) (front ++ mark :: rest)).map Prod.snd =
      (cut (stem ++ [mark]) rest).map Prod.snd := by
  cases later : cut (stem ++ [mark]) rest with
  | none =>
    have absent := (cut_eq_none_iff (by simp)).mp later
    have nowhere : ¬ stem ++ [mark] <:+: front ++ mark :: rest := by
      intro inside
      rcases infix_split single clean inside with ends | behind
      · exact other ends
      · exact absent behind
    rw [cut_none nowhere]
  | some found =>
    obtain ⟨before,after⟩ := found
    obtain ⟨rfl,clean_before⟩ := (cut_eq_some_iff (by simp)).mp later
    have first : Before (stem ++ [mark]) (front ++ mark :: before) := by
      have last : (front ++ mark :: before ++ (stem ++ [mark])).dropLast =
          front ++ mark :: (before ++ (stem ++ [mark])).dropLast := by
        rw [← List.append_assoc,List.dropLast_concat,← List.append_assoc,List.dropLast_concat]
        simp
      rw [Before,last]
      intro inside
      rcases infix_split single clean inside with ends | behind
      · exact other ends
      · exact clean_before behind
    have found : cut (stem ++ [mark]) (front ++ mark :: (before ++ (stem ++ [mark]) ++ after)) =
        some (front ++ mark :: before,after) :=
      (cut_eq_some_iff (by simp)).mpr ⟨by simp,first⟩
    rw [found]
    rfl

theorem cut_unmarked (clean : mark ∉ front) : cut (stem ++ [mark]) front = none :=
  cut_none fun inside => clean (inside.subset (by simp))

end Search

theorem extract_eq (text key : Text) : extractDispositionParam text key =
    (((cut (key ++ [equalsSign] ++ [quote]) text).map Prod.snd).map upToQuote).getD [] := by
  have needle : key ++ bytes "=\"" = key ++ [equalsSign] ++ [quote] := by
    rw [List.append_assoc]
    rfl
  rw [extractDispositionParam,needle]
  cases cut (key ++ [equalsSign] ++ [quote]) text with
  | none => rfl
  | some found => rfl

section Parameters
variable {key front closing : Text} {params : List Param}

structure Token (key : Text) : Prop where
  whole : ∀ byte ∈ key, separating byte = false
  unquoted : quote ∉ key

theorem Param.opening_unquoted (param : Param) : quote ∉ param.opening := by
  simp only [Param.opening,List.mem_append,List.mem_singleton,not_or]
  refine ⟨⟨?_,?_⟩,by decide⟩
  · intro inside
    exact absurd (param.separated.2 quote inside) (by decide)
  · intro inside
    exact (param.token.2 quote inside).2.2 rfl

theorem key_ends (token : Token key) (front : Text) (param : Param) :
    key ++ [equalsSign] <:+ front ++ param.opening ↔ key <:+ param.key := by
  have split : front ++ param.opening = (front ++ param.lead ++ param.key) ++ [equalsSign] := by
    simp [Param.opening]
  rw [split,List.suffix_append_self_iff]
  constructor
  · intro ends
    rcases List.suffix_or_suffix_of_suffix ends (List.suffix_append _ param.key) with own | longer
    · exact own
    · obtain ⟨more,rfl⟩ := longer
      have reaches := List.suffix_append_self_iff.mp ends
      rcases List.eq_nil_or_concat param.lead with empty | ⟨init,last,whole⟩
      · have separated := param.separated.1
        rw [empty] at separated
        cases separated
      · rw [whole,List.concat_eq_append,← List.append_assoc] at reaches
        rcases List.suffix_concat_iff.mp reaches with rfl | ⟨before,rfl,_⟩
        · exact List.suffix_rfl
        · have separates := param.separated.2 last (by simp [whole])
          have inside := token.whole last (by simp)
          rw [separates] at inside
          cases inside
  · intro ends
    exact ends.trans (List.suffix_append _ _)

theorem extract_located (token : Token key) (ending : quote ∉ closing) (params : List Param)
    (clean : quote ∉ front) : extractDispositionParam (front ++ tail params closing) key =
      located key closing params := by
  have single : quote ∉ key ++ [equalsSign] := by
    simp only [List.mem_append,List.mem_singleton,not_or]
    exact ⟨token.unquoted,by decide⟩
  induction params generalizing front with
  | nil =>
    have plain : quote ∉ front ++ tail [] closing := by simp [tail,clean,ending]
    rw [extract_eq,cut_unmarked plain]
    rfl
  | cons param rest ih =>
    have own : quote ∉ front ++ param.opening := by simp [clean,param.opening_unquoted]
    cases quoted : param.quoted with
    | true =>
      have split : front ++ tail (param :: rest) closing =
          (front ++ param.opening) ++ quote :: (param.value ++ quote :: tail rest closing) := by
        simp [tail,Param.render,quoted]
      rw [split,located,if_pos quoted,extract_eq]
      by_cases here : key <:+ param.key
      · rw [cut_end own ((key_ends token front param).mpr here),if_pos (List.isSuffixOf_iff_suffix.mpr here)]
        simp [upToQuote,cut_quote param.unquotable]
      · rw [cut_behind single own (mt (key_ends token front param).mp here),
          if_neg (mt List.isSuffixOf_iff_suffix.mp here)]
        by_cases inside : key ++ [equalsSign] <:+ param.value
        · rw [cut_end param.unquotable inside,if_pos (List.isSuffixOf_iff_suffix.mpr inside)]
          rfl
        · rw [cut_behind single param.unquotable inside,if_neg (mt List.isSuffixOf_iff_suffix.mp inside),
            ← extract_eq]
          exact ih (List.not_mem_nil)
    | false =>
      have split : front ++ tail (param :: rest) closing =
          (front ++ param.opening ++ param.value) ++ tail rest closing := by
        simp [tail,Param.render,quoted]
      rw [split,located,if_neg (by simp [quoted])]
      exact ih (by simp [clean,param.opening_unquoted,param.unquotable])

end Parameters

section Lines
variable {line : Disposition} {piece : Piece} {key : Text}

theorem found_eq (token : Token key) (line : Disposition) :
    extractDispositionParam line.text key = line.found key :=
  extract_located token line.unquoted.2 line.params line.unquoted.1

theorem parseHeader_other (headers : Headers) {other : Text} (different : isDisposition other = false) :
    (parseHeader headers other).fieldName = headers.fieldName ∧
      (parseHeader headers other).filename = headers.filename := by
  have stripped : isDisposition other.dropLast = false := by
    rw [isDisposition,Bool.eq_false_iff,ne_eq,List.isPrefixOf_iff_prefix] at different ⊢
    intro starts
    exact different (starts.trans ((List.dropLast_prefix other).map toLower))
  simp only [isDisposition] at different stripped
  unfold parseHeader
  dsimp only
  split
  · split
    · rename_i starts
      rw [stripped] at starts
      cases starts
    · split <;> exact ⟨rfl,rfl⟩
  · split
    · rename_i starts
      rw [different] at starts
      cases starts
    · split <;> exact ⟨rfl,rfl⟩

theorem foldl_others (headers : Headers) {others : List Text}
    (different : ∀ other ∈ others, isDisposition other = false) :
    (others.foldl parseHeader headers).fieldName = headers.fieldName ∧
      (others.foldl parseHeader headers).filename = headers.filename := by
  induction others generalizing headers with
  | nil => exact ⟨rfl,rfl⟩
  | cons other rest ih =>
    obtain ⟨name,filename⟩ := parseHeader_other headers (different other List.mem_cons_self)
    obtain ⟨names,filenames⟩ := ih (parseHeader headers other)
      fun later present => different later (List.mem_cons_of_mem _ present)
    exact ⟨names.trans name,filenames.trans filename⟩

theorem text_plain (line : Disposition) : carriageReturn ∉ line.text ∧ lineFeed ∉ line.text :=
  ⟨fun inside => (line.oneLine _ inside).1 rfl,fun inside => (line.oneLine _ inside).2 rfl⟩

theorem parseHeader_line (headers : Headers) (line : Disposition) :
    parseHeader headers line.text =
      { headers with fieldName := line.found (bytes "name"), filename := line.found (bytes "filename") } := by
  have last : line.text.getLast? ≠ some carriageReturn :=
    fun same => (text_plain line).1 (List.mem_of_getLast? same)
  have starts : (bytes "content-disposition:").isPrefixOf (line.text.map toLower) = true := by
    rw [List.isPrefixOf_iff_prefix,Disposition.text,List.map_append]
    exact (List.isPrefixOf_iff_prefix.mp line.starts).trans (List.prefix_append _ _)
  have name : Token (bytes "name") := ⟨by decide +kernel,by decide⟩
  have filename : Token (bytes "filename") := ⟨by decide +kernel,by decide⟩
  simp only [parseHeader,if_neg last,starts,if_true,found_eq name,found_eq filename]

theorem carried_read (carries : Carries line piece) :
    piece.name = line.found (bytes "name") ∧ piece.part.filename = line.found (bytes "filename") := by
  obtain ⟨above,raw,below,split,same,others⟩ := carries
  have read (headers : Headers) : parseHeader headers raw = parseHeader headers line.text := by
    rcases same with rfl | rfl
    · rfl
    · exact parseHeader_return headers (text_plain line).1
  obtain ⟨name,filename⟩ := foldl_others
    (parseHeader (above.foldl parseHeader ⟨[],[],[]⟩) line.text)
    (fun other present => others other (List.mem_append_right _ present))
  simp only [Piece.name,Piece.part,Piece.read,split,List.foldl_append,List.foldl_cons,read]
  rw [name,filename,parseHeader_line]
  exact ⟨rfl,rfl⟩

theorem lastNamed_member {name : Text} {earlier later : List Piece} (named : name ≠ [])
    (own : piece.name = name) (others : ∀ other ∈ later, other.name ≠ name) :
    lastNamed name (earlier ++ piece :: later) = some piece.part := by
  induction later using List.reverseRecOn with
  | nil => rw [lastNamed_snoc,if_pos ⟨named,own⟩]
  | append_singleton front last ih =>
    have different := others last (by simp)
    rw [← List.cons_append,← List.append_assoc,lastNamed_snoc,if_neg fun both => different both.2]
    exact ih fun other present => others other (by simp [present])

def soleBody (line : Disposition) : Text :=
  opener (bytes "b") ++ (crlf ++ (line.text ++ blankLine ++ ([] ++ delimiter (bytes "b") ++ dashes)))

theorem soleBody_cuts (line : Disposition) :
    Cuts (bytes "b") (soleBody line) [⟨line.text,[]⟩] dashes := by
  have passed : cut blankLine (line.text ++ (blankLine ++ [])) =
      (cut blankLine (blankLine ++ [])).map fun found => (line.text ++ found.1,found.2) :=
    cut_pass (text_plain line).1 _
  have found : cut blankLine (line.text ++ (blankLine ++ [])) = some (line.text,[]) := by
    rw [passed,cut_found [] (by decide)]
    simp
  have headed : Before blankLine line.text := ((cut_eq_some_iff (by decide)).mp found).2
  exact ⟨[],_,rfl,before_nil (by decide),.cons headed (before_nil (by decide)) .nil⟩

theorem text_lines (line : Disposition) : lines line.text = [line.text] := by
  have nonempty : line.text ≠ [] := by
    intro empty
    have starts := line.starts
    rw [show line.opening = [] from (List.append_eq_nil_iff.mp empty).1] at starts
    exact absurd starts (by decide)
  rw [lines,List.splitOn_eq_singleton (text_plain line).2]
  simp [nonempty]

end Lines

-- A part is stored as its line says exactly if the search for either key finds
-- what the line gives it, and the name is not empty.
theorem disposition_stored_iff (line : Disposition) : Stored line ↔
    line.value (bytes "name") ≠ [] ∧ line.found (bytes "name") = line.value (bytes "name") ∧
      line.found (bytes "filename") = line.value (bytes "filename") := by
  constructor
  · intro stored
    have carries : Carries line ⟨line.text,[]⟩ :=
      ⟨[],line.text,[],text_lines line,.inl rfl,List.forall_mem_nil _⟩
    obtain ⟨name,filename⟩ := carried_read carries
    have closes : dashes <+: dashes := List.prefix_refl dashes
    obtain ⟨contentType,there⟩ := stored (bytes "b") (soleBody line) [] ⟨line.text,[]⟩ [] _
      ⟨dashes,soleBody_cuts line,final_of_closed closes⟩ ((soleBody_cuts line).returned closes) carries
      (List.forall_mem_nil _)
    rw [(collect_represents _).lookup] at there
    have sole := lastNamed_snoc (line.value (bytes "name")) [] ⟨line.text,[]⟩
    rw [List.nil_append,there] at sole
    split at sole
    · rename_i both
      have parts := Option.some.inj sole
      exact ⟨both.1,name.symm.trans both.2,filename.symm.trans (congrArg Part.filename parts.symm)⟩
    · simp [lastNamed] at sole
  · rintro ⟨named,name,filename⟩ boundary body earlier piece later parts ⟨rest,cuts,final⟩ returned carries
      others
    obtain ⟨own,file⟩ := carried_read carries
    rw [cuts.stored final returned]
    refine ⟨piece.read.contentType,?_⟩
    rw [(collect_represents _).lookup,lastNamed_member named (own.trans name) others,← filename,← file]
    rfl

-- An upload whose line names the file before the field.
def filenameFirst : Disposition where
  opening := bytes "Content-Disposition: form-data"
  params := [
    { lead := bytes "; ", key := bytes "filename", value := bytes "a.ogg", quoted := true
      separated := by decide +kernel, token := by decide +kernel, unquotable := by decide
      bare := fun unquoted => by cases unquoted },
    { lead := bytes "; ", key := bytes "name", value := bytes "file", quoted := true
      separated := by decide +kernel, token := by decide +kernel, unquotable := by decide
      bare := fun unquoted => by cases unquoted }]
  closing := []
  starts := by decide
  unquoted := by decide
  oneLine := by decide +kernel
  named := by decide
  filed := by decide

theorem upload_filed_under_filename :
    filenameFirst.text = bytes "Content-Disposition: form-data; filename=\"a.ogg\"; name=\"file\"" ∧
    parse (soleBody filenameFirst) (bytes "b") = .ok [(bytes "a.ogg",⟨bytes "a.ogg",[],[]⟩)] ∧
    ¬ Stored filenameFirst := by
  have returned : parse (soleBody filenameFirst) (bytes "b") =
      .ok [(bytes "a.ogg",⟨bytes "a.ogg",[],[]⟩)] := by
    decide +kernel
  refine ⟨by decide,returned,?_⟩
  intro stored
  obtain ⟨contentType,there⟩ := stored (bytes "b") (soleBody filenameFirst) [] ⟨filenameFirst.text,[]⟩ [] _
    ⟨dashes,soleBody_cuts filenameFirst,final_of_closed (List.prefix_refl dashes)⟩ returned
    ⟨[],filenameFirst.text,[],text_lines filenameFirst,.inl rfl,List.forall_mem_nil _⟩
    (List.forall_mem_nil _)
  have missing : List.lookup (filenameFirst.value (bytes "name"))
      [(bytes "a.ogg",(⟨bytes "a.ogg",[],[]⟩ : Part))] = none := by decide
  cases missing.symm.trans there

end JotaTranscriber.MultipartParser

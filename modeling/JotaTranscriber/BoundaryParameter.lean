import JotaTranscriber.DispositionParams

-- Content-Type headers with the boundary among other parameters.
namespace JotaTranscriber.MultipartParser

def control (byte : UInt8) : Bool := byte < 32 || byte = 127

-- Printable ASCII but for the special characters of a header.
def tokenByte (byte : UInt8) : Bool := 32 < byte && byte < 127 && ! (bytes "()<>@,;:\\\"/[]?=").contains byte

def isToken (text : Text) : Bool := ! text.isEmpty && text.all tokenByte

-- What stands between the double quotes of a quoted string: a backslash takes
-- the byte behind it along.
def quotable : Text → Bool
  | [] => true
  | 92 :: _ :: rest => quotable rest
  | byte :: rest => byte != quote && byte != 92 && (byte = tab || ! control byte) && quotable rest

-- Blanks may stand on both sides of the semicolon.
structure Gap where
  before : Text
  behind : Text
  blank : ∀ byte ∈ before ++ behind, byte = space ∨ byte = tab

def Gap.text (gap : Gap) : Text := gap.before ++ semicolon :: gap.behind

def written (quoted : Bool) (value : Text) : Text := if quoted then quote :: (value ++ [quote]) else value

structure OtherParam where
  gap : Gap
  name : Text
  value : Text
  quoted : Bool
  token : isToken name = true
  wellFormed : (if quoted then quotable value else isToken value) = true
  other : ¬ bytes "boundary=" <:+: name ++ equalsSign :: written quoted value

def OtherParam.text (param : OtherParam) : Text :=
  param.gap.text ++ (param.name ++ equalsSign :: written param.quoted param.value)

structure BoundaryToken where
  text : Text
  nonempty : text ≠ []
  plain : ∀ byte ∈ text, byte ≠ quote ∧ byte ≠ semicolon ∧ byte ≠ space ∧ control byte = false

structure FormHeader where
  earlier : List OtherParam
  gap : Gap
  boundary : BoundaryToken
  quoted : Bool
  later : List OtherParam

namespace FormHeader

def front (header : FormHeader) : Text :=
  bytes "multipart/form-data" ++ header.earlier.flatMap OtherParam.text ++ header.gap.text

def text (header : FormHeader) : Text :=
  header.front ++ bytes "boundary=" ++
    (written header.quoted header.boundary.text ++ header.later.flatMap OtherParam.text)

structure Understood (header : FormHeader) : Prop where
  extracted : extractBoundary header.text = header.boundary.text
  parsed : ∀ fields : List Field, (∀ field ∈ fields, field.Valid header.boundary.text) →
    (fields.map Field.name).Nodup →
    parse (render header.boundary.text fields) (extractBoundary header.text) =
      .ok (fields.map fun field => (field.name,field.part)).reverse

end FormHeader

section Search
variable {needle left right text : Text} {mark : UInt8}

-- A byte that the needle does not have keeps its occurrences on either side.
theorem infix_beside (foreign : mark ∉ needle) (occurs : needle <:+: left ++ mark :: right) :
    needle <:+: left ∨ needle <:+: right := by
  obtain ⟨before,after,split⟩ := occurs
  rw [List.append_assoc] at split
  rcases List.append_eq_append_iff.mp split with ⟨more,rfl,rest⟩ | ⟨more,rfl,rest⟩
  · rcases List.append_eq_append_iff.mp rest with ⟨inside,rfl,_⟩ | ⟨inside,rfl,back⟩
    · exact .inl ⟨before,inside,by simp⟩
    · cases inside with
      | nil => exact .inl ⟨before,[],by simp⟩
      | cons byte others =>
        cases back
        exact absurd (by simp) foreign
  · cases more with
    | nil =>
      cases needle with
      | nil => exact .inl List.nil_infix
      | cons byte others =>
        simp only [List.nil_append,List.cons_append,List.cons.injEq] at rest
        exact absurd (by simp [rest.1]) foreign
    | cons byte others =>
      simp only [List.cons_append,List.cons.injEq] at rest
      exact .inr ⟨others,after,by simp [rest.2]⟩

theorem infix_between {middle : Text} (foreign : ∀ byte ∈ middle, byte ∉ needle) (some : middle ≠ [])
    (occurs : needle <:+: left ++ (middle ++ right)) : needle <:+: left ∨ needle <:+: right := by
  induction middle generalizing left with
  | nil => exact absurd rfl some
  | cons byte rest ih =>
    rcases infix_beside (foreign byte List.mem_cons_self) occurs with before | behind
    · exact .inl before
    · by_cases last : rest = []
      · subst last
        exact .inr behind
      · have later : needle <:+: [] ++ (rest ++ right) := behind
        rcases ih (fun other inside => foreign other (List.mem_cons_of_mem _ inside)) last later with none | right
        · exact .inl (none.trans List.nil_infix)
        · exact .inr right

def trimmed (byte : UInt8) : Bool := byte = 59 || byte = 32 || byte = carriageReturn

theorem rdropWhile_longer {byte : UInt8} (stays : trimmed byte = false)
    (inside : byte ∈ right) : (left ++ right).rdropWhile trimmed ≠ left := by
  have kept : right.reverse.dropWhile trimmed ≠ [] := by
    intro none
    have all := List.dropWhile_eq_nil_iff.mp none byte (List.mem_reverse.mpr inside)
    rw [stays] at all
    cases all
  intro same
  have length := congrArg List.length same
  rw [List.rdropWhile,List.reverse_append,List.dropWhile_append,if_neg (by simpa using kept),
    List.length_reverse,List.length_append,List.length_reverse] at length
  have positive := List.length_pos_of_ne_nil kept
  omega

end Search

section Header
variable {param : OtherParam} {header : FormHeader}

theorem gap_foreign (gap : Gap) : ∀ byte ∈ gap.text, byte ∉ bytes "boundary=" := by
  have foreign : semicolon ∉ bytes "boundary=" ∧ space ∉ bytes "boundary=" ∧ tab ∉ bytes "boundary=" := by
    decide
  intro byte inside
  have blank := gap.blank byte
  simp only [Gap.text,List.mem_append,List.mem_cons] at inside blank
  rcases inside with before | rfl | behind
  · rcases blank (.inl before) with rfl | rfl
    · exact foreign.2.1
    · exact foreign.2.2
  · exact foreign.1
  · rcases blank (.inr behind) with rfl | rfl
    · exact foreign.2.1
    · exact foreign.2.2

-- The semicolon in front of every parameter separates it from what precedes it.
theorem gap_apart {left right : Text} (gap : Gap) (first : ¬ bytes "boundary=" <:+: left)
    (second : ¬ bytes "boundary=" <:+: right) : ¬ bytes "boundary=" <:+: left ++ (gap.text ++ right) := by
  intro occurs
  rcases infix_between (gap_foreign gap) (by simp [Gap.text]) occurs with before | behind
  · exact first before
  · exact second behind

theorem params_clean {left : Text} (first : ¬ bytes "boundary=" <:+: left) (params : List OtherParam) :
    ¬ bytes "boundary=" <:+: left ++ params.flatMap OtherParam.text := by
  induction params generalizing left with
  | nil => simpa using first
  | cons param rest ih =>
    have own := ih (gap_apart param.gap first param.other)
    simpa [OtherParam.text] using own

theorem front_clean (header : FormHeader) : ¬ bytes "boundary=" <:+: header.front := by
  have opening : ¬ bytes "boundary=" <:+: bytes "multipart/form-data" := by decide
  have apart := gap_apart header.gap (params_clean opening header.earlier) (by decide : ¬ _ <:+: [])
  simpa [FormHeader.front] using apart

theorem boundary_found (header : FormHeader) : cut (bytes "boundary=") header.text =
    some (header.front,
      written header.quoted header.boundary.text ++ header.later.flatMap OtherParam.text) := by
  have needle : bytes "boundary=" = 98 :: bytes "oundary=" := by decide
  have absent := front_clean header
  rw [needle] at absent
  rw [FormHeader.text,needle]
  exact cut_first (by decide) absent _

theorem boundary_untrimmed (boundary : BoundaryToken) :
    boundary.text.rdropWhile trimmed = boundary.text := by
  rw [List.rdropWhile_eq_self_iff]
  intro nonempty
  obtain ⟨_,first,second,third⟩ := boundary.plain _ (List.getLast_mem nonempty)
  have returns : boundary.text.getLast nonempty ≠ carriageReturn := by
    intro same
    rw [same] at third
    exact absurd third (by decide)
  simpa [trimmed] using ⟨⟨first,second⟩,returns⟩

theorem later_stays (param : OtherParam) : ∃ byte ∈ param.text, trimmed byte = false := by
  obtain ⟨nonempty,named⟩ := (Bool.and_eq_true _ _).mp param.token
  obtain ⟨byte,inside⟩ := List.exists_mem_of_ne_nil param.name (by simpa using nonempty)
  have token := List.all_eq_true.mp named byte inside
  have none : tokenByte 59 = false ∧ tokenByte 32 = false ∧ tokenByte carriageReturn = false := by
    decide +kernel
  refine ⟨byte,by simp [OtherParam.text,inside],?_⟩
  simp only [trimmed,Bool.or_eq_false_iff,decide_eq_false_iff_not]
  refine ⟨⟨?_,?_⟩,?_⟩
  all_goals
    rintro rfl
    simp [none] at token

theorem extract_quoted (header : FormHeader) (quoted : header.quoted = true) :
    extractBoundary header.text = header.boundary.text := by
  have clean : quote ∉ header.boundary.text := fun inside => (header.boundary.plain quote inside).1 rfl
  have more (rest : Text) : header.boundary.text ++ quote :: rest ≠ [] :=
    List.append_ne_nil_of_left_ne_nil header.boundary.nonempty _
  rw [extractBoundary,boundary_found,quoted]
  simp only [written,if_true,List.cons_append,List.append_assoc,List.nil_append,true_and,more,ne_eq,
    not_false_eq_true,cut_quote clean]
  exact boundary_untrimmed header.boundary

theorem extract_unquoted (header : FormHeader) (unquoted : header.quoted = false) :
    extractBoundary header.text =
      (header.boundary.text ++ header.later.flatMap OtherParam.text).rdropWhile trimmed := by
  obtain ⟨first,rest,whole⟩ := List.exists_cons_of_ne_nil header.boundary.nonempty
  have plain := (header.boundary.plain first (by simp [whole])).1
  rw [extractBoundary,boundary_found,unquoted,written,if_neg Bool.false_ne_true,whole]
  simp only [List.cons_append,plain,false_and,if_false]
  rfl

theorem extracted_iff (header : FormHeader) : extractBoundary header.text = header.boundary.text ↔
    header.quoted = true ∨ header.later = [] := by
  cases quoted : header.quoted with
  | true => simp [extract_quoted header quoted]
  | false =>
    rw [extract_unquoted header quoted]
    cases behind : header.later with
    | nil => simp [boundary_untrimmed]
    | cons param rest =>
      obtain ⟨byte,inside,stays⟩ := later_stays param
      have behind : byte ∈ (param :: rest).flatMap OtherParam.text := by
        rw [List.flatMap_cons]
        exact List.mem_append_left _ inside
      have longer : (header.boundary.text ++ _).rdropWhile trimmed ≠ header.boundary.text :=
        rdropWhile_longer stays behind
      simp only [longer,Bool.false_eq_true,List.cons_ne_nil,or_self]

end Header

-- Of an unquoted boundary nothing but the end of the header marks the end.
theorem boundary_understood_iff (header : FormHeader) :
    header.Understood ↔ header.quoted = true ∨ header.later = [] := by
  rw [← extracted_iff]
  constructor
  · exact FormHeader.Understood.extracted
  · intro extracted
    refine ⟨extracted,?_⟩
    intro fields valid distinct
    have plain : carriageReturn ∉ header.boundary.text := by
      intro inside
      exact absurd (header.boundary.plain _ inside).2.2.2 (by decide)
    rw [extracted]
    exact parse_rendered plain valid distinct

def singleSpace : Gap := ⟨[],[space],by decide +kernel⟩

-- A boundary with a charset behind it, and a form of one field.
def charsetBehind : FormHeader where
  earlier := []
  gap := singleSpace
  boundary := ⟨bytes "abc",by decide,by decide +kernel⟩
  quoted := false
  later := [
    { gap := singleSpace, name := bytes "charset", value := bytes "utf-8", quoted := false
      token := by decide +kernel, wellFormed := by decide +kernel, other := by decide }]

def modelField : Field := ⟨bytes "model",none,none,bytes "m"⟩

theorem boundary_swallows_parameter :
    charsetBehind.text = bytes "multipart/form-data; boundary=abc; charset=utf-8" ∧
    extractBoundary charsetBehind.text = bytes "abc; charset=utf-8" ∧
    parse (render (bytes "abc") [modelField]) (extractBoundary charsetBehind.text) =
      .error (bytes "MultipartParser: boundary not found in body") ∧
    ¬ charsetBehind.Understood := by
  have swallowed : extractBoundary charsetBehind.text = bytes "abc; charset=utf-8" := by decide
  refine ⟨by decide,swallowed,?_,?_⟩
  · rw [swallowed]
    rfl
  · intro understood
    have same := swallowed.symm.trans understood.extracted
    exact absurd same (by decide)

end JotaTranscriber.MultipartParser

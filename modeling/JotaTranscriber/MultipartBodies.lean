import JotaTranscriber.MultipartRoundTrip

-- Which bodies parse() reads to their end, and what it makes of the others.
namespace JotaTranscriber.MultipartParser

-- What a search has passed over: the needle ends behind it and not before.
def Before (needle front : Text) : Prop := ¬ needle <:+: (front ++ needle).dropLast

section Search
variable {needle text before after : Text}

theorem before_nil (nonempty : needle ≠ []) : Before needle [] := by
  intro inside
  have shorter := inside.length_le
  have positive := List.length_pos_iff.mpr nonempty
  simp only [List.nil_append,List.length_dropLast] at shorter
  omega

theorem before_cons {byte : UInt8} (nonempty : needle ≠ []) (after : Text) :
    Before needle (byte :: before) ↔ ¬ needle <+: byte :: (before ++ needle) ++ after ∧ Before needle before := by
  have last : (byte :: before ++ needle).dropLast = byte :: (before ++ needle).dropLast :=
    List.dropLast_cons_of_ne_nil (List.append_ne_nil_of_right_ne_nil _ nonempty)
  have length : (byte :: (before ++ needle).dropLast).length = before.length + needle.length := by
    have positive := List.length_pos_iff.mpr nonempty
    simp only [List.length_cons,List.length_dropLast,List.length_append]
    omega
  have front : byte :: (before ++ needle).dropLast <+: byte :: (before ++ needle) ++ after :=
    (List.cons_prefix_cons.mpr ⟨rfl,List.dropLast_prefix _⟩).trans (List.prefix_append _ _)
  have starts : needle <+: byte :: (before ++ needle).dropLast ↔
      needle <+: byte :: (before ++ needle) ++ after := by
    constructor
    · intro inside
      exact inside.trans front
    · intro inside
      exact List.prefix_of_prefix_length_le inside front (by omega)
  rw [Before,last,List.infix_cons_iff,starts,not_or,Before]

theorem cut_eq_some_iff (nonempty : needle ≠ []) : cut needle text = some (before,after) ↔
    text = before ++ needle ++ after ∧ Before needle before := by
  induction text generalizing before with
  | nil =>
    constructor
    · intro found
      simp [cut,nonempty] at found
    · rintro ⟨split,_⟩
      simp [nonempty] at split
  | cons byte rest ih =>
    by_cases starts : needle <+: byte :: rest
    · obtain ⟨tail,whole⟩ := starts
      rw [← whole,cut_found tail nonempty]
      constructor
      · intro found
        cases found
        exact ⟨rfl,before_nil nonempty⟩
      · rintro ⟨split,clean⟩
        cases before with
        | nil => simp [List.append_cancel_left split]
        | cons first others =>
          have here := ((before_cons nonempty after).mp clean).1
          exact absurd ⟨tail,split⟩ here
    · rw [cut_skip starts]
      constructor
      · intro found
        obtain ⟨⟨front,back⟩,inner,same⟩ := Option.map_eq_some_iff.mp found
        cases same
        obtain ⟨split,clean⟩ := ih.mp inner
        rw [split] at starts
        exact ⟨by rw [split]; rfl,(before_cons nonempty _).mpr ⟨starts,clean⟩⟩
      · rintro ⟨split,clean⟩
        cases before with
        | nil => exact absurd ⟨after,split.symm⟩ starts
        | cons first others =>
          cases split
          rw [ih.mpr ⟨rfl,((before_cons nonempty after).mp clean).2⟩]
          rfl

theorem cut_eq_none_iff (nonempty : needle ≠ []) : cut needle text = none ↔ ¬ needle <:+: text := by
  refine ⟨?_,cut_none⟩
  intro missing inside
  induction text with
  | nil => exact nonempty (List.infix_nil.mp inside)
  | cons byte rest ih =>
    by_cases starts : needle <+: byte :: rest
    · obtain ⟨tail,whole⟩ := starts
      rw [← whole,cut_found tail nonempty] at missing
      cases missing
    · rw [cut_skip starts,Option.map_eq_none_iff] at missing
      rcases List.infix_cons_iff.mp inside with here | later
      · exact starts here
      · exact ih missing later

theorem before_unique {front back : Text} (nonempty : needle ≠ []) (left : Before needle before)
    (right : Before needle front) (same : before ++ needle ++ after = front ++ needle ++ back) :
    before = front ∧ after = back := by
  have one : cut needle (before ++ needle ++ after) = some (before,after) :=
    (cut_eq_some_iff nonempty).mpr ⟨rfl,left⟩
  have two : cut needle (before ++ needle ++ after) = some (front,back) :=
    (cut_eq_some_iff nonempty).mpr ⟨same,right⟩
  cases one.symm.trans two
  exact ⟨rfl,rfl⟩

end Search

structure Piece where
  headers : Text
  data : List UInt8
  deriving DecidableEq, Repr

namespace Piece

def read (piece : Piece) : Headers := (lines piece.headers).foldl parseHeader ⟨[],[],[]⟩

def name (piece : Piece) : Text := piece.read.fieldName

def part (piece : Piece) : Part := ⟨piece.read.filename,piece.read.contentType,piece.data⟩

def store (parts : Parts) (piece : Piece) : Parts :=
  if piece.name.isEmpty then parts else parts.assign piece.name piece.part

end Piece

def collect (pieces : List Piece) : Parts := pieces.foldl Piece.store []

def opener (boundary : Text) : Text := dashes ++ boundary
def delimiter (boundary : Text) : Text := crlf ++ dashes ++ boundary
def blankLine : Text := crlf ++ crlf

-- The parts behind a boundary, one after the other, and the text behind the
-- boundary that ends the last of them.
inductive Pieces (boundary : Text) : Text → List Piece → Text → Prop where
  | nil : Pieces boundary rest [] rest
  | cons (headed : Before blankLine headers) (ended : Before (delimiter boundary) data)
      (others : Pieces boundary text pieces rest) :
      Pieces boundary (crlf ++ (headers ++ blankLine ++ (data ++ delimiter boundary ++ text)))
        (⟨headers,data⟩ :: pieces) rest

-- From the first boundary of the body on.
def Cuts (boundary body : Text) (pieces : List Piece) (rest : Text) : Prop :=
  ∃ preamble text, body = preamble ++ opener boundary ++ text ∧ Before (opener boundary) preamble ∧
    Pieces boundary text pieces rest

-- Down to the closing boundary.
def Complete (boundary body : Text) (pieces : List Piece) : Prop :=
  ∃ rest, Cuts boundary body pieces rest ∧ dashes <+: rest

def lastNamed (name : Text) (pieces : List Piece) : Option Part :=
  if name = [] then none else (pieces.reverse.find? fun piece => piece.name = name).map Piece.part

structure Represents (parts : Parts) (pieces : List Piece) : Prop where
  distinct : (parts.map Prod.fst).Nodup
  lookup : ∀ name, parts.lookup name = lastNamed name pieces

-- The ways out of the loop: the two breaks and the two exceptions.
inductive Leaves (boundary : Text) (parts : Parts) : Text → Except Text Parts → Prop where
  | closed (closes : dashes <+: rest) : Leaves boundary parts rest (.ok parts)
  | stray (opens : ¬ dashes <+: rest) (other : ¬ crlf <+: rest) : Leaves boundary parts rest (.ok parts)
  | headless (missing : ¬ blankLine <:+: text) : Leaves boundary parts (crlf ++ text)
      (.error (bytes "MultipartParser: malformed part — no header terminator"))
  | endless (headed : Before blankLine headers) (missing : ¬ delimiter boundary <:+: text) :
      Leaves boundary parts (crlf ++ (headers ++ blankLine ++ text))
        (.error (bytes "MultipartParser: malformed part — no closing boundary"))

-- The loop ends: after some parts it is left in one of these ways.
def Terminates (boundary body : Text) : Prop :=
  ¬ opener boundary <:+: body ∨
    ∃ pieces rest, Cuts boundary body pieces rest ∧
      Leaves boundary (collect pieces) rest (parse body boundary)

structure Strict (boundary body : Text) : Prop where
  terminates : Terminates boundary body
  complete : ∀ parts, parse body boundary = .ok parts →
    ∃ pieces, Complete boundary body pieces ∧ Represents parts pieces
  returns : ∀ pieces, Complete boundary body pieces → ∃ parts, parse body boundary = .ok parts
  throws : (¬ ∃ pieces, Complete boundary body pieces) → ∃ what, parse body boundary = .error what

section Bodies
variable {boundary body text rest other : Text} {pieces more : List Piece} {parts : Parts}

theorem opener_nonempty (boundary : Text) : opener boundary ≠ [] :=
  List.append_ne_nil_of_left_ne_nil (by decide) _

theorem delimiter_nonempty (boundary : Text) : delimiter boundary ≠ [] :=
  List.append_ne_nil_of_left_ne_nil (by decide) _

theorem crlf_open (text : Text) : ¬ dashes <+: crlf ++ text := by
  intro closes
  exact absurd (List.cons_prefix_cons.mp closes).1 (by decide)

theorem Pieces.linear (first : Pieces boundary text pieces rest) (second : Pieces boundary text more other) :
    (∃ later, Pieces boundary rest later other ∧ more = pieces ++ later) ∨
      ∃ later, Pieces boundary other later rest ∧ pieces = more ++ later := by
  induction first generalizing more with
  | nil => exact .inl ⟨more,second,rfl⟩
  | @cons headers data text pieces rest headed ended others ih =>
    generalize whole : crlf ++ (headers ++ blankLine ++ (data ++ delimiter boundary ++ text)) = body
      at second
    cases second with
    | nil => exact .inr ⟨_,whole ▸ .cons headed ended others,rfl⟩
    | @cons headers' data' text' pieces' rest' headed' ended' others' =>
      obtain ⟨rfl,behind⟩ := before_unique (by decide) headed headed' (List.append_cancel_left whole)
      obtain ⟨rfl,rfl⟩ := before_unique (delimiter_nonempty boundary) ended ended' behind
      rcases ih others' with ⟨later,read,rfl⟩ | ⟨later,read,rfl⟩
      · exact .inl ⟨later,read,rfl⟩
      · exact .inr ⟨later,read,rfl⟩

theorem Pieces.append (first : Pieces boundary text pieces rest) (second : Pieces boundary rest more other) :
    Pieces boundary text (pieces ++ more) other := by
  induction first with
  | nil => exact second
  | cons headed ended _ ih => exact .cons headed ended (ih second)

theorem Pieces.opens (later : Pieces boundary text pieces rest) (different : text ≠ rest) :
    crlf <+: text := by
  cases later with
  | nil => exact absurd rfl different
  | cons => exact List.prefix_append _ _

def Final (boundary rest : Text) : Prop :=
  ∀ pieces other, Pieces boundary rest pieces other → pieces = []

theorem final_of_closed (closes : dashes <+: rest) : Final boundary rest := by
  intro pieces other later
  cases later with
  | nil => rfl
  | cons => exact absurd closes (crlf_open _)

theorem final_of_stray (stray : ¬ crlf <+: rest) : Final boundary rest := by
  intro pieces other later
  cases later with
  | nil => rfl
  | cons => exact absurd (List.prefix_append _ _) stray

theorem Leaves.final {result : Except Text Parts} (leaves : Leaves boundary parts rest result) :
    Final boundary rest := by
  cases leaves with
  | closed closes => exact final_of_closed closes
  | stray _ stray => exact final_of_stray stray
  | @headless text missing =>
    intro pieces other later
    generalize whole : crlf ++ text = body at later
    cases later with
    | nil => rfl
    | @cons headers data tail =>
      cases List.append_cancel_left whole
      exact absurd ⟨headers,data ++ delimiter boundary ++ tail,rfl⟩ missing
  | @endless headers text headed missing =>
    intro pieces other later
    generalize whole : crlf ++ (headers ++ blankLine ++ text) = body at later
    cases later with
    | nil => rfl
    | @cons headers' data tail _ _ headed' =>
      obtain ⟨rfl,rfl⟩ := before_unique (by decide) headed headed' (List.append_cancel_left whole)
      exact absurd ⟨data,tail,rfl⟩ missing

theorem Cuts.unique (first : Cuts boundary body pieces rest) (second : Cuts boundary body more other)
    (final : Final boundary rest) (last : Final boundary other) : pieces = more ∧ rest = other := by
  obtain ⟨preamble,text,rfl,clean,read⟩ := first
  obtain ⟨front,tail,same,clean',read'⟩ := second
  obtain ⟨rfl,rfl⟩ := before_unique (opener_nonempty boundary) clean clean' same
  rcases read.linear read' with ⟨later,behind,rfl⟩ | ⟨later,behind,rfl⟩
  · cases final _ _ behind
    cases behind
    exact ⟨(List.append_nil _).symm,rfl⟩
  · cases last _ _ behind
    cases behind
    exact ⟨List.append_nil _,rfl⟩

theorem parseParts_leaves (boundary : Text) (fuel : Nat) (text : Text) (parts : Parts)
    (enough : text.length < fuel) : ∃ pieces rest, Pieces boundary text pieces rest ∧
      Leaves boundary (pieces.foldl Piece.store parts) rest
        (parseParts (delimiter boundary) fuel text parts) := by
  induction fuel generalizing text parts with
  | zero => cases enough
  | succ fuel ih =>
    simp only [parseParts]
    split
    · rename_i closes
      exact ⟨[],text,.nil,.closed (List.isPrefixOf_iff_prefix.mp closes)⟩
    rename_i opens
    have still : ¬ dashes <+: text := fun closes => opens (List.isPrefixOf_iff_prefix.mpr closes)
    split
    · rename_i missed
      have stray : ¬ crlf <+: text := by
        rintro ⟨behind,rfl⟩
        rw [List.dropPrefix?_append_of_beq behind BEq.rfl] at missed
        cases missed
      exact ⟨[],text,.nil,.stray still stray⟩
    · rename_i rest stripped
      cases dropPrefix_some stripped
      split
      · rename_i missing
        exact ⟨[],_,.nil,.headless ((cut_eq_none_iff (by decide)).mp missing)⟩
      · rename_i headers behind found
        obtain ⟨rfl,headed⟩ := (cut_eq_some_iff (by decide)).mp found
        split
        · rename_i missing
          exact ⟨[],_,.nil,.endless headed ((cut_eq_none_iff (delimiter_nonempty boundary)).mp missing)⟩
        · rename_i data next closed
          obtain ⟨rfl,ended⟩ := (cut_eq_some_iff (delimiter_nonempty boundary)).mp closed
          have shorter : next.length < fuel := by
            simp only [List.length_append,crlf,List.length_cons] at enough
            omega
          obtain ⟨pieces,rest,read,leaves⟩ := ih next (Piece.store parts ⟨headers,data⟩) shorter
          exact ⟨⟨headers,data⟩ :: pieces,rest,.cons headed ended read,leaves⟩

theorem parse_terminates (boundary body : Text) : Terminates boundary body := by
  by_cases opened : opener boundary <:+: body
  · cases found : cut (opener boundary) body with
    | none => exact absurd opened ((cut_eq_none_iff (opener_nonempty boundary)).mp found)
    | some split =>
      obtain ⟨preamble,text⟩ := split
      obtain ⟨whole,clean⟩ := (cut_eq_some_iff (opener_nonempty boundary)).mp found
      obtain ⟨pieces,rest,read,leaves⟩ :=
        parseParts_leaves boundary (text.length + 1) text [] (Nat.lt_succ_self _)
      have parsed : parse body boundary =
          parseParts (delimiter boundary) (text.length + 1) text [] := by
        rw [parse,show dashes ++ boundary = opener boundary from rfl,found]
        rfl
      exact .inr ⟨pieces,rest,⟨preamble,text,whole,clean,read⟩,parsed ▸ leaves⟩
  · exact .inl opened

theorem parse_unopened (unopened : ¬ opener boundary <:+: body) :
    parse body boundary = .error (bytes "MultipartParser: boundary not found in body") := by
  have found : cut (dashes ++ boundary) body = none := cut_none unopened
  rw [parse,found]

theorem Cuts.opened (cuts : Cuts boundary body pieces rest) : opener boundary <:+: body := by
  obtain ⟨preamble,text,rfl,_⟩ := cuts
  exact ⟨preamble,text,rfl⟩

theorem Cuts.parsed (cuts : Cuts boundary body pieces rest) (final : Final boundary rest) :
    Leaves boundary (collect pieces) rest (parse body boundary) := by
  rcases parse_terminates boundary body with unopened | ⟨more,other,found,leaves⟩
  · exact absurd cuts.opened unopened
  · obtain ⟨rfl,rfl⟩ := cuts.unique found final leaves.final
    exact leaves

theorem Cuts.stored (cuts : Cuts boundary body pieces rest) (final : Final boundary rest)
    (returned : parse body boundary = .ok parts) : parts = collect pieces := by
  have leaves := cuts.parsed final
  rw [returned] at leaves
  cases leaves with
  | closed | stray => rfl

theorem Cuts.returned (cuts : Cuts boundary body pieces rest) (closes : dashes <+: rest) :
    parse body boundary = .ok (collect pieces) := by
  have leaves := cuts.parsed (final_of_closed closes)
  generalize parse body boundary = result at leaves
  cases leaves with
  | closed | stray => rfl
  | headless => exact absurd closes (crlf_open _)
  | endless => exact absurd closes (crlf_open _)

end Bodies

section Map
variable {pieces : List Piece} {parts : Parts}

theorem lookup_assign_same (parts : Parts) (name : Text) (part : Part) :
    (parts.assign name part).lookup name = some part :=
  List.lookup_cons_self

theorem lookup_assign_other {name other : Text} (parts : Parts) (part : Part) (different : other ≠ name) :
    (parts.assign name part).lookup other = parts.lookup other := by
  rw [Parts.assign,List.lookup_cons,beq_eq_false_iff_ne.mpr different]
  induction parts with
  | nil => rfl
  | cons entry rest ih =>
    by_cases same : entry.1 = name
    · have dropped : (entry.1 != name) = false := by simp [same]
      have passed : (other == entry.1) = false := by simp [same,different]
      rw [List.filter_cons_of_neg (by simp [dropped]),List.lookup_cons,passed]
      exact ih
    · rw [List.filter_cons_of_pos (by simp [same]),List.lookup_cons,List.lookup_cons]
      cases other == entry.1 with
      | true => rfl
      | false => exact ih

theorem distinct_assign (distinct : (parts.map Prod.fst).Nodup) (name : Text) (part : Part) :
    ((parts.assign name part).map Prod.fst).Nodup := by
  rw [Parts.assign,List.map_cons,List.nodup_cons]
  constructor
  · intro present
    obtain ⟨entry,kept,same⟩ := List.mem_map.mp present
    have other := (List.mem_filter.mp kept).2
    simp [same] at other
  · exact distinct.sublist ((List.filter_sublist).map Prod.fst)

theorem lastNamed_snoc (name : Text) (pieces : List Piece) (piece : Piece) :
    lastNamed name (pieces ++ [piece]) =
      if name ≠ [] ∧ piece.name = name then some piece.part else lastNamed name pieces := by
  by_cases named : name = []
  · simp [lastNamed,named]
  · by_cases same : piece.name = name
    · simp [lastNamed,named,same]
    · simp [lastNamed,named,same]

theorem represents_snoc (represents : Represents parts pieces) (piece : Piece) :
    Represents (Piece.store parts piece) (pieces ++ [piece]) := by
  by_cases unnamed : piece.name = []
  · rw [Piece.store,if_pos (by simp [unnamed])]
    refine ⟨represents.distinct,?_⟩
    intro name
    rw [lastNamed_snoc,if_neg,represents.lookup]
    rintro ⟨named,rfl⟩
    exact named unnamed
  · rw [Piece.store,if_neg (by simp [unnamed])]
    refine ⟨distinct_assign represents.distinct _ _,?_⟩
    intro name
    rw [lastNamed_snoc]
    by_cases same : piece.name = name
    · subst same
      rw [if_pos ⟨unnamed,rfl⟩]
      exact lookup_assign_same _ _ _
    · rw [if_neg fun both => same both.2,lookup_assign_other _ _ (Ne.symm same)]
      exact represents.lookup name

theorem collect_represents (pieces : List Piece) : Represents (collect pieces) pieces := by
  induction pieces using List.reverseRecOn with
  | nil => exact ⟨List.nodup_nil,fun name => by simp [collect,lastNamed]⟩
  | append_singleton pieces piece ih =>
    rw [collect,List.foldl_append]
    exact represents_snoc ih piece

end Map

-- parse() is strict on exactly the bodies in which every boundary it gets to is
-- followed by a line break or by "--".
theorem parse_strict_iff (boundary body : Text) : Strict boundary body ↔
    ∀ pieces rest, Cuts boundary body pieces rest → dashes <+: rest ∨ crlf <+: rest := by
  constructor
  · intro strict pieces rest cuts
    by_contra stray
    obtain ⟨opens,unbroken⟩ := not_or.mp stray
    have leaves := cuts.parsed (final_of_stray unbroken)
    cases result : parse body boundary with
    | ok parts =>
      obtain ⟨more,⟨other,closed,closes⟩,_⟩ := strict.complete parts result
      obtain ⟨_,rfl⟩ := cuts.unique closed (final_of_stray unbroken) (final_of_closed closes)
      exact opens closes
    | error what =>
      rw [result] at leaves
      cases leaves with
      | headless => exact unbroken (List.prefix_append _ _)
      | endless => exact unbroken (List.prefix_append _ _)
  · intro followed
    refine ⟨parse_terminates boundary body,?_,?_,?_⟩
    · intro parts result
      rcases parse_terminates boundary body with unopened | ⟨pieces,rest,cuts,leaves⟩
      · rw [parse_unopened unopened] at result
        cases result
      · rw [result] at leaves
        cases leaves with
        | closed closes => exact ⟨pieces,⟨rest,cuts,closes⟩,collect_represents pieces⟩
        | stray opens unbroken =>
          rcases followed pieces rest cuts with closes | breaks
          · exact absurd closes opens
          · exact absurd breaks unbroken
    · rintro pieces ⟨rest,cuts,closes⟩
      exact ⟨_,cuts.returned closes⟩
    · intro incomplete
      rcases parse_terminates boundary body with unopened | ⟨pieces,rest,cuts,leaves⟩
      · exact ⟨_,parse_unopened unopened⟩
      · generalize parse body boundary = result at leaves
        cases leaves with
        | closed closes => exact absurd ⟨pieces,rest,cuts,closes⟩ incomplete
        | stray opens unbroken =>
          rcases followed pieces rest cuts with closes | breaks
          · exact absurd closes opens
          · exact absurd breaks unbroken
        | headless | endless => exact ⟨_,rfl⟩

-- A body that breaks off behind the boundary of its second part.
def cutHeaders : Text := bytes "Content-Disposition: form-data; name=\"model\""

def cutBody : Text :=
  opener (bytes "b") ++ (crlf ++ (cutHeaders ++ blankLine ++ (bytes "m" ++ delimiter (bytes "b") ++ [])))

theorem truncated_body_accepted :
    parse cutBody (bytes "b") = .ok [(bytes "model",⟨[],[],bytes "m"⟩)] ∧
    (¬ ∃ pieces, Complete (bytes "b") cutBody pieces) ∧ ¬ Strict (bytes "b") cutBody := by
  have headed : Before blankLine cutHeaders := by
    unfold Before
    decide
  have ended : Before (delimiter (bytes "b")) (bytes "m") := by
    unfold Before
    decide
  have cuts : Cuts (bytes "b") cutBody [⟨cutHeaders,bytes "m"⟩] [] :=
    ⟨[],_,rfl,before_nil (by decide),.cons headed ended .nil⟩
  have incomplete : ¬ ∃ pieces, Complete (bytes "b") cutBody pieces := by
    rintro ⟨pieces,rest,other,closes⟩
    obtain ⟨_,rfl⟩ := cuts.unique other (final_of_stray (by decide)) (final_of_closed closes)
    exact absurd closes (by decide)
  have accepted : parse cutBody (bytes "b") = .ok [(bytes "model",⟨[],[],bytes "m"⟩)] := by
    decide +kernel
  refine ⟨accepted,incomplete,?_⟩
  intro strict
  obtain ⟨what,failed⟩ := strict.throws incomplete
  cases accepted.symm.trans failed

end JotaTranscriber.MultipartParser

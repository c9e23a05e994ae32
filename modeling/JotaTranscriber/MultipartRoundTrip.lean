import JotaTranscriber.MultipartParser

namespace JotaTranscriber.MultipartParser

section Search
variable {needle text before after tail : Text} {byte head : UInt8}

theorem cut_found (after : Text) (nonempty : needle ≠ []) : cut needle (needle ++ after) = some ([],after) := by
  cases needle with
  | nil => exact absurd rfl nonempty
  | cons head tail =>
    have stripped : (head :: tail ++ after).dropPrefix? (head :: tail) = some after :=
      List.dropPrefix?_append_of_beq after BEq.rfl
    rw [List.cons_append] at stripped ⊢
    rw [cut,stripped]

theorem cut_skip (missed : ¬ needle <+: byte :: text) :
    cut needle (byte :: text) = (cut needle text).map fun found => (byte :: found.1,found.2) := by
  rw [cut]
  split
  · rename_i after stripped
    exact absurd ⟨after,(dropPrefix_some stripped).symm⟩ missed
  · rfl

theorem cut_pass (absent : head ∉ before) (text : Text) :
    cut (head :: tail) (before ++ text) =
      (cut (head :: tail) text).map fun found => (before ++ found.1,found.2) := by
  induction before with
  | nil => simp
  | cons byte rest ih =>
    obtain ⟨other,others⟩ := not_or.mp (List.mem_cons.not.mp absent)
    have missed : ¬ head :: tail <+: byte :: (rest ++ text) := by
      intro starts
      exact other (List.cons_prefix_cons.mp starts).1
    rw [List.cons_append,cut_skip missed,ih others,Option.map_map]
    rfl

theorem cut_none (absent : ¬ needle <:+: text) : cut needle text = none := by
  induction text with
  | nil =>
    have nonempty : needle ≠ [] := by
      rintro rfl
      exact absent (List.nil_infix)
    simp [cut,nonempty]
  | cons byte rest ih =>
    have missed : ¬ needle <+: byte :: rest := fun starts => absent starts.isInfix
    have later : ¬ needle <:+: rest := fun inside => absent (inside.trans (List.suffix_cons byte rest).isInfix)
    rw [cut_skip missed,ih later]
    rfl

-- An occurrence that ends behind `before` would have the needle's first byte
-- once more inside it.
theorem cut_first (single : head ∉ tail) (absent : ¬ head :: tail <:+: before) (after : Text) :
    cut (head :: tail) (before ++ (head :: tail) ++ after) = some (before,after) := by
  induction before with
  | nil => exact cut_found after (List.cons_ne_nil _ _)
  | cons byte rest ih =>
    have later : ¬ head :: tail <:+: rest := fun inside =>
      absent (inside.trans (List.suffix_cons byte rest).isInfix)
    have missed : ¬ head :: tail <+: byte :: (rest ++ (head :: tail) ++ after) := by
      intro starts
      obtain ⟨first,others⟩ := List.cons_prefix_cons.mp starts
      rw [List.append_assoc] at others
      rcases List.prefix_or_prefix_of_prefix others (List.prefix_append rest _) with inside | longer
      · exact absent (List.cons_prefix_cons.mpr ⟨first,inside⟩).isInfix
      · obtain ⟨overlap,rfl⟩ := longer
        have starts_again := (List.prefix_append_right_inj rest).mp others
        cases overlap with
        | nil => exact absent (by simp only [first,List.append_nil,List.infix_rfl])
        | cons again _ =>
          obtain ⟨same,_⟩ := List.cons_prefix_cons.mp starts_again
          exact single (by simp [same])
    rw [List.cons_append,List.cons_append,cut_skip missed,ih later]
    rfl

theorem same_front {first second left right : Text} {mark : UInt8} (one : mark ∉ first)
    (two : mark ∉ second) (same : first ++ mark :: left = second ++ mark :: right) : first = second := by
  rcases List.append_eq_append_iff.mp same with ⟨more,rfl,split⟩ | ⟨more,rfl,split⟩
  all_goals
    cases more with
    | nil => simp
    | cons byte others =>
      simp only [List.cons_append,List.cons.injEq] at split
      simp [split.1] at one two

-- A needle that ends in a byte it has only there occurs before the first such
-- byte of the text or behind it.
theorem infix_split {stem front rest : Text} {mark : UInt8} (single : mark ∉ stem) (clean : mark ∉ front)
    (occurs : stem ++ [mark] <:+: front ++ mark :: rest) :
    stem <:+ front ∨ stem ++ [mark] <:+: rest := by
  obtain ⟨left,right,split⟩ := occurs
  induction front generalizing left with
  | nil =>
    cases left with
    | nil =>
      cases stem with
      | nil => exact .inl (List.nil_suffix)
      | cons byte others =>
        simp only [List.nil_append,List.cons_append,List.cons.injEq] at split
        exact absurd (by simp [split.1]) single
    | cons byte others =>
      simp only [List.cons_append,List.nil_append,List.cons.injEq] at split
      exact .inr ⟨others,right,split.2⟩
  | cons byte others ih =>
    obtain ⟨other,clean_rest⟩ := not_or.mp (List.mem_cons.not.mp clean)
    cases left with
    | nil =>
      have whole : stem ++ mark :: right = (byte :: others) ++ mark :: rest := by simpa using split
      exact .inl (same_front single clean whole ▸ List.suffix_rfl)
    | cons first left =>
      simp only [List.cons_append,List.cons.injEq] at split
      rcases ih clean_rest left (by simpa using split.2) with ends | later
      · exact .inl (ends.trans (List.suffix_cons byte others))
      · exact .inr later

end Search

-- A form field as a client encodes it.
structure Field where
  name : Text
  filename : Option Text
  contentType : Option Text
  data : List UInt8
  deriving DecidableEq, Repr

namespace Field

def part (field : Field) : Part := ⟨field.filename.getD [],field.contentType.getD [],field.data⟩

def disposition (field : Field) : Text :=
  bytes "Content-Disposition: form-data; name=\"" ++ field.name ++ [quote] ++
    match field.filename with
    | none => []
    | some filename => bytes "; filename=\"" ++ filename ++ [quote]

def typeLine (contentType : Text) : Text := bytes "Content-Type: " ++ contentType

def headers (field : Field) : Text :=
  field.disposition ++
    match field.contentType with
    | none => []
    | some contentType => crlf ++ typeLine contentType

def render (boundary : Text) (field : Field) : Text :=
  dashes ++ boundary ++ crlf ++ field.headers ++ crlf ++ crlf ++ field.data ++ crlf

end Field

def render (boundary : Text) (fields : List Field) : Text :=
  fields.flatMap (Field.render boundary) ++ dashes ++ boundary ++ dashes ++ crlf

-- Text that may stand between double quotes in a header line.
structure Quotable (text : Text) : Prop where
  quote : quote ∉ text
  carriageReturn : carriageReturn ∉ text
  lineFeed : lineFeed ∉ text

structure Field.Valid (boundary : Text) (field : Field) : Prop where
  named : field.name ≠ []
  name : Quotable field.name
  unambiguous : ¬ bytes "filename=" <:+ field.name
  filename : ∀ filename ∈ field.filename, Quotable filename
  contentType : ∀ contentType ∈ field.contentType, contentType ≠ [] ∧ carriageReturn ∉ contentType ∧
    lineFeed ∉ contentType ∧ contentType.head? ≠ some 32
  data : ¬ crlf ++ dashes ++ boundary <:+: field.data

section Headers
variable {boundary : Text} {field : Field}

theorem cut_quote {value : Text} (clean : quote ∉ value) (rest : Text) :
    cut [quote] (value ++ quote :: rest) = some (value,rest) := by
  have absent : ¬ [quote] <:+: value := fun inside => clean (inside.subset (List.mem_singleton_self _))
  simpa using cut_first (List.not_mem_nil) absent rest

theorem disposition_name (valid : field.Valid boundary) :
    extractDispositionParam field.disposition (bytes "name") = field.name := by
  have needle : bytes "name" ++ bytes "=\"" = 110 :: bytes "ame=\"" := by decide
  have opening : bytes "Content-Disposition: form-data; name=\"" =
      bytes "Content-Disposition: form-data; " ++ 110 :: bytes "ame=\"" := by decide
  have found (rest : Text) := cut_first (by decide : (110 : UInt8) ∉ bytes "ame=\"")
    (by decide : ¬ 110 :: bytes "ame=\"" <:+: bytes "Content-Disposition: form-data; ") rest
  unfold extractDispositionParam Field.disposition
  rw [needle,opening]
  simp only [List.append_assoc,List.singleton_append] at found ⊢
  rw [found]
  simp only
  rw [cut_quote valid.name.quote]

theorem filename_absent (valid : field.Valid boundary) {tail : Text}
    (last : ¬ bytes "filename=" ++ [quote] <:+: tail) :
    ¬ bytes "filename=" ++ [quote] <:+:
      bytes "Content-Disposition: form-data; name=" ++ quote :: (field.name ++ quote :: tail) := by
  intro occurs
  rcases infix_split (by decide) (by decide) occurs with ends | later
  · exact absurd ends (by decide)
  · rcases infix_split (by decide) valid.name.quote later with ends | later
    · exact valid.unambiguous ends
    · exact last later

theorem disposition_filename (valid : field.Valid boundary) :
    extractDispositionParam field.disposition (bytes "filename") = field.filename.getD [] := by
  have needle : bytes "filename" ++ bytes "=\"" = bytes "filename=" ++ [quote] := by decide
  have opening : bytes "Content-Disposition: form-data; name=\"" =
      bytes "Content-Disposition: form-data; name=" ++ [quote] := by decide
  unfold extractDispositionParam Field.disposition
  rw [needle,opening]
  cases given : field.filename with
  | none =>
    have absent := cut_none (filename_absent valid (by decide : ¬ _ <:+: []))
    simp only [List.append_assoc,List.cons_append,List.nil_append,List.append_nil] at absent ⊢
    rw [absent]
    rfl
  | some filename =>
    have head : bytes "filename=" ++ [quote] = 102 :: bytes "ilename=\"" := by decide
    have second : bytes "; filename=\"" = bytes "; " ++ 102 :: bytes "ilename=\"" := by decide
    have absent := filename_absent valid (by decide : ¬ _ <:+: bytes "; ")
    rw [head] at absent
    have found := cut_first (by decide : (102 : UInt8) ∉ bytes "ilename=\"") absent (filename ++ [quote])
    rw [head]
    simp only [second,List.append_assoc,List.nil_append,List.cons_append] at found ⊢
    rw [found]
    simp only
    rw [cut_quote (valid.filename filename given).quote]
    rfl

theorem disposition_plain (valid : field.Valid boundary) :
    carriageReturn ∉ field.disposition ∧ lineFeed ∉ field.disposition := by
  have opening : ∀ byte ∈ [carriageReturn,lineFeed], byte ∉ bytes "Content-Disposition: form-data; name=\"" ∧
      byte ∉ bytes "; filename=\"" ∧ byte ≠ quote := by decide +kernel
  have one := opening carriageReturn (by decide)
  have two := opening lineFeed (by decide)
  unfold Field.disposition
  cases given : field.filename with
  | none => simp [one,two,valid.name.carriageReturn,valid.name.lineFeed]
  | some filename =>
    have clean := valid.filename filename given
    simp [one,two,valid.name.carriageReturn,valid.name.lineFeed,clean.carriageReturn,clean.lineFeed]

theorem typeLine_plain (valid : field.Valid boundary) {contentType : Text}
    (given : contentType ∈ field.contentType) :
    carriageReturn ∉ Field.typeLine contentType ∧ lineFeed ∉ Field.typeLine contentType := by
  obtain ⟨_,first,second,_⟩ := valid.contentType contentType given
  have opening : carriageReturn ∉ bytes "Content-Type: " ∧ lineFeed ∉ bytes "Content-Type: " := by decide
  simp [Field.typeLine,opening,first,second]

-- getline leaves the carriage return of a line, but not of the last.
theorem parseHeader_return (headers : Headers) {line : Text} (plain : carriageReturn ∉ line) :
    parseHeader headers (line ++ [carriageReturn]) = parseHeader headers line := by
  have last : line.getLast? ≠ some carriageReturn := fun same => plain (List.mem_of_getLast? same)
  simp only [parseHeader,List.getLast?_append,List.getLast?_singleton,Option.some_or,if_true,
    List.dropLast_concat,if_neg last]

theorem parseHeader_disposition (headers : Headers) (valid : field.Valid boundary) :
    parseHeader headers field.disposition =
      { headers with fieldName := field.name, filename := field.filename.getD [] } := by
  have last : field.disposition.getLast? ≠ some carriageReturn :=
    fun same => (disposition_plain valid).1 (List.mem_of_getLast? same)
  have starts : (bytes "content-disposition:").isPrefixOf (field.disposition.map toLower) = true := by
    rfl
  simp only [parseHeader,if_neg last,starts,if_true,disposition_name valid,disposition_filename valid]

theorem parseHeader_typeLine (headers : Headers) (valid : field.Valid boundary) {contentType : Text}
    (given : contentType ∈ field.contentType) :
    parseHeader headers (Field.typeLine contentType) = { headers with contentType } := by
  obtain ⟨nonempty,_,_,unspaced⟩ := valid.contentType contentType given
  have last : (Field.typeLine contentType).getLast? ≠ some carriageReturn :=
    fun same => (typeLine_plain valid given).1 (List.mem_of_getLast? same)
  have other : (bytes "content-disposition:").isPrefixOf ((Field.typeLine contentType).map toLower) =
      false := by rfl
  have starts : (bytes "content-type:").isPrefixOf ((Field.typeLine contentType).map toLower) = true := by
    rfl
  have value : cut (bytes ":") (Field.typeLine contentType) =
      some (bytes "Content-Type",32 :: contentType) := by
    exact cut_first (List.not_mem_nil) (by decide : ¬ [58] <:+: bytes "Content-Type") (32 :: contentType)
  have trimmed : (32 :: contentType).dropWhile (· = 32) = contentType := by
    cases contentType with
    | nil => exact absurd rfl nonempty
    | cons byte rest =>
      have kept : byte ≠ 32 := by simpa using unspaced
      simp [kept]
  simp only [parseHeader,if_neg last,other,starts,if_true,value,trimmed]
  simp [nonempty]

-- The lines of a header block, which the parser reads into the field.
theorem headers_parsed (valid : field.Valid boundary) :
    (lines field.headers).foldl parseHeader ⟨[],[],[]⟩ =
      ⟨field.name,field.filename.getD [],field.contentType.getD []⟩ := by
  obtain ⟨noReturn,noFeed⟩ := disposition_plain valid
  have nonempty : field.disposition ≠ [] := by
    intro empty
    have starts := congrArg List.head? empty
    cases starts
  unfold Field.headers lines
  cases given : field.contentType with
  | none =>
    rw [List.append_nil,List.splitOn_eq_singleton noFeed]
    simp [nonempty,parseHeader_disposition _ valid]
  | some contentType =>
    have present : contentType ∈ field.contentType := given
    have split : field.disposition ++ (crlf ++ Field.typeLine contentType) =
        (field.disposition ++ [carriageReturn]) ++ lineFeed :: Field.typeLine contentType := by
      simp [crlf]
    have noFeed' : lineFeed ∉ field.disposition ++ [carriageReturn] := by
      simp [noFeed]; decide
    have typed : Field.typeLine contentType ≠ [] := by
      intro empty
      have starts := congrArg List.head? empty
      cases starts
    simp only [split]
    rw [List.splitOn_append_cons_self_of_not_mem noFeed',
      List.splitOn_eq_singleton (typeLine_plain valid present).2]
    simp [typed,parseHeader_return _ noReturn,parseHeader_disposition _ valid,
      parseHeader_typeLine _ valid present]

-- The first empty line ends the header block: lines have no carriage return, and
-- the one behind the first line is followed by the second.
theorem headers_end (valid : field.Valid boundary) (rest : Text) :
    cut (crlf ++ crlf) (field.headers ++ ((crlf ++ crlf) ++ rest)) = some (field.headers,rest) := by
  obtain ⟨noReturn,_⟩ := disposition_plain valid
  have found : cut (crlf ++ crlf) ((crlf ++ crlf) ++ rest) = some ([],rest) := cut_found rest (by decide)
  have pass {before : Text} (plain : carriageReturn ∉ before) (text : Text) :
      cut (crlf ++ crlf) (before ++ text) =
        (cut (crlf ++ crlf) text).map fun found => (before ++ found.1,found.2) := cut_pass plain text
  unfold Field.headers
  cases given : field.contentType with
  | none =>
    rw [List.append_nil,pass noReturn,found]
    simp
  | some contentType =>
    have plain : carriageReturn ∉ lineFeed :: Field.typeLine contentType := by
      simp only [List.mem_cons,not_or]
      exact ⟨by decide,(typeLine_plain valid given).1⟩
    have split : field.disposition ++ (crlf ++ Field.typeLine contentType) ++ ((crlf ++ crlf) ++ rest) =
        field.disposition ++ carriageReturn ::
          (lineFeed :: Field.typeLine contentType ++ ((crlf ++ crlf) ++ rest)) := by
      simp [crlf]
    have missed : ¬ crlf ++ crlf <+:
        carriageReturn :: (lineFeed :: Field.typeLine contentType ++ ((crlf ++ crlf) ++ rest)) := by
      intro starts
      have second := (List.cons_prefix_cons.mp starts).2
      have third := (List.cons_prefix_cons.mp second).2
      exact absurd (List.cons_prefix_cons.mp third).1 (by decide)
    simp only [split]
    rw [pass noReturn,cut_skip missed,pass plain,found]
    simp [crlf]

end Headers

section RoundTrip
variable {boundary : Text} {fields : List Field}

-- What stands behind the boundary that opens the first of these fields, or
-- closes the body.
def behind (boundary : Text) : List Field → Text
  | [] => dashes ++ crlf
  | field :: rest => crlf ++ (field.headers ++ ((crlf ++ crlf) ++
      (field.data ++ (crlf ++ dashes ++ boundary) ++ behind boundary rest)))

theorem render_behind (boundary : Text) (fields : List Field) :
    render boundary fields = (dashes ++ boundary) ++ behind boundary fields := by
  induction fields with
  | nil => simp [render,behind]
  | cons field rest ih =>
    have tail : rest.flatMap (Field.render boundary) ++ (dashes ++ (boundary ++ (dashes ++ crlf))) =
        dashes ++ (boundary ++ behind boundary rest) := by
      simpa [render] using ih
    simp only [render,behind,Field.render,List.flatMap_cons,List.append_assoc,tail]

theorem length_behind (boundary : Text) (fields : List Field) :
    fields.length < (behind boundary fields).length := by
  induction fields with
  | nil => exact (by decide : 0 < (dashes ++ crlf).length)
  | cons field rest ih =>
    simp only [behind,crlf,List.length_append,List.length_cons,List.length_nil]
    omega

def assignAll (fields : List Field) (parts : Parts) : Parts :=
  fields.foldl (fun parts field => parts.assign field.name field.part) parts

theorem parseParts_behind (plain : carriageReturn ∉ boundary)
    (valid : ∀ field ∈ fields, field.Valid boundary) (fuel : Nat) (enough : fields.length < fuel)
    (parts : Parts) :
    parseParts (crlf ++ dashes ++ boundary) fuel (behind boundary fields) parts =
      .ok (assignAll fields parts) := by
  induction fields generalizing fuel parts with
  | nil =>
    cases fuel with
    | zero => cases enough
    | succ fuel =>
      have closes : dashes.isPrefixOf (behind boundary []) = true := rfl
      simp only [parseParts,if_pos closes]
      rfl
  | cons field rest ih =>
    cases fuel with
    | zero => cases enough
    | succ fuel =>
      have own := valid field List.mem_cons_self
      have single : carriageReturn ∉ lineFeed :: (dashes ++ boundary) := by
        simp only [List.mem_cons,List.mem_append,not_or]
        exact ⟨by decide,by decide,plain⟩
      have delimiter : cut (crlf ++ dashes ++ boundary)
          (field.data ++ (crlf ++ dashes ++ boundary) ++ behind boundary rest) =
          some (field.data,behind boundary rest) := cut_first single own.data _
      have opens (more : Text) : dashes.isPrefixOf (crlf ++ more) = false := rfl
      have stripped (more : Text) : (crlf ++ more).dropPrefix? crlf = some more :=
        List.dropPrefix?_append_of_beq more BEq.rfl
      have named : field.name.isEmpty = false := by simpa using own.named
      rw [behind,parseParts]
      simp only [opens,stripped,headers_end own,delimiter,headers_parsed own,named,Bool.false_eq_true,
        if_false]
      exact ih (fun other present => valid other (List.mem_cons_of_mem _ present)) fuel
        (Nat.lt_of_succ_lt_succ enough) _

theorem assign_new {parts : Parts} {name : Text} (part : Part) (new : name ∉ parts.map Prod.fst) :
    parts.assign name part = (name,part) :: parts := by
  have kept : parts.filter (·.1 != name) = parts := by
    rw [List.filter_eq_self]
    intro entry present
    simp only [bne_iff_ne]
    rintro rfl
    exact new (List.mem_map_of_mem present)
  rw [Parts.assign,kept]

theorem assignAll_distinct {parts : Parts} (distinct : (fields.map Field.name).Nodup)
    (new : ∀ field ∈ fields, field.name ∉ parts.map Prod.fst) :
    assignAll fields parts = (fields.map fun field => (field.name,field.part)).reverse ++ parts := by
  induction fields generalizing parts with
  | nil => rfl
  | cons field rest ih =>
    obtain ⟨unique,others⟩ := List.nodup_cons.mp distinct
    have first := assign_new field.part (new field List.mem_cons_self)
    have still : ∀ other ∈ rest, other.name ∉ ((field.name,field.part) :: parts).map Prod.fst := by
      intro other present
      simp only [List.map_cons,List.mem_cons,not_or]
      refine ⟨?_,new other (List.mem_cons_of_mem _ present)⟩
      intro same
      exact unique (same ▸ List.mem_map_of_mem present)
    have later := ih others still
    simp only [assignAll,List.foldl_cons,first] at later ⊢
    rw [later]
    simp

theorem lookup_entry {parts : Parts} {name : Text} {part : Part} (distinct : (parts.map Prod.fst).Nodup)
    (present : (name,part) ∈ parts) : parts.lookup name = some part := by
  induction parts with
  | nil => cases present
  | cons entry rest ih =>
    obtain ⟨unique,others⟩ := List.nodup_cons.mp distinct
    rcases List.mem_cons.mp present with rfl | later
    · exact List.lookup_cons_self
    · have different : name ≠ entry.1 := by
        rintro rfl
        exact unique (List.mem_map.mpr ⟨_,later,rfl⟩)
      rw [List.lookup_cons,beq_eq_false_iff_ne.mpr different]
      exact ih others later

theorem parse_rendered (plain : carriageReturn ∉ boundary) (valid : ∀ field ∈ fields, field.Valid boundary)
    (distinct : (fields.map Field.name).Nodup) :
    parse (render boundary fields) boundary =
      .ok (fields.map fun field => (field.name,field.part)).reverse := by
  have opened : cut (dashes ++ boundary) (render boundary fields) = some ([],behind boundary fields) := by
    rw [render_behind]
    exact cut_found _ (List.append_ne_nil_of_left_ne_nil (by decide) _)
  have enough : fields.length < (behind boundary fields).length + 1 :=
    Nat.lt_succ_of_lt (length_behind boundary fields)
  have ran := parseParts_behind plain valid _ enough []
  rw [assignAll_distinct distinct (fun _ _ => List.not_mem_nil),List.append_nil] at ran
  rw [parse,opened]
  exact ran

-- The map that parse() returns, as the list of its entries: every field is there
-- under its name, and nothing else is. Of the boundary only a carriage return
-- could be in the way.
theorem parse_render (boundary : Text) (fields : List Field) (plain : carriageReturn ∉ boundary)
    (valid : ∀ field ∈ fields, field.Valid boundary) (distinct : (fields.map Field.name).Nodup) :
    ∃ parts, parse (render boundary fields) boundary = .ok parts ∧ (parts.map Prod.fst).Nodup ∧
      parts.Perm (fields.map fun field => (field.name,field.part)) ∧
      ∀ field ∈ fields, parts.lookup field.name = some field.part := by
  have same := List.reverse_perm (fields.map fun field => (field.name,field.part))
  have keys : (((fields.map fun field => (field.name,field.part)).reverse).map Prod.fst).Nodup := by
    rw [(same.map Prod.fst).nodup_iff,List.map_map]
    exact distinct
  refine ⟨_,parse_rendered plain valid distinct,keys,same,?_⟩
  intro field present
  exact lookup_entry keys (same.mem_iff.mpr (List.mem_map_of_mem present))

-- A file whose bytes look like a delimiter but for their last, and a text field.
def audioForm : List Field :=
  [⟨bytes "file",some (bytes "a.ogg"),some (bytes "audio/ogg"),bytes "\r\n--boun\r\n\r\n--"⟩,
    ⟨bytes "model",none,none,[]⟩]

theorem parse_render_audioForm : ∃ parts,
    parse (render (bytes "bound") audioForm) (bytes "bound") = .ok parts ∧
    parts.lookup (bytes "file") =
      some ⟨bytes "a.ogg",bytes "audio/ogg",bytes "\r\n--boun\r\n\r\n--"⟩ := by
  have valid : ∀ field ∈ audioForm, field.Valid (bytes "bound") := by
    intro field present
    simp only [audioForm,List.mem_cons,List.not_mem_nil,or_false] at present
    rcases present with rfl | rfl
    · exact ⟨by decide,⟨by decide,by decide,by decide⟩,by decide,
        by rintro _ ⟨⟩; exact ⟨by decide,by decide,by decide⟩,by rintro _ ⟨⟩; decide,by decide⟩
    · exact ⟨by decide,⟨by decide,by decide,by decide⟩,by decide,
        fun _ absent => (by cases absent),fun _ absent => (by cases absent),by decide⟩
  obtain ⟨parts,ran,_,_,found⟩ := parse_render (bytes "bound") audioForm (by decide) valid (by decide)
  exact ⟨parts,ran,found _ List.mem_cons_self⟩

end RoundTrip
end JotaTranscriber.MultipartParser

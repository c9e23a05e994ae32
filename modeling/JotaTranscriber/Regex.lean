import Mathlib.Data.List.Basic

-- Regular expressions with capture groups, matched the way a backtracking
-- engine does: the matches in the order in which it tries them. Only one
-- character class is repeated at a time.
inductive Regex (Letter Group : Type) where
  | empty
  | one (p : Letter → Bool)
  | star (p : Letter → Bool)
  | seq (first second : Regex Letter Group)
  | alt (first second : Regex Letter Group)
  | opt (nested : Regex Letter Group)
  | group (name : Group) (nested : Regex Letter Group)

namespace Regex
variable {Letter Group : Type}

abbrev Captures (Letter Group : Type) := List (Group × List Letter)

def plus (p : Letter → Bool) : Regex Letter Group := .seq (.one p) (.star p)

def word [DecidableEq Letter] : List Letter → Regex Letter Group
  | [] => .empty
  | letter :: rest => .seq (.one (· = letter)) (word rest)

def rests (p : Letter → Bool) : List Letter → List (List Letter)
  | [] => [[]]
  | letter :: rest => if p letter then rests p rest ++ [letter :: rest] else [letter :: rest]

def results : Regex Letter Group → List Letter → List (Captures Letter Group × List Letter)
  | .empty,text => [([],text)]
  | .one _,[] => []
  | .one p,letter :: rest => if p letter then [([],rest)] else []
  | .star p,text => (rests p text).map fun rest => ([],rest)
  | .seq first second,text => (results first text).flatMap fun (captures,middle) =>
      (results second middle).map fun (more,rest) => (captures ++ more,rest)
  | .alt first second,text => results first text ++ results second text
  | .opt nested,text => results nested text ++ [([],text)]
  | .group name nested,text => (results nested text).map fun (captures,rest) =>
      ((name,text.take (text.length - rest.length)) :: captures,rest)

def fullMatch (r : Regex Letter Group) (text : List Letter) : Option (Captures Letter Group) :=
  ((results r text).find? fun found => found.2.isEmpty).map Prod.fst

inductive Matches : Regex Letter Group → List Letter → Captures Letter Group → Prop where
  | empty : Matches .empty [] []
  | one (allowed : p letter = true) : Matches (.one p) [letter] []
  | star (allowed : ∀ letter ∈ text, p letter = true) : Matches (.star p) text []
  | seq (left : Matches first before captures) (right : Matches second after more) :
      Matches (.seq first second) (before ++ after) (captures ++ more)
  | left (one : Matches first text captures) : Matches (.alt first second) text captures
  | right (other : Matches second text captures) : Matches (.alt first second) text captures
  | skip : Matches (.opt nested) [] []
  | opt (inside : Matches nested text captures) : Matches (.opt nested) text captures
  | group (inside : Matches nested text captures) :
      Matches (.group name nested) text ((name,text) :: captures)

theorem mem_rests {p : Letter → Bool} {text rest : List Letter} : rest ∈ rests p text ↔
    ∃ before, text = before ++ rest ∧ ∀ letter ∈ before, p letter = true := by
  induction text with
  | nil =>
    simp only [rests,List.mem_singleton]
    constructor
    · rintro rfl
      exact ⟨[],rfl,List.forall_mem_nil _⟩
    · rintro ⟨before,split,_⟩
      exact (List.append_eq_nil_iff.mp split.symm).2
  | cons letter later ih =>
    have split_off (before : List Letter) : letter :: later = before ++ rest ↔
        before = [] ∧ rest = letter :: later ∨ ∃ tail, before = letter :: tail ∧ later = tail ++ rest := by
      cases before with
      | nil => simp [eq_comm]
      | cons head tail => simp [eq_comm]
    by_cases allowed : p letter = true
    · simp only [rests,if_pos allowed,List.mem_append,List.mem_singleton,ih]
      constructor
      · rintro (⟨before,rfl,all⟩ | rfl)
        · exact ⟨letter :: before,rfl,List.forall_mem_cons.mpr ⟨allowed,all⟩⟩
        · exact ⟨[],rfl,List.forall_mem_nil _⟩
      · rintro ⟨before,split,all⟩
        rcases (split_off before).mp split with ⟨_,rfl⟩ | ⟨tail,rfl,rfl⟩
        · exact .inr rfl
        · exact .inl ⟨tail,rfl,(List.forall_mem_cons.mp all).2⟩
    · simp only [rests,if_neg allowed,List.mem_singleton]
      constructor
      · rintro rfl
        exact ⟨[],rfl,List.forall_mem_nil _⟩
      · rintro ⟨before,split,all⟩
        rcases (split_off before).mp split with ⟨_,rfl⟩ | ⟨tail,rfl,rfl⟩
        · rfl
        · exact absurd (List.forall_mem_cons.mp all).1 allowed

-- The engine finds the matches that there are, and no others.
theorem mem_results {r : Regex Letter Group} {text rest : List Letter} {captures : Captures Letter Group} :
    (captures,rest) ∈ results r text ↔ ∃ before, text = before ++ rest ∧ Matches r before captures := by
  induction r generalizing text rest captures with
  | empty =>
    simp only [results,List.mem_singleton,Prod.mk.injEq]
    constructor
    · rintro ⟨rfl,rfl⟩
      exact ⟨[],rfl,.empty⟩
    · rintro ⟨_,rfl,⟨⟩⟩
      exact ⟨rfl,rfl⟩
  | one p =>
    constructor
    · intro found
      cases text with
      | nil => cases found
      | cons letter later =>
        simp only [results] at found
        split at found
        · rename_i allowed
          cases List.mem_singleton.mp found
          exact ⟨[letter],rfl,.one allowed⟩
        · cases found
    · rintro ⟨_,rfl,matched⟩
      cases matched with
      | one allowed => simp [results,allowed]
  | star p =>
    simp only [results,List.mem_map,mem_rests,Prod.mk.injEq]
    constructor
    · rintro ⟨_,⟨before,rfl,allowed⟩,rfl,rfl⟩
      exact ⟨before,rfl,.star allowed⟩
    · rintro ⟨before,rfl,matched⟩
      cases matched with
      | star allowed => exact ⟨rest,⟨before,rfl,allowed⟩,rfl,rfl⟩
  | seq first second left right =>
    simp only [results,List.mem_flatMap,List.mem_map,Prod.exists,Prod.mk.injEq]
    constructor
    · rintro ⟨captures,middle,one,more,_,other,rfl,rfl⟩
      obtain ⟨before,rfl,matched⟩ := left.mp one
      obtain ⟨after,rfl,later⟩ := right.mp other
      exact ⟨before ++ after,(List.append_assoc _ _ _).symm,.seq matched later⟩
    · rintro ⟨_,rfl,matched⟩
      cases matched with
      | @seq _ before captures _ after more one other =>
        rw [List.append_assoc]
        exact ⟨captures,after ++ rest,left.mpr ⟨before,rfl,one⟩,more,rest,
          right.mpr ⟨after,rfl,other⟩,rfl,rfl⟩
  | alt first second left right =>
    simp only [results,List.mem_append,left,right]
    constructor
    · rintro (⟨before,split,one⟩ | ⟨before,split,other⟩)
      · exact ⟨before,split,.left one⟩
      · exact ⟨before,split,.right other⟩
    · rintro ⟨before,split,matched⟩
      cases matched with
      | left one => exact .inl ⟨before,split,one⟩
      | right other => exact .inr ⟨before,split,other⟩
  | opt nested ih =>
    simp only [results,List.mem_append,List.mem_singleton,Prod.mk.injEq,ih]
    constructor
    · rintro (⟨before,split,inside⟩ | ⟨rfl,rfl⟩)
      · exact ⟨before,split,.opt inside⟩
      · exact ⟨[],rfl,.skip⟩
    · rintro ⟨before,rfl,matched⟩
      cases matched with
      | skip => exact .inr ⟨rfl,rfl⟩
      | opt inside => exact .inl ⟨before,rfl,inside⟩
  | group name nested ih =>
    simp only [results,List.mem_map,Prod.exists,Prod.mk.injEq]
    have consumed (before rest : List Letter) :
        (before ++ rest).take ((before ++ rest).length - rest.length) = before := by
      simp
    constructor
    · rintro ⟨inside,_,found,rfl,rfl⟩
      obtain ⟨before,rfl,matched⟩ := ih.mp found
      rw [consumed]
      exact ⟨before,rfl,.group matched⟩
    · rintro ⟨before,rfl,matched⟩
      cases matched with
      | @group _ _ inside _ matched =>
        exact ⟨inside,rest,ih.mpr ⟨before,rfl,matched⟩,by rw [consumed],rfl⟩

theorem fullMatch_sound {r : Regex Letter Group} (found : fullMatch r text = some captures) :
    Matches r text captures := by
  obtain ⟨⟨_,rest⟩,first,rfl⟩ := Option.map_eq_some_iff.mp found
  have ended := List.find?_some first
  obtain rfl : rest = [] := List.isEmpty_iff.mp ended
  obtain ⟨before,split,matched⟩ := mem_results.mp (List.mem_of_find?_eq_some first)
  rw [List.append_nil] at split
  rwa [split]

theorem fullMatch_isSome {r : Regex Letter Group} :
    (fullMatch r text).isSome = true ↔ ∃ captures, Matches r text captures := by
  simp only [fullMatch,Option.isSome_map,List.find?_isSome]
  constructor
  · rintro ⟨⟨captures,rest⟩,found,ended⟩
    obtain rfl : rest = [] := List.isEmpty_iff.mp ended
    obtain ⟨before,split,matched⟩ := mem_results.mp found
    rw [List.append_nil] at split
    exact ⟨captures,by rwa [split]⟩
  · rintro ⟨captures,matched⟩
    exact ⟨(captures,[]),mem_results.mpr ⟨text,(List.append_nil _).symm,matched⟩,rfl⟩

-- A choice that comes after a prefix which can match in one way only: the first
-- alternative is taken if the whole can be completed with it.
theorem fullMatch_prefers {before choice preferred other after : Regex Letter Group}
    (either : ∀ text, results choice text = results preferred text ++ results other text)
    (settled : ∀ one ∈ results before text, ∀ two ∈ results before text, one = two)
    (fits : Matches (.seq before (.seq preferred after)) text captures) :
    ∃ found, fullMatch (.seq before (.seq choice after)) text = some found ∧
      Matches (.seq before (.seq preferred after)) text found := by
  have fitting := mem_results.mpr ⟨text,(List.append_nil _).symm,fits⟩
  simp only [results,List.mem_flatMap] at fitting
  obtain ⟨start,starts,completed⟩ := fitting
  obtain ⟨first,later,listed⟩ := List.exists_cons_of_ne_nil (List.ne_nil_of_mem starts)
  obtain rfl : first = start := settled _ (by rw [listed]; exact List.mem_cons_self) _ starts
  have ends : (((results (.seq preferred after) first.2).map fun (more,rest) =>
      (first.1 ++ more,rest)).find? fun found => found.2.isEmpty).isSome = true :=
    List.find?_isSome.mpr ⟨_,completed,rfl⟩
  obtain ⟨found,here⟩ := Option.isSome_iff_exists.mp ends
  refine ⟨found.1,?_,?_⟩
  · simp only [fullMatch,results,listed,List.flatMap_cons,either,List.flatMap_append,List.map_append,
      List.append_assoc,List.find?_append]
    simp only [results] at here
    rw [here]
    rfl
  · have ended := List.find?_some here
    have member : found ∈ results (.seq before (.seq preferred after)) text :=
      List.mem_flatMap.mpr ⟨first,starts,List.mem_of_find?_eq_some here⟩
    obtain ⟨found,rest⟩ := found
    obtain rfl : rest = [] := List.isEmpty_iff.mp ended
    obtain ⟨whole,split,matched⟩ := mem_results.mp member
    rw [List.append_nil] at split
    rwa [split]

theorem matches_word [DecidableEq Letter] {letters text : List Letter} {captures : Captures Letter Group} :
    Matches (word letters) text captures ↔ text = letters ∧ captures = [] := by
  induction letters generalizing text captures with
  | nil =>
    constructor
    · rintro ⟨⟩
      exact ⟨rfl,rfl⟩
    · rintro ⟨rfl,rfl⟩
      exact .empty
  | cons letter rest ih =>
    constructor
    · intro matched
      cases matched with
      | seq first later =>
        cases first with
        | one allowed =>
          obtain ⟨rfl,rfl⟩ := ih.mp later
          exact ⟨by simpa using allowed,rfl⟩
    · rintro ⟨rfl,rfl⟩
      have first : Matches (.one (· = letter)) [letter] ([] : Captures Letter Group) := .one (by simp)
      exact .seq first (ih.mpr ⟨rfl,rfl⟩)

theorem matches_plus {p : Letter → Bool} {text : List Letter} {captures : Captures Letter Group} :
    Matches (plus p) text captures ↔
      (text ≠ [] ∧ ∀ letter ∈ text, p letter = true) ∧ captures = [] := by
  constructor
  · intro matched
    cases matched with
    | seq first later =>
      cases first with
      | one allowed =>
        cases later with
        | star all => exact ⟨⟨List.cons_ne_nil _ _,List.forall_mem_cons.mpr ⟨allowed,all⟩⟩,rfl⟩
  · rintro ⟨⟨nonempty,all⟩,rfl⟩
    obtain ⟨letter,rest,rfl⟩ := List.exists_cons_of_ne_nil nonempty
    obtain ⟨allowed,others⟩ := List.forall_mem_cons.mp all
    have first : Matches (.one p) [letter] ([] : Captures Letter Group) := .one allowed
    exact .seq first (.star others)

theorem matches_group {r : Regex Letter Group} {captures : Captures Letter Group} :
    Matches (.group name r) text captures ↔
      ∃ inside, Matches r text inside ∧ captures = (name,text) :: inside := by
  constructor
  · rintro ⟨⟩
    rename_i inside matched
    exact ⟨inside,matched,rfl⟩
  · rintro ⟨inside,matched,rfl⟩
    exact .group matched

theorem matches_seq (first second : Regex Letter Group) {captures : Captures Letter Group} :
    Matches (.seq first second) text captures ↔ ∃ before after left right,
      Matches first before left ∧ Matches second after right ∧ text = before ++ after ∧
        captures = left ++ right := by
  constructor
  · rintro ⟨⟩
    rename_i before left after right one other
    exact ⟨before,after,left,right,one,other,rfl,rfl⟩
  · rintro ⟨before,after,left,right,one,other,rfl,rfl⟩
    exact .seq one other

theorem matches_alt {first second : Regex Letter Group} {captures : Captures Letter Group} :
    Matches (.alt first second) text captures ↔ Matches first text captures ∨ Matches second text captures := by
  constructor
  · intro matched
    cases matched with
    | left one => exact .inl one
    | right other => exact .inr other
  · rintro (one | other)
    · exact .left one
    · exact .right other

theorem matches_opt {r : Regex Letter Group} {captures : Captures Letter Group} :
    Matches (.opt r) text captures ↔ text = [] ∧ captures = [] ∨ Matches r text captures := by
  constructor
  · intro matched
    cases matched with
    | skip => exact .inl ⟨rfl,rfl⟩
    | opt inside => exact .inr inside
  · rintro (⟨rfl,rfl⟩ | inside)
    · exact .skip
    · exact .opt inside

theorem matches_star {p : Letter → Bool} {captures : Captures Letter Group} :
    Matches (.star p) text captures ↔ (∀ letter ∈ text, p letter = true) ∧ captures = [] := by
  constructor
  · rintro ⟨⟩
    rename_i all
    exact ⟨all,rfl⟩
  · rintro ⟨all,rfl⟩
    exact .star all

end Regex

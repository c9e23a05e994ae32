import JotaTranscriber.Basic
import Mathlib.Data.List.Defs

namespace JotaTranscriber.HallucinationGuard

-- std::isspace in the C locale: space, \t, \n, \v, \f, \r.
def isSpace (byte : UInt8) : Bool := byte == 32 || (9 ≤ byte && byte ≤ 13)

-- The words operator>> extracts: maximal runs of non-whitespace bytes.
def words (text : Text) : List Text := (text.splitOnP isSpace).filter (! ·.isEmpty)

structure Scan where
  bigrams : List Text
  prev : Text
  consec : Nat

def bigram (prev cur : Text) : Text := prev ++ 32 :: cur

-- `bigrams` lists every bigram counted so far, so a map entry is a count in it.
def scan : List Text → Scan → Bool
  | [],_ => false
  | cur :: rest,state =>
    let consec := if cur = state.prev then state.consec + 1 else 1
    if cur = state.prev ∧ consec ≥ 4 then true
    else if state.prev ≠ [] ∧ state.bigrams.count (bigram state.prev cur) + 1 ≥ 4 then true
    else scan rest
      { bigrams := if state.prev = [] then state.bigrams else bigram state.prev cur :: state.bigrams
        prev := cur
        consec := consec }

-- What counts as a word: a run of non-whitespace that nothing extends.
def IsWord (word : Text) : Prop := word ≠ [] ∧ ∀ byte ∈ word, isSpace byte = false

inductive Spelled : Text → List Text → Prop where
  | ended : (∀ byte ∈ gap, isSpace byte = true) → Spelled gap []
  | word : (∀ byte ∈ gap, isSpace byte = true) → IsWord word → (∀ byte ∈ rest.head?, isSpace byte = true) →
      Spelled rest ws → Spelled (gap ++ word ++ rest) (word :: ws)

def FourInARow (ws : List Text) : Prop := ∃ word, List.replicate 4 word <:+: ws

def adjacent (ws : List Text) : List (Text × Text) := ws.zip ws.tail

def FourfoldPair (ws : List Text) : Prop := ∃ pair, 4 ≤ (adjacent ws).count pair

structure Tracks (done : List Text) (state : Scan) : Prop where
  last : state.prev = done.getLast?.getD []
  run : ∀ n, List.replicate n state.prev <:+ done ↔ n ≤ state.consec
  counted : state.bigrams = ((adjacent done).map fun pair => bigram pair.1 pair.2).reverse

end HallucinationGuard

def isHallucination (text : Text) : Bool :=
  if text.length > 500 then true
  else HallucinationGuard.scan (HallucinationGuard.words text) ⟨[],[],0⟩

namespace HallucinationGuard

section Words
variable {text gap word rest : Text} {ws : List Text}

theorem words_gap (blank : ∀ byte ∈ gap, isSpace byte = true) (rest : Text) :
    words (gap ++ rest) = words rest := by
  induction gap with
  | nil => rfl
  | cons byte others ih =>
    have own := blank byte List.mem_cons_self
    have later := ih fun other inside => blank other (List.mem_cons_of_mem _ inside)
    rw [words,List.cons_append,List.splitOnP_cons_eq_if_modifyHead,if_pos own,List.filter_cons_of_neg (by simp)]
    exact later

theorem words_word (isWord : IsWord word) (stops : ∀ byte ∈ rest.head?, isSpace byte = true) :
    words (word ++ rest) = word :: words rest := by
  have kept : (! word.isEmpty) = true := by simpa using isWord.1
  cases rest with
  | nil =>
    rw [List.append_nil,words,List.splitOnP_eq_singleton isWord.2,List.filter_cons,if_pos kept]
    rfl
  | cons byte others =>
    have own := stops byte rfl
    have alone : ∀ other ∈ [byte], isSpace other = true := by simpa using own
    have blank := words_gap alone others
    rw [List.singleton_append] at blank
    rw [blank,words,List.splitOnP_append_cons_of_forall_mem isWord.2 byte own,List.filter_cons,if_pos kept]
    rfl

theorem words_of_spelled (spelled : Spelled text ws) : words text = ws := by
  induction spelled with
  | ended blank =>
    have all := words_gap blank []
    rw [List.append_nil] at all
    rw [all]
    rfl
  | word blank isWord stops _ ih => rw [List.append_assoc,words_gap blank,words_word isWord stops,ih]

theorem Spelled.blank {byte : UInt8} (own : isSpace byte = true) (spelled : Spelled text ws) :
    Spelled (byte :: text) ws := by
  have longer {gap : Text} (blank : ∀ other ∈ gap, isSpace other = true) :
      ∀ other ∈ byte :: gap, isSpace other = true := by
    intro other inside
    rcases List.mem_cons.mp inside with rfl | later
    · exact own
    · exact blank other later
  cases spelled with
  | ended blank => exact .ended (longer blank)
  | word blank isWord stops later => exact .word (longer blank) isWord stops later

-- A byte that is not whitespace begins a word, or joins the one behind it.
theorem Spelled.letter {byte : UInt8} (own : isSpace byte = false) (spelled : Spelled text ws) :
    ∃ more, Spelled (byte :: text) more := by
  have alone : IsWord [byte] := ⟨List.cons_ne_nil _ _,by simpa using own⟩
  have noGap : ∀ other ∈ ([] : Text), isSpace other = true := List.forall_mem_nil _
  have starts (stops : ∀ other ∈ text.head?, isSpace other = true) : Spelled (byte :: text) ([byte] :: ws) :=
    .word noGap alone stops spelled
  cases spelled with
  | @ended gap blank =>
    refine ⟨_,starts ?_⟩
    intro other first
    exact blank other (List.mem_of_head? first)
  | @word gap word rest words blank isWord stops later =>
    cases gap with
    | cons first others =>
      refine ⟨_,starts ?_⟩
      rintro other ⟨⟩
      exact blank first List.mem_cons_self
    | nil =>
      refine ⟨(byte :: word) :: words,.word noGap ⟨List.cons_ne_nil _ _,?_⟩ stops later⟩
      intro other inside
      rcases List.mem_cons.mp inside with rfl | within
      · exact own
      · exact isWord.2 other within

theorem spelled_iff : Spelled text ws ↔ ws = words text := by
  constructor
  · intro spelled
    exact (words_of_spelled spelled).symm
  · rintro rfl
    obtain ⟨ws,spelled⟩ : ∃ ws, Spelled text ws := by
      induction text with
      | nil => exact ⟨[],.ended (List.forall_mem_nil _)⟩
      | cons byte rest ih =>
        obtain ⟨ws,spelled⟩ := ih
        cases own : isSpace byte with
        | true => exact ⟨ws,spelled.blank own⟩
        | false => exact spelled.letter own
    rwa [words_of_spelled spelled]

theorem words_are_words (spelled : Spelled text ws) : ∀ word ∈ ws, IsWord word := by
  induction spelled with
  | ended => exact List.forall_mem_nil _
  | word _ isWord _ _ ih => exact List.forall_mem_cons.mpr ⟨isWord,ih⟩

end Words

section Repetition
variable {ws done : List Text} {word cur prev : Text} {state : Scan}

theorem replicate_suffix_snoc (n : Nat) :
    List.replicate (n+1) word <:+ done ++ [cur] ↔ word = cur ∧ List.replicate n word <:+ done := by
  rw [List.replicate_succ']
  constructor
  · intro ends
    obtain ⟨before,split⟩ := ends
    rw [← List.append_assoc] at split
    obtain ⟨front,last⟩ := List.append_inj' split rfl
    exact ⟨List.singleton_inj.mp last,before,front⟩
  · rintro ⟨rfl,ends⟩
    exact List.suffix_append_self_iff.mpr ends

theorem FourInARow.append (found : FourInARow done) (rest : List Text) : FourInARow (done ++ rest) := by
  obtain ⟨word,inside⟩ := found
  exact ⟨word,inside.trans (List.prefix_append done rest).isInfix⟩

theorem fourInARow_snoc : FourInARow (done ++ [cur]) ↔
    FourInARow done ∨ List.replicate 4 cur <:+ done ++ [cur] := by
  constructor
  · rintro ⟨word,inside⟩
    rcases List.infix_concat_iff.mp inside with last | before
    · obtain ⟨rfl,_⟩ := (replicate_suffix_snoc 3).mp last
      exact .inr last
    · exact .inl ⟨word,before⟩
  · rintro (before | last)
    · exact before.append [cur]
    · exact ⟨cur,last.isInfix⟩

theorem adjacent_snoc (front : List Text) (prev cur : Text) :
    adjacent (front ++ [prev] ++ [cur]) = adjacent (front ++ [prev]) ++ [(prev,cur)] := by
  induction front with
  | nil => rfl
  | cons first rest ih =>
    cases rest with
    | nil => rfl
    | cons second others => exact congrArg ((first,second) :: ·) ih

theorem adjacent_append (done rest : List Text) : adjacent done <+: adjacent (done ++ rest) := by
  induction rest generalizing done with
  | nil => simp
  | cons cur others ih =>
    have later := ih (done ++ [cur])
    rw [List.append_assoc] at later
    refine List.IsPrefix.trans ?_ later
    rcases List.eq_nil_or_concat done with empty | ⟨front,prev,whole⟩
    · rw [empty]
      exact List.nil_prefix
    · rw [whole,List.concat_eq_append,adjacent_snoc]
      exact List.prefix_append _ _

theorem FourfoldPair.append (found : FourfoldPair done) (rest : List Text) : FourfoldPair (done ++ rest) := by
  obtain ⟨pair,often⟩ := found
  exact ⟨pair,Nat.le_trans often ((adjacent_append done rest).sublist.count_le pair)⟩

theorem fourfoldPair_snoc (front : List Text) (prev cur : Text) :
    FourfoldPair (front ++ [prev] ++ [cur]) ↔
      FourfoldPair (front ++ [prev]) ∨ 4 ≤ (adjacent (front ++ [prev])).count (prev,cur) + 1 := by
  constructor
  · rintro ⟨pair,often⟩
    rw [adjacent_snoc,List.count_append,List.count_singleton] at often
    by_cases same : pair = (prev,cur)
    · subst same
      simp only [BEq.rfl,if_true] at often
      exact .inr often
    · rw [if_neg (by simpa using Ne.symm same)] at often
      exact .inl ⟨pair,often⟩
  · rintro (before | often)
    · exact before.append [cur]
    · refine ⟨(prev,cur),?_⟩
      rw [adjacent_snoc,List.count_append,List.count_singleton_self]
      exact often

-- A word has no blank in it, so the key tells where its first word ends.
theorem bigram_injective {first second : Text} (one : IsWord first) (two : IsWord prev)
    (same : bigram first second = bigram prev cur) : first = prev ∧ second = cur := by
  have blank {word : Text} (isWord : IsWord word) : (32 : UInt8) ∉ word := by
    intro inside
    exact absurd (isWord.2 32 inside) (by decide)
  rcases List.append_eq_append_iff.mp same with ⟨more,rfl,split⟩ | ⟨more,rfl,split⟩
  · cases more with
    | nil => simpa using split
    | cons byte others =>
      have head := (List.cons.inj split).1
      exact absurd (by simp [head]) (blank two)
  · cases more with
    | nil => simpa [eq_comm] using split
    | cons byte others =>
      have head := (List.cons.inj split).1
      exact absurd (by simp [head]) (blank one)

theorem bigrams_count (tracks : Tracks done state) (areWords : ∀ word ∈ done, IsWord word)
    (isWord : IsWord prev) (cur : Text) :
    state.bigrams.count (bigram prev cur) = (adjacent done).count (prev,cur) := by
  rw [tracks.counted,List.count_reverse,List.count,List.countP_map,List.count]
  refine List.countP_congr fun pair present => ?_
  obtain ⟨first,second⟩ := pair
  have isFirst := areWords first (List.of_mem_zip present).1
  simp only [Function.comp_apply,beq_iff_eq,Prod.mk.injEq]
  constructor
  · exact bigram_injective isFirst isWord
  · rintro ⟨rfl,rfl⟩
    rfl

theorem Tracks.cases (tracks : Tracks done state) (areWords : ∀ word ∈ done, IsWord word) :
    done = [] ∧ state.prev = [] ∨ ∃ front, done = front ++ [state.prev] ∧ IsWord state.prev := by
  have last := tracks.last
  rcases List.eq_nil_or_concat done with empty | ⟨front,prev,whole⟩
  · rw [empty] at last
    exact .inl ⟨empty,last⟩
  · rw [List.concat_eq_append] at whole
    rw [whole,List.getLast?_concat,Option.getD_some] at last
    rw [last]
    exact .inr ⟨front,whole,areWords prev (by simp [whole])⟩

def Scan.run (state : Scan) (cur : Text) : Nat := if cur = state.prev then state.consec + 1 else 1

theorem run_snoc (tracks : Tracks done state) (areWords : ∀ word ∈ done, IsWord word) (isWord : IsWord cur)
    (n : Nat) : List.replicate n cur <:+ done ++ [cur] ↔ n ≤ state.run cur := by
  cases n with
  | zero => simp
  | succ n =>
    rw [replicate_suffix_snoc,Scan.run]
    by_cases same : cur = state.prev
    · subst same
      simp [tracks.run]
    · rw [if_neg same]
      cases n with
      | zero => simp
      | succ n =>
        have other : ¬ List.replicate (n+1) cur <:+ done := by
          intro ends
          rcases tracks.cases areWords with ⟨rfl,_⟩ | ⟨front,rfl,_⟩
          · simp at ends
          · exact same ((replicate_suffix_snoc n).mp ends).1
        simp [other]

theorem row_test (tracks : Tracks done state) (areWords : ∀ word ∈ done, IsWord word) (isWord : IsWord cur)
    (before : ¬ FourInARow done) : (cur = state.prev ∧ state.run cur ≥ 4) ↔ FourInARow (done ++ [cur]) := by
  rw [fourInARow_snoc,run_snoc tracks areWords isWord,or_iff_right before]
  constructor
  · exact fun both => both.2
  · intro enough
    refine ⟨?_,enough⟩
    by_contra other
    rw [Scan.run,if_neg other] at enough
    omega

theorem pair_test (tracks : Tracks done state) (areWords : ∀ word ∈ done, IsWord word)
    (before : ¬ FourfoldPair done) :
    (state.prev ≠ [] ∧ state.bigrams.count (bigram state.prev cur) + 1 ≥ 4) ↔
      FourfoldPair (done ++ [cur]) := by
  rcases tracks.cases areWords with ⟨rfl,none⟩ | ⟨front,whole,isPrev⟩
  · refine iff_of_false (fun both => both.1 none) ?_
    rintro ⟨pair,often⟩
    simp [adjacent] at often
  · have split := fourfoldPair_snoc front state.prev cur
    rw [← whole] at split
    rw [split,or_iff_right before,bigrams_count tracks areWords isPrev]
    exact and_iff_right isPrev.1

theorem tracks_snoc (tracks : Tracks done state) (areWords : ∀ word ∈ done, IsWord word)
    (isWord : IsWord cur) : Tracks (done ++ [cur])
      ⟨if state.prev = [] then state.bigrams else bigram state.prev cur :: state.bigrams,cur,state.run cur⟩ := by
  refine ⟨by simp,run_snoc tracks areWords isWord,?_⟩
  rcases tracks.cases areWords with ⟨rfl,none⟩ | ⟨front,whole,isPrev⟩
  · rw [if_pos none,tracks.counted]
    rfl
  · have longer : adjacent (done ++ [cur]) = adjacent done ++ [(state.prev,cur)] := by
      rw [whole]
      exact adjacent_snoc front state.prev cur
    rw [if_neg isPrev.1,tracks.counted,longer]
    simp

-- The loop returns true at the first word at which the words so far repeat
-- themselves; that they do is not undone by later words.
theorem scan_iff (tracks : Tracks done state) (areWords : ∀ word ∈ done ++ ws, IsWord word)
    (row : ¬ FourInARow done) (pair : ¬ FourfoldPair done) :
    scan ws state = true ↔ FourInARow (done ++ ws) ∨ FourfoldPair (done ++ ws) := by
  induction ws generalizing done state with
  | nil => simp [scan,row,pair]
  | cons cur rest ih =>
    have areBefore : ∀ word ∈ done, IsWord word := fun word inside => areWords word (by simp [inside])
    have isWord := areWords cur (by simp)
    have rowed := row_test tracks areBefore isWord row
    have paired : _ ↔ FourfoldPair (done ++ [cur]) := pair_test tracks areBefore pair
    have split : done ++ cur :: rest = (done ++ [cur]) ++ rest := by simp
    rw [split] at areWords ⊢
    change (if cur = state.prev ∧ state.run cur ≥ 4 then true
      else if state.prev ≠ [] ∧ state.bigrams.count (bigram state.prev cur) + 1 ≥ 4 then true
      else scan rest _) = true ↔ _
    by_cases row' : FourInARow (done ++ [cur])
    · rw [if_pos (rowed.mpr row')]
      exact iff_of_true rfl (.inl (row'.append rest))
    rw [if_neg (mt rowed.mp row')]
    by_cases pair' : FourfoldPair (done ++ [cur])
    · rw [if_pos (paired.mpr pair')]
      exact iff_of_true rfl (.inr (pair'.append rest))
    rw [if_neg (mt paired.mp pair')]
    exact ih (tracks_snoc tracks areBefore isWord) areWords row' pair'

theorem scan_words (text : Text) : scan (words text) ⟨[],[],0⟩ = true ↔
    FourInARow (words text) ∨ FourfoldPair (words text) := by
  have started : Tracks [] ⟨[],[],0⟩ := ⟨rfl,by simp,rfl⟩
  refine scan_iff started (words_are_words (spelled_iff.mpr rfl)) ?_ ?_
  · rintro ⟨word,inside⟩
    simp at inside
  · rintro ⟨pair,often⟩
    simp [adjacent] at often

end Repetition

-- The words are those of any way to spell the text, and nothing else of a short
-- text matters.
theorem repetition_flagged (text : Text) : ∃ ws, (∀ other, Spelled text other ↔ other = ws) ∧
    (isHallucination text = true ↔ 500 < text.length ∨ FourInARow ws ∨ FourfoldPair ws) ∧
    ∀ other, Spelled other ws → text.length ≤ 500 → other.length ≤ 500 →
      isHallucination other = isHallucination text := by
  refine ⟨words text,fun _ => spelled_iff,?_,?_⟩
  · rw [isHallucination]
    by_cases long : text.length > 500
    · rw [if_pos long]
      exact iff_of_true rfl (.inl long)
    · rw [if_neg long,scan_words,or_iff_right long]
  · intro other spelled short shortOther
    rw [isHallucination,isHallucination,if_neg (Nat.not_lt.mpr short),if_neg (Nat.not_lt.mpr shortOther),
      words_of_spelled spelled]

example : isHallucination (bytes "la verdad la verdad la verdad la verdad") = true := by decide
example : isHallucination (bytes "la verdad la verdad la verdad") = false := by decide

end HallucinationGuard
end JotaTranscriber

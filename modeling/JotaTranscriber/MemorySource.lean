import JotaTranscriber.Basic
import JotaTranscriber.Machine
import Mathlib.Data.List.Basic
import Mathlib.Algebra.Order.Ring.Int

-- The AVIO source over the bytes of an upload.
namespace JotaTranscriber.MemorySource

def seekSet : Int32 := 0
def seekCur : Int32 := 1
def seekEnd : Int32 := 2
def avseekSize : Int32 := 0x10000
def avseekForce : Int32 := 0x20000

-- The length of a std::vector is a size_t.
structure Buffer where
  bytes : List UInt8
  fits : bytes.length < 2^64

structure ReadState where
  base : Buffer
  size : UInt64
  pos : UInt64

def opened (data : Buffer) : ReadState := ⟨data,.ofNat data.bytes.length,0⟩

-- none for AVERROR_EOF; else the n bytes that memcpy puts into buf.
def readPacket (s : ReadState) (bufSize : Int32) : Option (List UInt8) × ReadState :=
  let n : Int32 := (min bufSize.toInt64.toUInt64 (s.size - s.pos)).toUInt32.toInt32
  if n ≤ 0 then (none,s)
  else
    (some ((s.base.bytes.drop s.pos.toNat).take n.toInt64.toUInt64.toNat),
      { s with pos := s.pos + n.toInt64.toUInt64 })

def direction (whence : Int32) : Int32 := whence &&& ~~~avseekForce

def newPos (s : ReadState) (offset : Int64) (whence : Int32) : Option Int64 :=
  if direction whence = seekSet then some offset
  else if direction whence = seekCur then some (s.pos.toInt64 + offset)
  else if direction whence = seekEnd then some (s.size.toInt64 + offset)
  else none

def seekPacket (s : ReadState) (offset : Int64) (whence : Int32) : Int64 × ReadState :=
  if direction whence = avseekSize then (s.size.toInt64,s)
  else
    match newPos s offset whence with
    | none => (-1,s)
    | some newPos =>
      if newPos < 0 ∨ newPos > s.size.toInt64 then (-1,s)
      else (newPos,{ s with pos := newPos.toUInt64 })

abbrev Room := { bufSize : Int32 // 0 < bufSize }

inductive Call where
  | read (bufSize : Room)
  | seek (offset : Int64) (whence : Int32)

def advance (s : ReadState) : Call → ReadState
  | .read bufSize => (readPacket s bufSize).2
  | .seek offset whence => (seekPacket s offset whence).2

def Step (s : ReadState) (call : Call) (next : ReadState) : Prop := next = advance s call

abbrev Runs := Machine.Runs Step

def readAll (s : ReadState) : List Room → List UInt8
  | [] => []
  | bufSize :: rest =>
    let (bytes,next) := readPacket s bufSize
    bytes.getD [] ++ readAll next rest

def total : List Room → Nat
  | [] => 0
  | bufSize :: rest => bufSize.1.toInt.toNat + total rest

-- The whence of lseek and FFmpeg, with AVSEEK_FORCE or without.
def asks (whence wanted : Int32) : Bool := whence = wanted || whence = wanted ||| avseekForce

-- The position that is asked for, over the integers.
def target (s : ReadState) (offset : Int64) (whence : Int32) : Option Int :=
  if asks whence seekSet then some offset.toInt
  else if asks whence seekCur then some (s.pos.toNat + offset.toInt)
  else if asks whence seekEnd then some (s.size.toNat + offset.toInt)
  else none

-- The source reads and seeks as a file with these bytes does.
structure FileLike (data : Buffer) (s : ReadState) : Prop where
  sized : s.size.toNat = data.bytes.length
  inside : s.pos ≤ s.size
  left : (s.size - s.pos).toNat = data.bytes.length - s.pos.toNat
  ended : ∀ bufSize : Room, (readPacket s bufSize).1 = none ↔ s.pos = s.size
  stays : ∀ bufSize : Room, (readPacket s bufSize).1 = none → (readPacket s bufSize).2 = s
  reads : ∀ (bufSize : Room) bytes, (readPacket s bufSize).1 = some bytes →
    bytes = (data.bytes.drop s.pos.toNat).take bufSize.1.toInt.toNat ∧
      bytes.length = min bufSize.1.toInt.toNat (data.bytes.length - s.pos.toNat) ∧
      (readPacket s bufSize).2.pos.toNat = s.pos.toNat + bytes.length
  fails : ∀ offset whence, (seekPacket s offset whence).1 = -1 → (seekPacket s offset whence).2 = s
  query : ∀ offset whence, asks whence avseekSize → seekPacket s offset whence = (s.size.toInt64,s)
  lands : ∀ offset whence, asks whence avseekSize = false →
    ((seekPacket s offset whence).1 ≠ -1 ↔ data.bytes.length < 2^63 ∧
      ∃ position ∈ target s offset whence, 0 ≤ position ∧ position ≤ data.bytes.length)
  seeks : ∀ offset whence, asks whence avseekSize = false → (seekPacket s offset whence).1 ≠ -1 →
    ∃ position : Nat, target s offset whence = some (position : Int) ∧
      (seekPacket s offset whence).1.toInt = position ∧
      (seekPacket s offset whence).2.pos.toNat = position ∧
      (∀ sizes, readAll (seekPacket s offset whence).2 sizes =
        (data.bytes.drop position).take (total sizes)) ∧
      ∀ sizes : List Room, data.bytes.length ≤ sizes.length →
        readAll (seekPacket s offset whence).2 sizes = data.bytes.drop position

structure Sound (data : Buffer) (s : ReadState) : Prop where
  base : s.base = data
  size : s.size.toNat = data.bytes.length
  inside : s.pos.toNat ≤ data.bytes.length

variable {data : Buffer} {s next : ReadState} {call : Call} {trace : List (ReadState × Call)}

theorem opened_sound (data : Buffer) : Sound data (opened data) := by
  refine ⟨rfl,?_,Nat.zero_le _⟩
  exact UInt64.toNat_ofNat_of_lt' data.fits

theorem toNat_positive {bufSize : Int32} (positive : 0 < bufSize) :
    bufSize.toInt64.toUInt64.toNat = bufSize.toInt.toNat ∧ 0 < bufSize.toInt.toNat ∧
      bufSize.toInt.toNat < 2^31 := by
  have above : 0 < bufSize.toInt := Int32.lt_iff_toInt_lt.mp positive
  have wide : 0 ≤ bufSize.toInt64 := by
    rw [Int64.le_iff_toInt_le,Int32.toInt_toInt64]
    exact Int.le_of_lt above
  have small := bufSize.toInt_lt
  refine ⟨?_,by omega,by omega⟩
  rw [Int64.toNat_toUInt64_of_le wide,Int32.toNatClampNeg_toInt64]
  rfl

-- static_cast<int> of what an int has room for.
theorem toInt_narrowed {n : UInt64} (small : n.toNat < 2^31) : n.toUInt32.toInt32.toInt = n.toNat := by
  have same : n.toUInt32.toNat = n.toNat := by
    rw [UInt64.toNat_toUInt32]
    omega
  have half : 2 * n.toUInt32.toBitVec.toNat < 2^32 := by
    show 2 * n.toUInt32.toNat < 2^32
    omega
  show n.toUInt32.toBitVec.toInt = n.toNat
  rw [BitVec.toInt_eq_toNat_of_lt half]
  exact congrArg Int.ofNat same

theorem toInt64_le (size : UInt64) : size.toInt64.toInt ≤ size.toNat := by
  show size.toBitVec.toInt ≤ size.toBitVec.toNat
  rw [BitVec.toInt_eq_toNat_cond]
  split <;> omega

theorem toNat_min (left right : UInt64) : (min left right).toNat = min left.toNat right.toNat := by
  show (if left ≤ right then left else right).toNat = _
  split
  · rename_i below
    rw [Nat.min_eq_left (UInt64.le_iff_toNat_le.mp below)]
  · rename_i above
    rw [Nat.min_eq_right (Nat.le_of_lt (Nat.lt_of_not_le (mt UInt64.le_iff_toNat_le.mpr above)))]

theorem Sound.left (sound : Sound data s) : (s.size - s.pos).toNat = data.bytes.length - s.pos.toNat := by
  have below : s.pos ≤ s.size := by
    rw [UInt64.le_iff_toNat_le,sound.size]
    exact sound.inside
  rw [UInt64.toNat_sub_of_le _ _ below,sound.size]

theorem Sound.ended (sound : Sound data s) : s.pos = s.size ↔ s.pos.toNat = data.bytes.length := by
  rw [← UInt64.toNat_inj,sound.size]

def room (s : ReadState) (bufSize : Room) : Nat :=
  min bufSize.1.toInt.toNat (s.base.bytes.length - s.pos.toNat)

theorem readPacket_end (ended : s.pos = s.size) (bufSize : Room) :
    readPacket s bufSize = (none,s) := by
  have nothing : s.size - s.pos = 0 := by rw [ended,UInt64.sub_self]
  have none : (min bufSize.1.toInt64.toUInt64 (s.size - s.pos)).toUInt32.toInt32 = 0 := by
    rw [nothing,show min bufSize.1.toInt64.toUInt64 0 = 0 from by
      rw [← UInt64.toNat_inj,toNat_min]
      exact Nat.min_zero _]
    rfl
  simp only [readPacket,none]
  exact if_pos (by decide)

theorem readPacket_more (sound : Sound data s) (more : s.pos ≠ s.size) (bufSize : Room) :
    0 < room s bufSize ∧ ∃ next,
      readPacket s bufSize = (some ((data.bytes.drop s.pos.toNat).take (room s bufSize)),next) ∧
      next.base = s.base ∧ next.size = s.size ∧ next.pos.toNat = s.pos.toNat + room s bufSize := by
  obtain ⟨wide,positive,small⟩ := toNat_positive bufSize.2
  have behind : s.pos.toNat ≠ data.bytes.length := mt sound.ended.mpr more
  have inside := sound.inside
  have some : 0 < room s bufSize := by
    rw [room,sound.base]
    omega
  have bounded : room s bufSize ≤ bufSize.1.toInt.toNat ∧
      s.pos.toNat + room s bufSize ≤ data.bytes.length := by
    rw [room,sound.base]
    omega
  have amount : (min bufSize.1.toInt64.toUInt64 (s.size - s.pos)).toNat = room s bufSize := by
    rw [toNat_min,wide,sound.left,room,sound.base]
  have narrowed := toInt_narrowed (n := min bufSize.1.toInt64.toUInt64 (s.size - s.pos)) (by omega)
  generalize named : (min bufSize.1.toInt64.toUInt64 (s.size - s.pos)).toUInt32.toInt32 = n at narrowed
  have above : 0 < n := by
    rw [Int32.lt_iff_toInt_lt,narrowed,amount]
    exact Int.natCast_pos.mpr some
  obtain ⟨again,_,_⟩ := toNat_positive above
  have length : n.toInt64.toUInt64.toNat = room s bufSize := by
    rw [again,narrowed,amount]
    rfl
  have fits := data.fits
  refine ⟨some,{ s with pos := s.pos + n.toInt64.toUInt64 },?_,rfl,rfl,?_⟩
  · simp only [readPacket,named,if_neg (Int32.not_le.mpr above),length,sound.base]
  · rw [UInt64.toNat_add,length]
    exact Nat.mod_eq_of_lt (by omega)

theorem seekPacket_cases (sound : Sound data s) (offset : Int64) (whence : Int32) :
    (seekPacket s offset whence).2 = s ∧
        ((seekPacket s offset whence).1 = -1 ∨ direction whence = avseekSize) ∨
      direction whence ≠ avseekSize ∧ ∃ found, newPos s offset whence = some found ∧
        seekPacket s offset whence = (found,{ s with pos := found.toUInt64 }) ∧
        0 ≤ found.toInt ∧ found.toInt ≤ data.bytes.length ∧ found.toUInt64.toNat = found.toInt.toNat := by
  unfold seekPacket
  split
  · rename_i query
    exact .inl ⟨rfl,.inr query⟩
  rename_i other
  split
  · exact .inl ⟨rfl,.inl rfl⟩
  · rename_i found located
    split
    · exact .inl ⟨rfl,.inl rfl⟩
    · rename_i valid
      obtain ⟨above,below⟩ := not_or.mp valid
      have zero : 0 ≤ found := Int64.not_lt.mp above
      have bounded := Int64.le_iff_toInt_le.mp (Int64.not_lt.mp below)
      have size := toInt64_le s.size
      rw [sound.size] at size
      refine .inr ⟨other,found,located,rfl,Int64.le_iff_toInt_le.mp zero,bounded.trans size,?_⟩
      exact Int64.toNat_toUInt64_of_le zero

theorem sound_preserved (sound : Sound data s) (one : Step s call next) : Sound data next := by
  cases one
  cases call with
  | read bufSize =>
    by_cases ended : s.pos = s.size
    · rw [advance,readPacket_end ended]
      exact sound
    · obtain ⟨_,next,ran,base,size,pos⟩ := readPacket_more sound ended bufSize
      have inside := sound.inside
      rw [advance,ran]
      refine ⟨base.trans sound.base,by rw [size]; exact sound.size,?_⟩
      rw [pos,room,sound.base]
      omega
  | seek offset whence =>
    rcases seekPacket_cases sound offset whence with ⟨same,_⟩ | ⟨_,found,_,ran,_,below,pos⟩
    · rw [advance,same]
      exact sound
    · rw [advance,ran]
      refine ⟨sound.base,sound.size,?_⟩
      show found.toUInt64.toNat ≤ data.bytes.length
      omega

theorem sound_advance (sound : Sound data s) (call : Call) : Sound data (advance s call) :=
  sound_preserved sound rfl

theorem runs_sound (path : Runs (opened data) trace s) : Sound data s :=
  path.invariant (opened_sound data) sound_preserved

theorem take_room (sound : Sound data s) (bufSize : Room) :
    (data.bytes.drop s.pos.toNat).take (room s bufSize) =
      (data.bytes.drop s.pos.toNat).take bufSize.1.toInt.toNat := by
  rw [List.take_eq_take_iff,List.length_drop,room,sound.base]
  omega

theorem readAll_eq (sound : Sound data s) (sizes : List Room) :
    readAll s sizes = (data.bytes.drop s.pos.toNat).take (total sizes) := by
  induction sizes generalizing s with
  | nil => rfl
  | cons bufSize rest ih =>
    have split : total (bufSize :: rest) = bufSize.1.toInt.toNat + total rest := rfl
    by_cases ended : s.pos = s.size
    · have empty : data.bytes.drop s.pos.toNat = [] :=
        List.drop_eq_nil_of_le (Nat.le_of_eq (sound.ended.mp ended).symm)
      simp only [readAll,readPacket_end ended,ih sound,empty,List.take_nil]
      rfl
    · obtain ⟨_,next,ran,base,size,pos⟩ := readPacket_more sound ended bufSize
      have after : Sound data next := by
        have kept := sound_advance sound (.read bufSize)
        rwa [advance,ran] at kept
      have length : (data.bytes.drop s.pos.toNat).length = data.bytes.length - s.pos.toNat := List.length_drop
      simp only [readAll,ran,ih after,pos,Option.getD_some]
      rw [split,List.take_add,← List.drop_drop,room,sound.base]
      rcases Nat.le_total bufSize.1.toInt.toNat (data.bytes.length - s.pos.toNat) with within | beyond
      · rw [Nat.min_eq_left within]
      · rw [Nat.min_eq_right beyond,List.take_of_length_le (Nat.le_of_eq length),
          List.take_of_length_le (length.trans_le beyond),List.drop_eq_nil_of_le (Nat.le_of_eq length),
          List.drop_eq_nil_of_le (length.trans_le beyond)]

theorem length_le_total (sizes : List Room) : sizes.length ≤ total sizes := by
  induction sizes with
  | nil => exact Nat.zero_le _
  | cons bufSize rest ih =>
    have split : total (bufSize :: rest) = bufSize.1.toInt.toNat + total rest := rfl
    obtain ⟨_,positive,_⟩ := toNat_positive bufSize.2
    rw [split,List.length_cons]
    omega

theorem force_bit (i : Nat) : avseekForce.toBitVec.getLsbD i = decide (i = 17) := by
  rw [show avseekForce.toBitVec = BitVec.twoPow 32 17 from rfl,BitVec.getLsbD_twoPow]
  simp [eq_comm]

-- The flag is one bit, which none of the four directions has.
theorem direction_iff (wanted : Int32) (plain : wanted.toBitVec.getLsbD 17 = false) (whence : Int32) :
    direction whence = wanted ↔ asks whence wanted = true := by
  have stripped (i : Nat) (inside : i < 32) : (direction whence).toBitVec.getLsbD i =
      (whence.toBitVec.getLsbD i && !decide (i = 17)) := by
    rw [direction,Int32.toBitVec_and,Int32.toBitVec_not,BitVec.getLsbD_and,BitVec.getLsbD_not,force_bit]
    simp only [inside,decide_true,Bool.true_and]
  have forced (i : Nat) : (wanted ||| avseekForce).toBitVec.getLsbD i =
      (wanted.toBitVec.getLsbD i || decide (i = 17)) := by
    rw [Int32.toBitVec_or,BitVec.getLsbD_or,force_bit]
  simp only [asks,Bool.or_eq_true,decide_eq_true_eq]
  constructor
  · intro same
    have others (i : Nat) (inside : i < 32) (other : i ≠ 17) :
        whence.toBitVec.getLsbD i = wanted.toBitVec.getLsbD i := by
      rw [← same,stripped i inside]
      simp [other]
    cases flag : whence.toBitVec.getLsbD 17 with
    | false =>
      refine .inl (Int32.toBitVec_inj.mp (BitVec.eq_of_getLsbD_eq fun i inside => ?_))
      by_cases bit : i = 17
      · rw [bit,flag,plain]
      · exact others i inside bit
    | true =>
      refine .inr (Int32.toBitVec_inj.mp (BitVec.eq_of_getLsbD_eq fun i inside => ?_))
      rw [forced]
      by_cases bit : i = 17
      · rw [bit,flag,plain]
        rfl
      · simp [bit,others i inside bit]
  · intro asked
    refine Int32.toBitVec_inj.mp (BitVec.eq_of_getLsbD_eq fun i inside => ?_)
    rw [stripped i inside]
    by_cases bit : i = 17
    · rw [bit,plain]
      exact Bool.and_false _
    · rcases asked with rfl | rfl
      · simp [bit]
      · rw [forced]
        simp [bit]

theorem toInt64_eq {n : UInt64} (small : n.toNat < 2^63) : n.toInt64.toInt = n.toNat := by
  show n.toBitVec.toInt = n.toBitVec.toNat
  exact BitVec.toInt_eq_toNat_of_lt (by show 2 * n.toNat < 2^64; omega)

-- A size that has no room in an int64_t comes out negative, and no seek succeeds.
theorem toInt64_neg {n : UInt64} (large : 2^63 ≤ n.toNat) : n.toInt64.toInt < 0 := by
  show n.toBitVec.toInt < 0
  have bounded := n.toNat_lt
  rw [BitVec.toInt_eq_toNat_cond,if_neg (by show ¬ 2 * n.toNat < 2^64; omega)]
  show (n.toNat : Int) - (2^64 : Nat) < 0
  omega

theorem toInt_sum {n : UInt64} {limit : Nat} (inside : n.toNat ≤ limit) (small : limit < 2^63) (offset : Int64) :
    (n.toInt64 + offset).toInt = n.toNat + offset.toInt ∨
      (n.toInt64 + offset).toInt < 0 ∧ (limit : Int) < n.toNat + offset.toInt := by
  have least := offset.le_toInt
  have most := offset.toInt_lt
  rw [Int64.toInt_add,toInt64_eq (Nat.lt_of_le_of_lt inside small),Int.bmod_def]
  split <;> omega

theorem newPos_target (sound : Sound data s) (small : data.bytes.length < 2^63) (offset : Int64)
    (whence : Int32) : newPos s offset whence = none ∧ target s offset whence = none ∨
      ∃ found position, newPos s offset whence = some found ∧ target s offset whence = some position ∧
        (found.toInt = position ∨ found.toInt < 0 ∧ (data.bytes.length : Int) < position) := by
  have whole : s.size.toNat ≤ data.bytes.length := Nat.le_of_eq sound.size
  have set := direction_iff seekSet (by decide) whence
  have cur := direction_iff seekCur (by decide) whence
  have fin := direction_iff seekEnd (by decide) whence
  simp only [newPos,target,set,cur,fin]
  split
  · exact .inr ⟨_,_,rfl,rfl,.inl rfl⟩
  split
  · exact .inr ⟨_,_,rfl,rfl,toInt_sum sound.inside small offset⟩
  split
  · exact .inr ⟨_,_,rfl,rfl,toInt_sum whole small offset⟩
  · exact .inl ⟨rfl,rfl⟩

theorem seeks_elsewhere (other : asks whence avseekSize = false) : direction whence ≠ avseekSize := by
  rw [Ne,direction_iff _ (by decide),other]
  exact Bool.false_ne_true

-- A seek succeeds exactly if the position asked for is in the buffer, or at its
-- end; no sum that wraps around passes for one.
theorem sound_lands (sound : Sound data s) {offset : Int64} {whence : Int32}
    (other : asks whence avseekSize = false) :
    (seekPacket s offset whence).1 ≠ -1 ↔ data.bytes.length < 2^63 ∧
      ∃ position ∈ target s offset whence, 0 ≤ position ∧ position ≤ data.bytes.length := by
  have moves := seeks_elsewhere other
  rcases Nat.lt_or_ge data.bytes.length (2^63) with small | large
  · have size := toInt64_eq (n := s.size) (by rw [sound.size]; exact small)
    rw [sound.size] at size
    rw [seekPacket,if_neg moves]
    rcases newPos_target sound small offset whence with ⟨located,none⟩ | ⟨found,position,located,asked,same⟩
    · simp [located,none]
    · have valid : ¬ (found < 0 ∨ found > s.size.toInt64) ↔ 0 ≤ position ∧ position ≤ data.bytes.length := by
        rw [not_or,gt_iff_lt,Int64.not_lt,Int64.not_lt,Int64.le_iff_toInt_le,Int64.le_iff_toInt_le,size]
        show 0 ≤ found.toInt ∧ found.toInt ≤ data.bytes.length ↔ _
        omega
      simp only [located,asked,Option.mem_some_iff,exists_eq_left',← valid,small,true_and]
      split
      · rename_i outside
        simp [outside]
      · rename_i inside
        refine iff_of_true ?_ inside
        intro failed
        rw [show found = -1 from failed] at inside
        exact inside (.inl (by decide))
  · refine iff_of_false ?_ fun room => absurd room.1 (Nat.not_lt.mpr large)
    intro succeeded
    have negative := toInt64_neg (n := s.size) (by rw [sound.size]; exact large)
    rw [seekPacket,if_neg moves] at succeeded
    split at succeeded
    · exact succeeded rfl
    · split at succeeded
      · exact succeeded rfl
      · rename_i inside
        rw [not_or,gt_iff_lt,Int64.not_lt,Int64.not_lt,Int64.le_iff_toInt_le,Int64.le_iff_toInt_le] at inside
        have above : 0 ≤ s.size.toInt64.toInt := inside.1.trans inside.2
        exact absurd above (Int.not_le.mpr negative)

theorem sound_seeks (sound : Sound data s) {offset : Int64} {whence : Int32}
    (other : asks whence avseekSize = false) (succeeded : (seekPacket s offset whence).1 ≠ -1) :
    ∃ position : Nat, target s offset whence = some (position : Int) ∧
      (seekPacket s offset whence).1.toInt = position ∧
      (seekPacket s offset whence).2.pos.toNat = position ∧ Sound data (seekPacket s offset whence).2 := by
  have after := sound_advance sound (.seek offset whence)
  obtain ⟨small,_⟩ := (sound_lands sound other).mp succeeded
  rcases seekPacket_cases sound offset whence with ⟨_,failed | query⟩ | ⟨_,found,located,ran,above,_,pos⟩
  · exact absurd failed succeeded
  · exact absurd query (seeks_elsewhere other)
  · rw [advance] at after
    rw [ran] at after ⊢
    have whole : (found.toInt.toNat : Int) = found.toInt := Int.toNat_of_nonneg above
    refine ⟨found.toInt.toNat,?_,whole.symm,pos,after⟩
    rcases newPos_target sound small offset whence with ⟨none,_⟩ | ⟨_,position,same,asked,exactly | ⟨below,_⟩⟩
    · rw [none] at located
      cases located
    · rw [same] at located
      cases located
      rw [asked,whole,exactly]
    · rw [same] at located
      cases located
      exact absurd above (Int.not_le.mpr below)

theorem sound_fileLike (sound : Sound data s) : FileLike data s where
  sized := sound.size
  inside := by
    rw [UInt64.le_iff_toNat_le,sound.size]
    exact sound.inside
  left := sound.left
  ended bufSize := by
    constructor
    · intro none
      by_contra more
      obtain ⟨_,next,ran,_⟩ := readPacket_more sound more bufSize
      rw [ran] at none
      cases none
    · intro ended
      rw [readPacket_end ended]
  stays bufSize none := by
    by_cases ended : s.pos = s.size
    · rw [readPacket_end ended]
    · obtain ⟨_,next,ran,_⟩ := readPacket_more sound ended bufSize
      rw [ran] at none
      cases none
  reads bufSize bytes given := by
    by_cases ended : s.pos = s.size
    · rw [readPacket_end ended] at given
      cases given
    · obtain ⟨_,next,ran,_,_,pos⟩ := readPacket_more sound ended bufSize
      rw [ran] at given ⊢
      cases given
      have length : ((data.bytes.drop s.pos.toNat).take (room s bufSize)).length = room s bufSize := by
        rw [List.length_take,List.length_drop,room,sound.base]
        omega
      exact ⟨take_room sound bufSize,by rw [length,room,sound.base],by rw [length]; exact pos⟩
  fails offset whence failed := by
    rcases seekPacket_cases sound offset whence with ⟨same,_⟩ | ⟨_,found,_,ran,above,_⟩
    · exact same
    · rw [ran] at failed
      rw [show found = -1 from failed] at above
      exact absurd above (by decide)
  query offset whence query := by rw [seekPacket,if_pos ((direction_iff _ (by decide) whence).mpr query)]
  lands offset whence other := sound_lands sound other
  seeks offset whence other succeeded := by
    obtain ⟨position,asked,told,pos,after⟩ := sound_seeks sound other succeeded
    have follows (sizes : List Room) : readAll (seekPacket s offset whence).2 sizes =
        (data.bytes.drop position).take (total sizes) := by
      rw [readAll_eq after,pos]
    refine ⟨position,asked,told,pos,follows,?_⟩
    intro sizes enough
    have least := length_le_total sizes
    rw [follows]
    refine List.take_of_length_le ?_
    rw [List.length_drop]
    omega

theorem source_like_file (path : Runs (opened data) trace s) : FileLike data s :=
  sound_fileLike (runs_sound path)

def riff : Buffer := ⟨bytes "RIFFWAVE",by decide⟩

-- A read of four bytes, a seek far out of the buffer, and one back from its end.
def headerRead : List Call :=
  [.read ⟨4,by decide⟩,.seek 9223372036854775807 seekCur,.seek (-6) seekEnd]

theorem source_like_file_header :
    (headerRead.foldl advance (opened riff)).pos = 2 ∧
      FileLike riff (headerRead.foldl advance (opened riff)) :=
  ⟨by decide,source_like_file (Machine.runs_trail advance (opened riff) headerRead)⟩

end JotaTranscriber.MemorySource

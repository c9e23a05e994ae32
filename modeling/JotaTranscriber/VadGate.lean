import JotaTranscriber.AudioPreprocessor
import JotaTranscriber.Basic

namespace JotaTranscriber

-- What an inference pass can throw: the two std::runtime_errors of VadGate and
-- the one raised when whisper_full_with_state returns a non-zero code.
inductive InferenceError where
  | vadLoadFailed
  | vadRunFailed
  | whisperFailed (code : Int)
  deriving DecidableEq, Repr

structure SegmentMapping where
  gatedStart : Int
  gatedEnd : Int
  originalStart : Int
  originalEnd : Int
  deriving DecidableEq, Repr

structure GatedResult where
  samples : List Sample
  hadSpeech : Bool

-- `loaded` is a non-null vad_ctx_; the whisper_vad_params that only the Silero
-- library reads are left out.
structure VadGate where
  speechPadMs : Int
  loaded : Bool
  mapping : List SegmentMapping
  originalTotalSamples : Int

-- The answers of the Silero library to one gate() call: whether the model file
-- loads if it is asked for, and the detected segments (none when the run
-- fails), as the sample offsets std::lround returns before they are clamped.
structure VadOutcome where
  loads : Bool
  segments : Option (List (Int × Int))

namespace VadGate

def create (speechPadMs : Int) : VadGate := ⟨speechPadMs,false,[],0⟩

def mapAfter (gatedSamples originalTotalSamples previousEnd : Int) : List SegmentMapping → Int
  | [] => min previousEnd originalTotalSamples
  | seg :: rest =>
    if gatedSamples < seg.gatedStart then previousEnd
    else if gatedSamples < seg.gatedEnd then seg.originalStart + (gatedSamples - seg.gatedStart)
    else mapAfter gatedSamples originalTotalSamples seg.originalEnd rest

def mapGatedToOriginalSamples (mapping : List SegmentMapping)
    (gatedSamples originalTotalSamples : Int) : Int :=
  match mapping with
  | [] => 0
  | seg :: rest =>
    if gatedSamples < 0 then 0
    else if gatedSamples < seg.gatedStart then 0
    else if gatedSamples < seg.gatedEnd then seg.originalStart + (gatedSamples - seg.gatedStart)
    else mapAfter gatedSamples originalTotalSamples seg.originalEnd rest

def toOriginalSamples (gate : VadGate) (gatedCentiseconds : Int) : Int :=
  mapGatedToOriginalSamples gate.mapping (gatedCentiseconds * 160) gate.originalTotalSamples

def sampleRate : Int := 16000
def gap : Nat := 1600

-- Samples of padding on each side; int division truncates towards zero.
def pad (gate : VadGate) : Int := (gate.speechPadMs * sampleRate).tdiv 1000

def clampSamples (total value : Int) : Int := min (max value 0) total

structure GateLoop where
  gatedCursor : Int
  prevSegEnd : Int
  samples : List Sample
  mapping : List SegmentMapping

def gateLoop (original : List Sample) (total pad : Int) : List (Int × Int) → GateLoop → GateLoop
  | [],loop => loop
  | (t0,t1) :: rest,loop =>
    let segStart := max (max 0 (clampSamples total t0 - pad)) loop.prevSegEnd
    let segEnd := min total (clampSamples total t1 + pad)
    if segEnd ≤ segStart then gateLoop original total pad rest loop
    else
      let gatedEnd := loop.gatedCursor + (segEnd - segStart)
      let silence := if rest.isEmpty then 0 else gap
      gateLoop original total pad rest
        { gatedCursor := gatedEnd + silence
          prevSegEnd := segEnd
          samples := loop.samples ++ (original.drop segStart.toNat).take (segEnd - segStart).toNat ++
            List.replicate silence 0
          mapping := loop.mapping ++ [⟨loop.gatedCursor,gatedEnd,segStart,segEnd⟩] }

-- The gate is changed also when the call throws: the mapping of the previous
-- pass is already cleared, and a model that loaded stays loaded.
def gate (gate : VadGate) (original : List Sample) (outcome : VadOutcome) :
    VadGate × Except InferenceError GatedResult :=
  let total : Int := original.length
  let cleared := { gate with mapping := [], originalTotalSamples := total }
  if original.isEmpty then (cleared,.ok ⟨[],false⟩)
  else if !gate.loaded && !outcome.loads then (cleared,.error .vadLoadFailed)
  else
    let ready := { cleared with loaded := true }
    match outcome.segments with
    | none => (ready,.error .vadRunFailed)
    | some [] => (ready,.ok ⟨[],false⟩)
    | some segments =>
      let done := gateLoop original total gate.pad segments ⟨0,0,[],[]⟩
      ({ ready with mapping := done.mapping },.ok ⟨done.samples,!done.samples.isEmpty⟩)

def hears (gate : VadGate) (original : List Sample) (segments : List (Int × Int)) : Bool :=
  !(gateLoop original original.length gate.pad segments ⟨0,0,[],[]⟩).samples.isEmpty

@[simp] theorem gate_speechPadMs (gate : VadGate) (original : List Sample) (outcome : VadOutcome) :
    (gate.gate original outcome).1.speechPadMs = gate.speechPadMs := by
  unfold VadGate.gate
  dsimp only
  split
  · rfl
  · split
    · rfl
    · split <;> rfl

-- The three ways gate() ends: it throws, it hears nothing, it hears speech.
theorem gate_cases (gate : VadGate) (original : List Sample) (outcome : VadOutcome)
    (nonempty : original ≠ []) :
    (gate.loaded = false ∧ outcome.loads = false ∧
      (gate.gate original outcome).2 = .error .vadLoadFailed) ∨
    (gate.loaded = true ∨ outcome.loads = true) ∧
      (outcome.segments = none ∧ (gate.gate original outcome).2 = .error .vadRunFailed ∨
      ∃ segments result, outcome.segments = some segments ∧
        (gate.gate original outcome).2 = .ok result ∧
        result.hadSpeech = gate.hears original segments) := by
  have some_samples : original.isEmpty = false := by simpa using nonempty
  unfold VadGate.gate
  simp only [some_samples,Bool.false_eq_true,if_false]
  cases loaded : gate.loaded <;> cases loads : outcome.loads
  · simp
  all_goals
    refine .inr ⟨by simp,?_⟩
    cases found : outcome.segments with
    | none => simp
    | some segments =>
      refine .inr ⟨segments,?_⟩
      cases segments <;> simp [VadGate.hears,gateLoop]

section Mapping
variable {gated original total previous before position heard t1 : Int}
  {mapping : List SegmentMapping} {seg : SegmentMapping}

-- A mapping as gate() builds it: its entries follow each other in both
-- timelines, and each copies as many samples as it covers.
def Ordered (gated original total : Int) : List SegmentMapping → Prop
  | [] => True
  | seg :: rest => gated ≤ seg.gatedStart ∧ original ≤ seg.originalStart ∧
      seg.gatedStart < seg.gatedEnd ∧ seg.originalEnd ≤ total ∧
      seg.originalEnd - seg.originalStart = seg.gatedEnd - seg.gatedStart ∧
      Ordered seg.gatedEnd seg.originalEnd total rest

theorem Ordered.weaken (ordered : Ordered gated original total mapping) (earlier : before ≤ gated) :
    Ordered before original total mapping := by
  cases mapping with
  | nil => trivial
  | cons seg rest => exact ⟨Int.le_trans earlier ordered.1,ordered.2⟩

theorem Ordered.mem (ordered : Ordered gated original total mapping) (present : seg ∈ mapping) :
    gated ≤ seg.gatedStart ∧ original ≤ seg.originalStart ∧ seg.originalEnd ≤ total ∧
      seg.originalEnd - seg.originalStart = seg.gatedEnd - seg.gatedStart ∧
      seg.gatedStart < seg.gatedEnd := by
  induction mapping generalizing gated original with
  | nil => cases present
  | cons first rest ih =>
    obtain ⟨gatedFrom,originalFrom,nonempty,inside,same,others⟩ := ordered
    rcases List.mem_cons.mp present with rfl | later
    · exact ⟨gatedFrom,originalFrom,inside,same,nonempty⟩
    · have found := ih others later
      refine ⟨?_,?_,found.2.2⟩ <;> omega

-- The samples an entry copies, and the buffer that the entries from a cursor on
-- describe: each one's samples and then silence, of the length of the gap
-- unless it is the last.
def copied (buffer : List Sample) (seg : SegmentMapping) : List Sample :=
  (buffer.drop seg.originalStart.toNat).take (seg.originalEnd - seg.originalStart).toNat

def Laid (buffer : List Sample) : Int → List SegmentMapping → List Sample → Prop
  | _,[],samples => samples = []
  | cursor,seg :: rest,samples => seg.gatedStart = cursor ∧ ∃ silence later,
      samples = copied buffer seg ++ List.replicate silence 0 ++ later ∧
      (rest ≠ [] → silence = gap) ∧ Laid buffer (seg.gatedEnd + silence) rest later

def GateLoop.extend (loop : GateLoop) (buffer : List Sample) (segStart segEnd : Int)
    (silence : Nat) : GateLoop where
  gatedCursor := loop.gatedCursor + (segEnd - segStart) + silence
  prevSegEnd := segEnd
  samples := loop.samples ++ (buffer.drop segStart.toNat).take (segEnd - segStart).toNat ++
    List.replicate silence 0
  mapping := loop.mapping ++
    [⟨loop.gatedCursor,loop.gatedCursor + (segEnd - segStart),segStart,segEnd⟩]

def segStart (total pad t0 : Int) (loop : GateLoop) : Int :=
  max (max 0 (clampSamples total t0 - pad)) loop.prevSegEnd

def segEnd (total pad t1 : Int) : Int := min total (clampSamples total t1 + pad)

theorem gateLoop_cons (buffer : List Sample) (total pad t0 t1 : Int) (rest : List (Int × Int))
    (loop : GateLoop) :
    gateLoop buffer total pad ((t0,t1) :: rest) loop =
      if segEnd total pad t1 ≤ segStart total pad t0 loop then gateLoop buffer total pad rest loop
      else gateLoop buffer total pad rest (loop.extend buffer (segStart total pad t0 loop)
        (segEnd total pad t1) (if rest.isEmpty then 0 else gap)) := rfl

theorem gateLoop_built (buffer : List Sample) (total pad : Int) (segments : List (Int × Int))
    (loop : GateLoop) : ∃ new tail,
      (gateLoop buffer total pad segments loop).mapping = loop.mapping ++ new ∧
      (gateLoop buffer total pad segments loop).samples = loop.samples ++ tail ∧
      (segments = [] → new = []) ∧
      Ordered loop.gatedCursor loop.prevSegEnd total new ∧ Laid buffer loop.gatedCursor new tail := by
  induction segments generalizing loop with
  | nil =>
    exact ⟨[],[],(List.append_nil _).symm,(List.append_nil _).symm,fun _ => rfl,trivial,rfl⟩
  | cons segment rest ih =>
    obtain ⟨t0,t1⟩ := segment
    rw [gateLoop_cons]
    split
    · obtain ⟨new,tail,entries,samples,_,ordered,laid⟩ := ih loop
      exact ⟨new,tail,entries,samples,nofun,ordered,laid⟩
    · rename_i kept
      have clipped : segEnd total pad t1 ≤ total := Int.min_le_left _ _
      have after : loop.prevSegEnd ≤ segStart total pad t0 loop := Int.le_max_right _ _
      revert kept clipped after
      generalize segEnd total pad t1 = stop
      generalize segStart total pad t0 loop = start
      intro kept clipped after
      obtain ⟨new,tail,entries,samples,none_left,ordered,laid⟩ := ih
        (loop.extend buffer start stop (if rest.isEmpty then 0 else gap))
      have longer : loop.gatedCursor + (stop - start) ≤
          loop.gatedCursor + (stop - start) + ((if rest.isEmpty then 0 else gap : Nat) : Int) := by
        omega
      refine ⟨⟨loop.gatedCursor,loop.gatedCursor + (stop - start),start,stop⟩ :: new,
        copied buffer ⟨loop.gatedCursor,loop.gatedCursor + (stop - start),start,stop⟩ ++
          List.replicate (if rest.isEmpty then 0 else gap) 0 ++ tail,?_,?_,nofun,
        ⟨Int.le_refl _,after,?_,clipped,?_,ordered.weaken longer⟩,rfl,_,tail,rfl,?_,laid⟩
      · rw [entries,GateLoop.extend,List.append_assoc]
        rfl
      · rw [samples]
        simp only [GateLoop.extend,copied,List.append_assoc]
      · dsimp only
        omega
      · dsimp only
        omega
      · intro more
        have others : rest ≠ [] := fun empty => more (none_left empty)
        simp [others]

theorem gate_ordered (gate : VadGate) (original : List Sample) (outcome : VadOutcome) :
    Ordered 0 0 original.length (gate.gate original outcome).1.mapping ∧
      (gate.gate original outcome).1.originalTotalSamples = original.length := by
  unfold VadGate.gate
  dsimp only
  split
  · exact ⟨trivial,rfl⟩
  · split
    · exact ⟨trivial,rfl⟩
    · split
      · exact ⟨trivial,rfl⟩
      · exact ⟨trivial,rfl⟩
      · rename_i segments _ _
        obtain ⟨new,_,appended,_,_,ordered,_⟩ := gateLoop_built original original.length gate.pad
          segments ⟨0,0,[],[]⟩
        refine ⟨?_,rfl⟩
        rw [appended]
        exact ordered

theorem gate_returns {gate after : VadGate} {buffer : List Sample}
    (ran : gate.gate buffer outcome = (after,.ok result)) :
    (buffer = [] ∧ after.mapping = [] ∧ result.samples = []) ∨
    ∃ segments, outcome.segments = some segments ∧
      after.mapping = (gateLoop buffer buffer.length gate.pad segments ⟨0,0,[],[]⟩).mapping ∧
      result.samples = (gateLoop buffer buffer.length gate.pad segments ⟨0,0,[],[]⟩).samples := by
  unfold VadGate.gate at ran
  dsimp only at ran
  split at ran
  · rename_i empty
    cases ran
    exact .inl ⟨by simpa using empty,rfl,rfl⟩
  · split at ran
    · cases ran
    · split at ran
      · cases ran
      · rename_i silent
        cases ran
        exact .inr ⟨[],silent,rfl,rfl⟩
      · rename_i segments _ detected
        cases ran
        exact .inr ⟨segments,detected,rfl,rfl⟩

theorem mapAfter_bounds (ordered : Ordered gated previous total mapping) (inside : previous ≤ total)
    (reached : gated ≤ position) :
    previous ≤ mapAfter position total previous mapping ∧
      mapAfter position total previous mapping ≤ total := by
  induction mapping generalizing gated previous with
  | nil => simp only [mapAfter]; omega
  | cons seg rest ih =>
    obtain ⟨gatedFrom,originalFrom,nonempty,within,same,others⟩ := ordered
    simp only [mapAfter]
    split
    · omega
    · split
      · omega
      · have later := ih others within (by omega)
        omega

-- The mapped position splits the copied samples as the gated one does.
theorem mapAfter_separates (ordered : Ordered gated previous total mapping) (inside : previous ≤ total)
    (reached : gated ≤ position) (present : seg ∈ mapping) (from_start : seg.gatedStart ≤ heard)
    (to_end : heard < seg.gatedEnd) :
    position ≤ heard ↔
      mapAfter position total previous mapping ≤ seg.originalStart + (heard - seg.gatedStart) := by
  induction mapping generalizing gated previous with
  | nil => cases present
  | cons first rest ih =>
    have found := Ordered.mem ordered present
    obtain ⟨gatedFrom,originalFrom,nonempty,within,same,others⟩ := ordered
    simp only [mapAfter]
    split
    · rcases List.mem_cons.mp present with rfl | later
      · omega
      · have next := Ordered.mem others later
        omega
    · split
      · rcases List.mem_cons.mp present with rfl | later
        · omega
        · have next := Ordered.mem others later
          omega
      · rcases List.mem_cons.mp present with rfl | later
        · have beyond : seg.originalEnd ≤ mapAfter position total seg.originalEnd rest :=
            (mapAfter_bounds others within (by omega)).1
          omega
        · exact ih others within (by omega) later

theorem mapAfter_mono (ordered : Ordered gated previous total mapping) (inside : previous ≤ total)
    (reached : gated ≤ position) (later : position ≤ heard) :
    mapAfter position total previous mapping ≤ mapAfter heard total previous mapping := by
  induction mapping generalizing gated previous with
  | nil => exact Int.le_refl _
  | cons first rest ih =>
    have whole := mapAfter_bounds ordered inside (Int.le_trans reached later)
    obtain ⟨gatedFrom,originalFrom,nonempty,within,same,others⟩ := ordered
    simp only [mapAfter] at whole ⊢
    by_cases early : position < first.gatedStart
    · rw [if_pos early]
      exact whole.1
    · rw [if_neg early,if_neg (by omega : ¬ heard < first.gatedStart)]
      by_cases here : position < first.gatedEnd
      · rw [if_pos here]
        split
        · omega
        · have beyond := (mapAfter_bounds others within (by omega : first.gatedEnd ≤ heard)).1
          omega
      · rw [if_neg here,if_neg (by omega : ¬ heard < first.gatedEnd)]
        exact ih others within (by omega)

theorem mapGatedToOriginalSamples_eq (mapping : List SegmentMapping) (nonnegative : 0 ≤ position)
    (some_total : 0 ≤ total) :
    mapGatedToOriginalSamples mapping position total = mapAfter position total 0 mapping := by
  have forward : ¬ position < 0 := Int.not_lt.mpr nonnegative
  cases mapping with
  | nil => simp only [mapGatedToOriginalSamples,mapAfter]; omega
  | cons seg rest => simp only [mapGatedToOriginalSamples,mapAfter,if_neg forward]

-- The commit point of a gated pass lies in the snapshot, and of the samples
-- the gate copied exactly those heard before the end time lie before it.
theorem toOriginalSamples_gate (gate : VadGate) (original : List Sample) (outcome : VadOutcome)
    (positive : 0 < t1) :
    let gated := (gate.gate original outcome).1
    0 ≤ gated.toOriginalSamples t1 ∧ gated.toOriginalSamples t1 ≤ original.length ∧
      ∀ seg ∈ gated.mapping, ∀ heard, seg.gatedStart ≤ heard → heard < seg.gatedEnd →
        (heard < t1 * 160 ↔
          seg.originalStart + (heard - seg.gatedStart) < gated.toOriginalSamples t1) := by
  obtain ⟨ordered,total⟩ := gate.gate_ordered original outcome
  have nonnegative : 0 ≤ t1 * 160 := by omega
  have size : (0 : Int) ≤ original.length := Int.natCast_nonneg _
  simp only [toOriginalSamples,total,mapGatedToOriginalSamples_eq _ nonnegative size]
  obtain ⟨lower,upper⟩ := mapAfter_bounds ordered size nonnegative
  refine ⟨lower,upper,?_⟩
  intro seg present heard from_start to_end
  have separates := mapAfter_separates ordered size nonnegative present from_start to_end
  omega

end Mapping
end VadGate
end JotaTranscriber

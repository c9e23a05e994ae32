import JotaTranscriber.EngineBuffer
import Mathlib.Algebra.Order.Floor.Ring
import Mathlib.Data.Rat.Floor
import Mathlib.Order.Interval.Finset.Nat

-- How much audio a pass asks whisper to look at.
namespace JotaTranscriber.DecoderWindow
open StreamingWhisperEngine VadGate ConcurrentAudio

-- params.audio_ctx: 50 tokens a second, in exact arithmetic.
def audioCtx (decodeSize : Nat) : Int := max ⌈(decodeSize : Rat) / 16000 * 50⌉ 64

-- n_audio_ctx of the whisper models.
def maxAudioCtx : Int := 1500

theorem audioCtx_fits (decodeSize : Nat) :
    audioCtx decodeSize ≤ maxAudioCtx ↔ decodeSize ≤ maxBufferSamples := by
  have scaled : (decodeSize : Rat) / 16000 * 50 ≤ (1500 : Int) ↔ (decodeSize : Rat) ≤ (480000 : Nat) := by
    constructor
    · intro small
      push_cast at small ⊢
      linarith
    · intro small
      push_cast at small ⊢
      linarith
  rw [audioCtx,maxAudioCtx,max_le_iff,Int.ceil_le,scaled,Nat.cast_le,maxBufferSamples]
  exact ⟨And.left,fun small => ⟨small,by decide⟩⟩

section Silence
variable {total pad : Int} {before segments : List (Int × Int)} {loop : GateLoop}

-- A detected segment with its padding, within the buffer.
def padStart (total pad : Int) (segment : Int × Int) : Int := max 0 (clampSamples total segment.1 - pad)

def padEnd (total pad : Int) (segment : Int × Int) : Int := segEnd total pad segment.2

def speaks (total pad : Int) (segment : Int × Int) : Bool :=
  padStart total pad segment < padEnd total pad segment

-- Whether a sample is heard: the first segment that ends behind it has begun.
def kept (total pad : Int) (segments : List (Int × Int)) (position : Nat) : Bool :=
  match segments.find? fun segment => speaks total pad segment && position < padEnd total pad segment with
  | some segment => padStart total pad segment ≤ position
  | none => false

def silence (size : Nat) (pad : Int) (segments : List (Int × Int)) : Finset Nat :=
  (Finset.range size).filter fun position => kept size pad segments position = false

-- Segments that end behind all the earlier ones, the last of the list excepted:
-- behind each of them stands a synthetic gap.
def leads (total pad : Int) (before : List (Int × Int)) (segment : Int × Int) : Bool :=
  speaks total pad segment && before.all fun earlier =>
    !speaks total pad earlier || padEnd total pad earlier < padEnd total pad segment

def breaks (total pad : Int) (before : List (Int × Int)) : List (Int × Int) → Nat
  | [] => 0
  | segment :: rest =>
    (if leads total pad before segment && !rest.isEmpty then 1 else 0) +
      breaks total pad (before ++ [segment]) rest

structure Reached (total pad : Int) (before : List (Int × Int)) (position : Int) : Prop where
  nonnegative : 0 ≤ position
  ends : ∀ earlier ∈ before, speaks total pad earlier = true → padEnd total pad earlier ≤ position
  attained : position = 0 ∨
    ∃ earlier ∈ before, speaks total pad earlier = true ∧ padEnd total pad earlier = position

theorem Reached.leads_iff (reached : Reached total pad before position) (segment : Int × Int) :
    leads total pad before segment = true ↔
      max (padStart total pad segment) position < padEnd total pad segment := by
  have start : 0 ≤ padStart total pad segment := Int.le_max_left _ _
  simp only [leads,speaks,Bool.and_eq_true,decide_eq_true_eq,List.all_eq_true,Bool.or_eq_true,
    Bool.not_eq_true',decide_eq_false_iff_not]
  constructor
  · rintro ⟨nonempty,behind⟩
    refine Int.max_lt.mpr ⟨nonempty,?_⟩
    rcases reached.attained with rfl | ⟨earlier,present,spoken,same⟩
    · omega
    · rcases behind earlier present with mute | later
      · exact absurd (of_decide_eq_true spoken) mute
      · omega
  · intro extends_
    obtain ⟨nonempty,later⟩ := Int.max_lt.mp extends_
    refine ⟨nonempty,?_⟩
    intro earlier present
    by_cases spoken : padStart total pad earlier < padEnd total pad earlier
    · have limit := reached.ends earlier present (decide_eq_true spoken)
      exact .inr (by omega)
    · exact .inl spoken

theorem Reached.extend (reached : Reached total pad before position) (segment : Int × Int)
    (further : max (padStart total pad segment) position < padEnd total pad segment) :
    Reached total pad (before ++ [segment]) (padEnd total pad segment) where
  nonnegative := by have := reached.nonnegative; omega
  ends := by
    rw [List.forall_mem_append,List.forall_mem_singleton]
    refine ⟨?_,fun _ => Int.le_refl _⟩
    intro earlier present spoken
    have limit := reached.ends earlier present spoken
    omega
  attained := by
    refine .inr ⟨segment,List.mem_append_right _ (List.mem_singleton_self _),?_,rfl⟩
    exact decide_eq_true (by omega)

theorem Reached.skip (reached : Reached total pad before position) (segment : Int × Int)
    (skipped : ¬ max (padStart total pad segment) position < padEnd total pad segment) :
    Reached total pad (before ++ [segment]) position where
  nonnegative := reached.nonnegative
  ends := by
    rw [List.forall_mem_append,List.forall_mem_singleton]
    refine ⟨reached.ends,?_⟩
    intro spoken
    have nonempty : padStart total pad segment < padEnd total pad segment := of_decide_eq_true spoken
    omega
  attained := by
    rcases reached.attained with zero | ⟨earlier,present,found⟩
    · exact .inl zero
    · exact .inr ⟨earlier,List.mem_append_left _ present,found⟩

def heardFrom (size : Nat) (pad : Int) (segments : List (Int × Int)) (position : Int) : Finset Nat :=
  (Finset.range size).filter fun sample => position ≤ sample ∧ kept size pad segments sample = true

theorem kept_cons (total pad : Int) (segment : Int × Int) (rest : List (Int × Int)) (position : Nat) :
    kept total pad (segment :: rest) position =
      if speaks total pad segment && decide (position < padEnd total pad segment) then
        decide (padStart total pad segment ≤ position)
      else kept total pad rest position := by
  unfold kept
  rw [List.find?_cons]
  cases speaks total pad segment && decide ((position : Int) < padEnd total pad segment) <;> rfl

theorem heardFrom_skip {size : Nat} {segment : Int × Int} {rest : List (Int × Int)} {position : Int}
    (skipped : ¬ max (padStart size pad segment) position < padEnd size pad segment) :
    heardFrom size pad (segment :: rest) position = heardFrom size pad rest position := by
  refine Finset.filter_congr fun sample _ => and_congr_right fun reached => ?_
  have past : (speaks size pad segment && decide ((sample : Int) < padEnd size pad segment)) = false := by
    simp only [speaks,Bool.and_eq_false_iff,decide_eq_false_iff_not]
    omega
  rw [kept_cons,past]
  rfl

theorem heardFrom_extend {size : Nat} {segment : Int × Int} {position : Int} (rest : List (Int × Int))
    (nonnegative : 0 ≤ position)
    (further : max (padStart size pad segment) position < padEnd size pad segment) :
    ((heardFrom size pad (segment :: rest) position).card : Int) =
      padEnd size pad segment - max (padStart size pad segment) position +
        (heardFrom size pad rest (padEnd size pad segment)).card := by
  have inside : padEnd size pad segment ≤ size := Int.min_le_left _ _
  have nonempty : speaks size pad segment = true := decide_eq_true (by omega)
  have split : heardFrom size pad (segment :: rest) position =
      Finset.Ico (max (padStart size pad segment) position).toNat (padEnd size pad segment).toNat ∪
        heardFrom size pad rest (padEnd size pad segment) := by
    ext sample
    simp only [heardFrom,Finset.mem_union,Finset.mem_filter,Finset.mem_range,Finset.mem_Ico,kept_cons,
      nonempty,Bool.true_and]
    by_cases within : (sample : Int) < padEnd size pad segment
    · simp only [within,decide_true,if_true,decide_eq_true_eq]
      omega
    · simp only [within,decide_false,Bool.false_eq_true,if_false]
      constructor
      · rintro ⟨here,_,spoken⟩
        exact .inr ⟨here,by omega,spoken⟩
      · rintro (early | ⟨here,_,spoken⟩)
        · omega
        · exact ⟨here,by omega,spoken⟩
  have apart : Disjoint
      (Finset.Ico (max (padStart size pad segment) position).toNat (padEnd size pad segment).toNat)
      (heardFrom size pad rest (padEnd size pad segment)) := by
    rw [Finset.disjoint_left]
    intro sample early later
    have first := (Finset.mem_Ico.mp early).2
    have second := (Finset.mem_filter.mp later).2.1
    omega
  rw [split,Finset.card_union_of_disjoint apart,Nat.card_Ico]
  omega

theorem extend_length (loop : GateLoop) (buffer : List Sample) (start stop : Int) (silence : Nat)
    (inside : stop ≤ buffer.length) (nonnegative : 0 ≤ start) :
    (loop.extend buffer start stop silence).samples.length =
      loop.samples.length + (stop - start).toNat + silence := by
  simp only [GateLoop.extend,List.length_append,List.length_take,List.length_drop,List.length_replicate]
  omega

theorem gateLoop_length (buffer : List Sample) (segments : List (Int × Int)) (loop : GateLoop)
    (reached : Reached buffer.length pad before loop.prevSegEnd) :
    (gateLoop buffer buffer.length pad segments loop).samples.length = loop.samples.length +
      (heardFrom buffer.length pad segments loop.prevSegEnd).card +
      gap * breaks buffer.length pad before segments := by
  induction segments generalizing loop before with
  | nil =>
    have nothing : heardFrom buffer.length pad [] loop.prevSegEnd = ∅ := by
      rw [heardFrom,Finset.filter_eq_empty_iff]
      rintro sample _ ⟨_,spoken⟩
      cases spoken
    rw [nothing]
    rfl
  | cons segment rest ih =>
    obtain ⟨t0,t1⟩ := segment
    have start : segStart buffer.length pad t0 loop =
        max (padStart buffer.length pad (t0,t1)) loop.prevSegEnd := rfl
    have stop : segEnd buffer.length pad t1 = padEnd buffer.length pad (t0,t1) := rfl
    have leading := reached.leads_iff (t0,t1)
    rw [gateLoop_cons,start,stop]
    by_cases further : max (padStart buffer.length pad (t0,t1)) loop.prevSegEnd <
        padEnd buffer.length pad (t0,t1)
    · have inside : padEnd buffer.length pad (t0,t1) ≤ buffer.length := Int.min_le_left _ _
      have more := heardFrom_extend rest reached.nonnegative further
      have first : 0 ≤ max (padStart buffer.length pad (t0,t1)) loop.prevSegEnd := by
        have := reached.nonnegative
        omega
      have later := ih (loop.extend buffer (max (padStart buffer.length pad (t0,t1)) loop.prevSegEnd)
        (padEnd buffer.length pad (t0,t1)) (if rest.isEmpty then 0 else gap))
        (reached.extend (t0,t1) further)
      rw [extend_length _ _ _ _ _ inside first] at later
      rw [if_neg (Int.not_le.mpr further),later,breaks,leading.mpr further,Nat.mul_add,Bool.true_and]
      dsimp only [GateLoop.extend]
      have gaps : (if rest.isEmpty then 0 else gap) = gap * if !rest.isEmpty then 1 else 0 := by
        cases rest.isEmpty <;> rfl
      rw [gaps]
      omega
    · have mute : leads buffer.length pad before (t0,t1) = false := by
        rw [← Bool.not_eq_true,leading]
        exact further
      rw [if_pos (Int.not_lt.mp further),breaks,mute,heardFrom_skip further,
        ih loop (reached.skip (t0,t1) further)]
      simp

theorem gateLoop_mute (buffer : List Sample) (loop : GateLoop)
    (mute : ∀ segment ∈ segments, speaks buffer.length pad segment = false) :
    gateLoop buffer buffer.length pad segments loop = loop := by
  induction segments with
  | nil => rfl
  | cons segment rest ih =>
    obtain ⟨t0,t1⟩ := segment
    obtain ⟨first,others⟩ := List.forall_mem_cons.mp mute
    have short : ¬ padStart buffer.length pad (t0,t1) < padEnd buffer.length pad (t0,t1) :=
      of_decide_eq_false first
    have skipped : segEnd buffer.length pad t1 ≤ segStart buffer.length pad t0 loop :=
      Int.le_trans (Int.not_lt.mp short) (Int.le_max_left _ _)
    rw [gateLoop_cons,if_pos skipped]
    exact ih others

theorem kept_some {size : Nat} (spoken : ∃ segment ∈ segments, speaks size pad segment = true) :
    ∃ position < size, kept size pad segments position = true := by
  induction segments with
  | nil =>
    obtain ⟨_,absent,_⟩ := spoken
    cases absent
  | cons first rest ih =>
    cases speech : speaks size pad first with
    | true =>
      have nonempty : padStart size pad first < padEnd size pad first := of_decide_eq_true speech
      have start : 0 ≤ padStart size pad first := Int.le_max_left _ _
      have inside : padEnd size pad first ≤ size := Int.min_le_left _ _
      have here : ((padStart size pad first).toNat : Int) = padStart size pad first := by omega
      refine ⟨(padStart size pad first).toNat,by omega,?_⟩
      rw [kept_cons,speech,here,decide_eq_true nonempty]
      simp
    | false =>
      obtain ⟨segment,present,found⟩ := spoken
      have later : segment ∈ rest := by
        rcases List.mem_cons.mp present with rfl | later
        · rw [speech] at found; cases found
        · exact later
      obtain ⟨position,inside,heard⟩ := ih ⟨segment,later,found⟩
      refine ⟨position,inside,?_⟩
      rw [kept_cons,speech]
      exact heard

theorem gateLoop_heard (buffer : List Sample) (pad : Int) (segments : List (Int × Int)) :
    (gateLoop buffer buffer.length pad segments ⟨0,0,[],[]⟩).samples ≠ [] ↔
      ∃ segment ∈ segments, speaks buffer.length pad segment = true := by
  constructor
  · intro heard
    by_contra none_speaks
    have mute : ∀ segment ∈ segments, speaks buffer.length pad segment = false := by
      intro segment present
      rw [← Bool.not_eq_true]
      exact fun speech => none_speaks ⟨segment,present,speech⟩
    rw [gateLoop_mute buffer _ mute] at heard
    exact heard rfl
  · intro spoken
    obtain ⟨position,inside,heard⟩ := kept_some spoken
    have start : Reached buffer.length pad [] 0 := ⟨Int.le_refl 0,List.forall_mem_nil _,.inl rfl⟩
    have length := gateLoop_length buffer segments ⟨0,0,[],[]⟩ start
    have some_heard : 0 < (heardFrom buffer.length pad segments 0).card := by
      refine Finset.card_pos.mpr ⟨position,Finset.mem_filter.mpr ⟨Finset.mem_range.mpr inside,?_,heard⟩⟩
      exact Int.natCast_nonneg _
    refine List.ne_nil_of_length_pos ?_
    rw [length]
    dsimp only
    omega

theorem gateLoop_empty (pad : Int) (segments : List (Int × Int)) :
    (gateLoop [] 0 pad segments ⟨0,0,[],[]⟩).samples = [] := by
  have mute : ∀ segment ∈ segments, speaks ([] : List Sample).length pad segment = false := by
    intro segment _
    have start : 0 ≤ padStart 0 pad segment := Int.le_max_left _ _
    have stop : padEnd 0 pad segment ≤ 0 := Int.min_le_left _ _
    exact decide_eq_false (Int.not_lt.mpr (Int.le_trans stop start))
  exact congrArg GateLoop.samples (gateLoop_mute [] ⟨0,0,[],[]⟩ mute)

theorem heardFrom_silence (size : Nat) (pad : Int) (segments : List (Int × Int)) :
    (heardFrom size pad segments 0).card + (silence size pad segments).card = size := by
  have whole := Finset.card_filter_add_card_filter_not (s := Finset.range size)
    fun position => kept size pad segments position = true
  simpa [heardFrom,silence] using whole

theorem gated_length {gate after : VadGate} {buffer : List Sample} {outcome : VadOutcome} {result : GatedResult}
    (ran : gate.gate buffer outcome = (after,.ok result)) (detected : outcome.segments = some segments) :
    result.samples.length + (silence buffer.length gate.pad segments).card =
      buffer.length + gap * breaks buffer.length gate.pad [] segments := by
  have looped : result.samples = (gateLoop buffer buffer.length gate.pad segments ⟨0,0,[],[]⟩).samples := by
    rcases gate_returns ran with ⟨rfl,_,nothing⟩ | ⟨found,same,_,samples⟩
    · exact nothing.trans (gateLoop_empty gate.pad segments).symm
    · cases same.symm.trans detected
      exact samples
  have start : Reached buffer.length gate.pad [] 0 := ⟨Int.le_refl 0,List.forall_mem_nil _,.inl rfl⟩
  have length := gateLoop_length buffer segments ⟨0,0,[],[]⟩ start
  have whole := heardFrom_silence buffer.length gate.pad segments
  rw [looped,length]
  simp only [List.length_nil]
  omega

end Silence

section Window
variable {engine : StreamingWhisperEngine} {outcome : Outcome} {vad : VadOutcome} {gate after : VadGate}
  {buffer : List Sample} {result : GatedResult} {segments : List (Int × Int)} {configured : Option VadGate}
  {language : Text}

-- What a pass hands to whisper is no longer than its snapshot, and whisper
-- accepts the window that is asked for.
def WindowFits (engine : StreamingWhisperEngine) (outcome : Outcome) : Prop :=
  ∀ gate decodeSize, decoded engine outcome = some (gate,decodeSize) →
    decodeSize ≤ engine.getBufferSize ∧ audioCtx decodeSize ≤ maxAudioCtx

-- The gaps that are put in are no longer than the silence that is left out.
def SilencePays (engine : StreamingWhisperEngine) (outcome : VadOutcome) : Prop :=
  ∀ gate segments, engine.vadGate = some gate → gate.loaded = true ∨ outcome.loads = true →
    outcome.segments = some segments →
      gap * breaks engine.getBufferSize gate.pad [] segments ≤
        (silence engine.getBufferSize gate.pad segments).card

theorem gate_ready (gate : VadGate) (buffer : List Sample) (ready : gate.loaded = true ∨ vad.loads = true)
    (detected : vad.segments = some segments) :
    ∃ after result, gate.gate buffer vad = (after,.ok result) ∧
      result.hadSpeech = !result.samples.isEmpty := by
  have up : (!gate.loaded && !vad.loads) = false := by
    rcases ready with one | one <;> simp [one]
  unfold VadGate.gate
  simp only [up,detected]
  cases buffer.isEmpty with
  | true => exact ⟨_,_,rfl,rfl⟩
  | false =>
    cases segments with
    | nil => exact ⟨_,_,rfl,rfl⟩
    | cons => exact ⟨_,_,rfl,rfl⟩

theorem decoded_gated {used : Option VadGate} (gated : engine.vadGate = some gate)
    (found : decoded engine outcome = some (used,size)) :
    ∃ after result, gate.gate engine.audioBuffer outcome.vad = (after,.ok result) ∧
      size = result.samples.length := by
  unfold decoded at found
  simp only [gated] at found
  rcases ran : gate.gate engine.audioBuffer outcome.vad with ⟨after,error | result⟩
  · simp [ran] at found
  · rw [ran] at found
    dsimp only at found
    split at found
    · cases found
      exact ⟨after,result,rfl,rfl⟩
    · cases found

theorem gate_detects (ran : gate.gate buffer vad = (after,.ok result)) (nonempty : buffer ≠ []) :
    (gate.loaded = true ∨ vad.loads = true) ∧ ∃ segments, vad.segments = some segments := by
  rcases gate.gate_cases buffer vad nonempty with
    ⟨_,_,failed⟩ | ⟨ready,⟨_,failed⟩ | ⟨segments,_,detected,_⟩⟩
  · rw [ran] at failed; cases failed
  · rw [ran] at failed; cases failed
  · exact ⟨ready,segments,detected⟩

theorem window_fits_iff {trace : List (StreamingWhisperEngine × EngineBuffer.Action)}
    (path : EngineBuffer.Runs (fresh configured language) trace engine) (outcome : Outcome) :
    WindowFits engine outcome ↔ SilencePays engine outcome.vad := by
  have capped := (EngineBuffer.runs_kept path).bounded
  have accepted {size : Nat} (shorter : size ≤ engine.getBufferSize) : audioCtx size ≤ maxAudioCtx :=
    (audioCtx_fits size).mpr (Nat.le_trans shorter capped)
  constructor
  · intro fits gate segments gated ready detected
    obtain ⟨after,result,ran,speech⟩ := gate_ready gate engine.audioBuffer ready detected
    have length := gated_length ran detected
    have shorter : result.samples.length ≤ engine.audioBuffer.length := by
      cases heard : result.samples.isEmpty with
      | true =>
        rw [List.isEmpty_iff.mp heard]
        exact Nat.zero_le _
      | false =>
        refine (fits (some after) result.samples.length ?_).1
        simp [decoded,gated,ran,speech,heard]
    rw [getBufferSize]
    omega
  · intro pays gate decodeSize found
    have shorter : decodeSize ≤ engine.getBufferSize := by
      cases gated : engine.vadGate with
      | none =>
        simp only [decoded,gated,Option.some.injEq,Prod.mk.injEq] at found
        exact Nat.le_of_eq found.2.symm
      | some gate =>
        obtain ⟨after,result,ran,rfl⟩ := decoded_gated gated found
        by_cases empty : engine.audioBuffer = []
        · rcases gate_returns ran with ⟨_,_,nothing⟩ | ⟨segments,_,_,samples⟩
          · rw [nothing]
            exact Nat.zero_le _
          · rw [samples,empty]
            simp only [List.length_nil,Nat.cast_zero,gateLoop_empty]
            exact Nat.zero_le _
        · obtain ⟨ready,segments,detected⟩ := gate_detects ran empty
          have length := gated_length ran detected
          have enough := pays gate segments gated ready detected
          rw [getBufferSize] at enough ⊢
          omega
    exact ⟨shorter,accepted shorter⟩

def samples (size : Nat) : List Sample := List.replicate size 0

def twoFrames : List EngineBuffer.Action :=
  [.processAudioChunk (samples 262144),.processAudioChunk (samples 217856)]

theorem chunk_run (engine : StreamingWhisperEngine) (room : engine.getBufferSize < highWaterMark) (size : Nat) :
    ∃ next, EngineBuffer.Step engine (.processAudioChunk (samples size)) next ∧
      next.getBufferSize = min maxBufferSamples (engine.getBufferSize + size) ∧
      next.vadGate = engine.vadGate := by
  refine ⟨_,rfl,?_,processAudioChunk_vadGate engine _⟩
  rw [EngineBuffer.advance,processAudioChunk_size room,samples,List.length_replicate]

theorem twoFrames_run (configured : Option VadGate) : ∃ trace engine, trace.map Prod.snd = twoFrames ∧
    EngineBuffer.Runs (fresh configured (bytes "es")) trace engine ∧
    engine.getBufferSize = 480000 ∧ engine.vadGate = configured := by
  have empty : (fresh configured (bytes "es")).getBufferSize = 0 := rfl
  obtain ⟨half,first,size,gated⟩ := chunk_run (fresh configured (bytes "es")) (by rw [empty]; decide) 262144
  have some_room : half.getBufferSize = 262144 := by
    rw [size,empty]
    decide
  obtain ⟨full,second,total,still⟩ := chunk_run half (by rw [some_room]; decide) 217856
  refine ⟨_,full,?_,.step (.single first) second,?_,still.trans gated⟩
  · rfl
  · rw [total,some_room]
    decide

-- Two detected segments with a long silence between and behind them, and two
-- whose padding meets.
def longPause : VadOutcome := ⟨true,some [(0,100000),(200000,300000)]⟩

def shortPause : VadOutcome := ⟨true,some [(0,232000),(240000,480000)]⟩

theorem longPause_silence : Finset.Ico 306400 480000 ⊆ silence 480000 6400 [(0,100000),(200000,300000)] := by
  have first : padEnd 480000 6400 (0,100000) = 106400 := by decide
  have second : padEnd 480000 6400 (200000,300000) = 306400 := by decide
  intro position inside
  obtain ⟨low,high⟩ := Finset.mem_Ico.mp inside
  refine Finset.mem_filter.mpr ⟨Finset.mem_range.mpr high,?_⟩
  have past : ¬ (position : Int) < 106400 := by omega
  have behind : ¬ (position : Int) < 306400 := by omega
  change kept 480000 6400 [(0,100000),(200000,300000)] position = false
  rw [kept_cons,kept_cons,first,second,decide_eq_false past,decide_eq_false behind]
  simp [kept]

theorem shortPause_silence : silence 480000 6400 [(0,232000),(240000,480000)] = ∅ := by
  have first : speaks 480000 6400 (0,232000) = true ∧ padStart 480000 6400 (0,232000) = 0 ∧
      padEnd 480000 6400 (0,232000) = 238400 := by decide
  have second : speaks 480000 6400 (240000,480000) = true ∧
      padStart 480000 6400 (240000,480000) = 233600 ∧ padEnd 480000 6400 (240000,480000) = 480000 := by decide
  rw [silence,Finset.filter_eq_empty_iff]
  intro position inside
  have bound := Finset.mem_range.mp inside
  change ¬ kept 480000 6400 [(0,232000),(240000,480000)] position = false
  rw [kept_cons,kept_cons,first.1,first.2.1,first.2.2,second.1,second.2.1,second.2.2]
  by_cases early : (position : Int) < 238400
  · simp [early]
  · have late : (position : Int) < 480000 ∧ (233600 : Int) ≤ position := by omega
    simp [early,late]

theorem window_fits_iff_long_pause : ∃ trace engine, trace.map Prod.snd = twoFrames ∧
    EngineBuffer.Runs (fresh (some (VadGate.create 400)) (bytes "es")) trace engine ∧
    engine.getBufferSize = 480000 ∧
    WindowFits engine ⟨longPause,.decoded [] none⟩ := by
  obtain ⟨trace,engine,same,path,size,gated⟩ := twoFrames_run (some (VadGate.create 400))
  refine ⟨trace,engine,same,path,size,(window_fits_iff path _).mpr ?_⟩
  intro gate segments found _ detected
  cases gated.symm.trans found
  cases detected
  have padding : (VadGate.create 400).pad = 6400 := by decide
  have gaps : gap * breaks 480000 6400 [] [(0,100000),(200000,300000)] = 1600 := by decide
  have enough := Finset.card_le_card longPause_silence
  rw [Nat.card_Ico] at enough
  rw [size,padding]
  change gap * breaks 480000 6400 [] [(0,100000),(200000,300000)] ≤ _
  omega

-- Speech from end to end of a full buffer: the gap makes the window 30.1 s long.
theorem gap_exceeds_window : ∃ trace engine, trace.map Prod.snd = twoFrames ∧
    EngineBuffer.Runs (fresh (some (VadGate.create 400)) (bytes "es")) trace engine ∧
    engine.getBufferSize = 480000 ∧
    (∃ gate, decoded engine ⟨shortPause,.decoded [] none⟩ = some (gate,481600)) ∧
    audioCtx 481600 = 1505 ∧ ¬ WindowFits engine ⟨shortPause,.decoded [] none⟩ := by
  obtain ⟨trace,engine,same,path,size,gated⟩ := twoFrames_run (some (VadGate.create 400))
  obtain ⟨after,result,ran,speech⟩ : ∃ after result,
      (VadGate.create 400).gate engine.audioBuffer shortPause = (after,.ok result) ∧
      result.hadSpeech = !result.samples.isEmpty := gate_ready _ _ (.inr rfl) rfl
  have padding : (VadGate.create 400).pad = 6400 := by decide
  have gaps : gap * breaks 480000 6400 [] [(0,232000),(240000,480000)] = 1600 := by decide
  have length : result.samples.length = 481600 := by
    have lengths := gated_length ran rfl
    rw [show engine.audioBuffer.length = 480000 from size,padding] at lengths
    change _ + (silence 480000 6400 _).card = 480000 + gap * breaks 480000 6400 [] _ at lengths
    rw [shortPause_silence,gaps] at lengths
    exact lengths
  have heard : result.samples.isEmpty = false := by
    cases found : result.samples with
    | nil => rw [found] at length; cases length
    | cons => rfl
  have handed : decoded engine ⟨shortPause,.decoded [] none⟩ = some (some after,481600) := by
    simp [decoded,gated,ran,speech,heard,length]
  refine ⟨trace,engine,same,path,size,⟨_,handed⟩,by decide +kernel,?_⟩
  intro fits
  have shorter := (fits _ _ handed).1
  rw [size] at shorter
  omega

end Window
end JotaTranscriber.DecoderWindow

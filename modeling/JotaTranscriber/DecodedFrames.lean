import JotaTranscriber.AudioDecoder
import Mathlib.Algebra.Field.Rat
import Mathlib.Algebra.GroupWithZero.Units.Basic

namespace JotaTranscriber.DecodeSession
variable {Packet Raw : Type} {session : DecodeSession Packet Raw} {loop : Loop session}
  {frames more : List (Frame Raw)} {state next : session.codec.State} {packet : Packet}

-- What the loop has handed over so far stays the beginning of all that will
-- come out, whatever is fed later.
structure Resampled (loop : Loop session) (frames : List (Frame Raw)) : Prop where
  fed : loop.swr.fed = samplesOf frames
  given : loop.swr.given = loop.s16.length
  settled : ∀ more, loop.s16 <+: session.resampler.resample (samplesOf frames ++ more)

@[simp] theorem samplesOf_append (frames more : List (Frame Raw)) :
    samplesOf (frames ++ more) = samplesOf frames ++ samplesOf more := List.flatMap_append

@[simp] theorem samplesOf_singleton (frame : Frame Raw) : samplesOf [frame] = frame.samples := by
  simp [samplesOf]

theorem rescaleRnd_eq_zero {n rate : Nat} (positive : 0 < rate) (none : rescaleRnd n rate = 0) : n = 0 := by
  by_contra some
  have enough : 1 * rate ≤ n * 16000 + rate - 1 := by omega
  have least := (Nat.le_div_iff_mul_le positive).mpr enough
  rw [rescaleRnd] at none
  omega

theorem take_extends {front whole : List Int16} (starts : front <+: whole) (room : Nat) :
    front ++ (whole.drop front.length).take room <+: whole := by
  obtain ⟨rest,rfl⟩ := starts
  rw [List.drop_left,List.prefix_append_right_inj]
  exact List.take_prefix room rest

theorem drainSwr_idle {frame : Option (Frame Raw)} (idle : outN loop frame = 0) :
    drainSwr loop frame = loop := if_pos idle

theorem drainSwr_converts {frame : Option (Frame Raw)} (room : outN loop frame ≠ 0) :
    drainSwr loop frame =
      { loop with
        swr := (session.resampler.convert loop.swr frame (outN loop frame)).2
        s16 := loop.s16 ++ (session.resampler.convert loop.swr frame (outN loop frame)).1 } := if_neg room

theorem drainSwr_context (loop : Loop session) (frame : Option (Frame Raw)) :
    (drainSwr loop frame).context = loop.context := by
  by_cases idle : outN loop frame = 0
  · rw [drainSwr_idle idle]
  · rw [drainSwr_converts idle]

theorem drainSwr_frame (resampled : Resampled loop frames) (frame : Frame Raw) :
    Resampled (drainSwr loop (some frame)) (frames ++ [frame]) := by
  by_cases idle : outN loop (some frame) = 0
  · have empty : frame.samples = [] := by
      have silent := rescaleRnd_eq_zero session.resampler.positive idle
      exact List.eq_nil_of_length_eq_zero (Nat.eq_zero_of_add_eq_zero_left silent)
    rw [drainSwr_idle idle]
    refine ⟨?_,resampled.given,?_⟩
    · simpa [empty] using resampled.fed
    · simpa [empty] using resampled.settled
  · rw [drainSwr_converts idle]
    refine ⟨?_,?_,?_⟩
    · simp [Resampler.convert,resampled.fed]
    · simp [Resampler.convert,resampled.given]
    · intro more
      have before := resampled.settled (frame.samples ++ more)
      have own := resampled.settled frame.samples
      have fixed := session.resampler.settled (samplesOf frames ++ frame.samples) more
      simp only [Resampler.convert,resampled.fed,resampled.given,samplesOf_append,samplesOf_singleton]
      rw [List.append_assoc]
      rcases Nat.lt_or_ge (session.resampler.ready (samplesOf frames ++ frame.samples)) loop.s16.length with
        early | late
      · rw [List.drop_eq_nil_of_le (Nat.le_of_lt (Nat.lt_of_le_of_lt (List.length_take_le _ _) early)),
          List.take_nil,List.append_nil]
        exact before
      · rw [← List.append_assoc (samplesOf frames)]
        exact (take_extends (List.prefix_take_iff.mpr ⟨own,late⟩) _).trans fixed

theorem drainSwr_flush (resampled : Resampled loop frames) :
    (drainSwr loop none).s16 = session.resampler.resample (samplesOf frames) := by
  have starts := resampled.settled []
  rw [List.append_nil] at starts
  have room : (session.resampler.resample (samplesOf frames)).length - loop.s16.length ≤ outN loop none := by
    have complete := session.resampler.complete loop.swr.fed loop.swr.given
    rw [← resampled.fed,← resampled.given]
    exact complete
  have whole : loop.s16 ++ (session.resampler.resample (samplesOf frames)).drop loop.s16.length =
      session.resampler.resample (samplesOf frames) := by
    obtain ⟨rest,split⟩ := starts
    rw [← split,List.drop_left]
  by_cases idle : outN loop none = 0
  · have nothing : (session.resampler.resample (samplesOf frames)).drop loop.s16.length = [] :=
      List.drop_eq_nil_of_le (by omega)
    rw [nothing,List.append_nil] at whole
    rw [drainSwr_idle idle]
    exact whole
  · rw [drainSwr_converts idle]
    simp only [Resampler.convert,resampled.fed,resampled.given]
    rw [List.take_of_length_le (by rw [List.length_drop]; exact room),whole]

structure Received (loop : Loop session) (frames : List (Frame Raw)) (state : session.codec.State) : Prop where
  state : loop.context.state = state
  drained : loop.context.waiting = []
  resampled : Resampled loop frames

theorem receiveFrames_all (bound : Nat) (resampled : Resampled loop frames)
    (enough : loop.context.waiting.length ≤ bound) :
    Received (receiveFrames bound loop) (frames ++ loop.context.waiting) loop.context.state := by
  induction bound generalizing loop frames with
  | zero =>
    have none : loop.context.waiting = [] := List.eq_nil_of_length_eq_zero (Nat.le_zero.mp enough)
    rw [none,List.append_nil]
    exact ⟨rfl,none,resampled⟩
  | succ bound ih =>
    cases waiting : loop.context.waiting with
    | nil =>
      have unchanged : receiveFrames (bound+1) loop = loop := by
        simp [receiveFrames,CodecContext.receiveFrame,waiting]
      rw [unchanged,List.append_nil]
      exact ⟨rfl,waiting,resampled⟩
    | cons frame rest =>
      have received : loop.context.receiveFrame = some (frame,{ loop.context with waiting := rest }) := by
        simp [CodecContext.receiveFrame,waiting]
      have fed : Resampled { loop with context := { loop.context with waiting := rest } } frames :=
        ⟨resampled.fed,resampled.given,resampled.settled⟩
      have shorter : rest.length ≤ bound := by simpa [waiting] using enough
      have later := ih (drainSwr_frame fed frame) (by rw [drainSwr_context]; exact shorter)
      rw [drainSwr_context,List.append_assoc] at later
      rw [receiveFrames,received]
      exact later

theorem receiveAll_received (resampled : Resampled loop frames) :
    Received (receiveAll loop) (frames ++ loop.context.waiting) loop.context.state :=
  receiveFrames_all _ resampled (Nat.le_refl _)

theorem sendPacket_sent {context : CodecContext session.codec} (drained : context.waiting = [])
    (willing : session.codec.refuse context.state [] packet = none)
    (accepted : session.codec.accept context.state packet = some (more,next)) :
    context.sendPacket packet = (.sent,⟨next,more⟩) := by
  simp [CodecContext.sendPacket,drained,willing,accepted]

theorem sendPacket_again {context : CodecContext session.codec} (drained : context.waiting = [])
    (refused : session.codec.refuse context.state [] packet = some (more,next)) :
    context.sendPacket packet = (.again,⟨next,more⟩) := by
  simp [CodecContext.sendPacket,drained,refused]

-- A refusal costs nothing: what it let out is received, and the packet is sent
-- once more.
theorem decodePacket_received (received : Received loop frames state)
    (taken : session.codec.take state packet = some (more,next)) :
    Received (decodePacket loop packet) (frames ++ more) next := by
  obtain ⟨rfl,drained,resampled⟩ := received
  have handed (context : CodecContext session.codec) : Resampled { loop with context } frames :=
    ⟨resampled.fed,resampled.given,resampled.settled⟩
  unfold decodePacket
  rw [Codec.take] at taken
  split at taken
  · rename_i willing
    rw [sendPacket_sent drained willing taken]
    exact receiveAll_received (handed ⟨next,more⟩)
  · rename_i first middle refused
    obtain ⟨⟨second,last⟩,accepted,same⟩ := Option.map_eq_some_iff.mp taken
    cases same
    have settled := receiveAll_received (handed ⟨middle,first⟩)
    have willing := session.codec.resent refused
    have sent := sendPacket_sent settled.drained (by rw [settled.state]; exact willing)
      (by rw [settled.state]; exact accepted)
    rw [sendPacket_again drained refused]
    dsimp only
    rw [if_pos rfl,sent]
    have resent : Resampled { receiveAll { loop with context := ⟨middle,first⟩ } with
        context := ⟨last,second⟩ } (frames ++ first) :=
      ⟨settled.resampled.fed,settled.resampled.given,settled.resampled.settled⟩
    have done := receiveAll_received resent
    rwa [List.append_assoc] at done

theorem packets_received {packets : List (Nat × Packet)} (received : Received loop frames state)
    (ran : session.codec.transducer.run state
      ((packets.filter (·.1 = session.audioIdx)).map Prod.snd) = some (more,next)) :
    Received (packets.foldl (fun loop packet =>
      if packet.1 = session.audioIdx then decodePacket loop packet.2 else loop) loop) (frames ++ more) next := by
  induction packets generalizing loop frames state more with
  | nil =>
    cases ran
    rw [List.append_nil]
    exact received
  | cons packet rest ih =>
    rw [List.foldl_cons]
    by_cases audio : packet.1 = session.audioIdx
    · rw [if_pos audio]
      rw [List.filter_cons,if_pos (by simpa using audio),List.map_cons] at ran
      obtain ⟨first,middle,later,taken,others,rfl⟩ := Transducer.run_cons_iff.mp ran
      rw [← List.append_assoc]
      exact ih (decodePacket_received received taken) others
    · rw [if_neg audio]
      rw [List.filter_cons,if_neg (by simpa using audio)] at ran
      exact ih received ran

theorem toFloat_injective {left right : List Int16} (same : toFloat left = toFloat right) : left = right := by
  refine List.map_injective_iff.mpr ?_ same
  intro one other equal
  have numerators : (one.toInt : Sample) = other.toInt :=
    (div_left_inj' (by decide : (32768 : Sample) ≠ 0)).mp equal
  exact Int16.toInt_inj.mp (Rat.intCast_inj.mp numerators)

-- The audio stream's packets are all taken; these frames come out on the way.
def Accepted (session : DecodeSession Packet Raw) (frames : List (Frame Raw)) (state : session.codec.State) : Prop :=
  session.codec.transducer.run session.codec.opened session.audioPackets = some (frames,state)

-- The frames that the codec gives while it is sent the packets, and not those
-- that it keeps for the null packet.
theorem pcm_eq (accepted : session.Accepted frames state) : session.pcm =
    if session.resampler.resample (samplesOf frames) = [] then
      .error (bytes "AudioDecoder: decoded audio is empty")
    else .ok (toFloat (session.resampler.resample (samplesOf frames))) := by
  have opened : Received session.start [] session.codec.opened :=
    ⟨rfl,rfl,rfl,rfl,fun _ => List.nil_prefix⟩
  have received := packets_received opened accepted
  have flushed := drainSwr_flush received.resampled
  rw [List.nil_append] at flushed
  have whole : (drainSwr session.readFrames none).s16 = session.resampler.resample (samplesOf frames) := flushed
  simp only [pcm,whole,List.isEmpty_iff]

-- decode() returns the samples of every frame that the codec makes of the
-- packets, those of its flush among them.
def Complete (libav : Libav Packet Raw) (data : List UInt8) (session : DecodeSession Packet Raw) : Prop :=
  ∃ frames, session.codec.transducer.output session.audioPackets = some frames ∧
    AudioDecoder.decode libav data = .ok (toFloat (session.resampler.resample (samplesOf frames)))

-- The frames held back for the null packet add no sample to those before them.
def NothingHeld (session : DecodeSession Packet Raw) (frames : List (Frame Raw)) (state : session.codec.State) :
    Prop :=
  session.resampler.resample (samplesOf frames ++ samplesOf (session.codec.flush state)) =
    session.resampler.resample (samplesOf frames)

theorem decode_prepared {libav : Libav Packet Raw} {data : List UInt8}
    (prepared : AudioDecoder.prepare libav data = .ok session) :
    AudioDecoder.decode libav data = session.pcm := by
  rw [AudioDecoder.decode,prepared]

theorem decode_complete_iff {libav : Libav Packet Raw} {data : List UInt8}
    (prepared : AudioDecoder.prepare libav data = .ok session) (accepted : session.Accepted frames state) :
    Complete libav data session ↔
      session.NothingHeld frames state ∧ session.resampler.resample (samplesOf frames) ≠ [] := by
  have produced : session.codec.transducer.output session.audioPackets =
      some (frames ++ session.codec.flush state) := by
    rw [Transducer.output]
    exact congrArg (Option.map _) accepted
  have decoded := decode_prepared prepared
  constructor
  · rintro ⟨all,given,returned⟩
    cases produced.symm.trans given
    rw [decoded,pcm_eq accepted] at returned
    split at returned
    · cases returned
    · rename_i some
      have same := toFloat_injective (Except.ok.inj returned)
      rw [samplesOf_append] at same
      exact ⟨same.symm,some⟩
  · rintro ⟨nothing,some⟩
    refine ⟨_,produced,?_⟩
    rw [decoded,pcm_eq accepted,if_neg some,samplesOf_append,nothing]

theorem le_rescaleRnd (n : Nat) : n ≤ rescaleRnd n 16000 := by
  rw [rescaleRnd,Nat.le_div_iff_mul_le (by decide)]
  omega

-- Samples that are 16 kHz mono s16 already.
def passing : Resampler Int16 where
  rate := 16000
  positive := by decide
  resample := id
  ready := List.length
  delay fed given := fed.length - given
  settled fed more := by simp
  complete fed given := le_rescaleRnd (fed.length - given)

-- A packet is a frame, at once.
def pcmCodec : Codec (List Int16) Int16 where
  State := Unit
  opened := ()
  refuse _ _ _ := none
  accept _ packet := some ([⟨packet⟩],())
  flush _ := []
  resent := fun refused => by cases refused

-- Every frame comes out with the packet behind it, the last on the null packet.
def delayedCodec : Codec (List Int16) Int16 where
  State := Option (List Int16)
  opened := none
  refuse _ _ _ := none
  accept held packet := some (held.toList.map Frame.mk,some packet)
  flush held := held.toList.map Frame.mk
  resent := fun refused => by cases refused

def le16 (n : Nat) : List UInt8 := [n,n / 2^8].map UInt8.ofNat

def le32 (n : Nat) : List UInt8 := [n,n / 2^8,n / 2^16,n / 2^24].map UInt8.ofNat

def chunk (id : String) (data : List UInt8) : List UInt8 := bytes id ++ le32 data.length ++ data

def stream (kind handler : String) (header : List Nat) (format : List UInt8) : List UInt8 :=
  chunk "LIST" (bytes "strl" ++ chunk "strh" (bytes kind ++ bytes handler ++ header.flatMap le32) ++
    chunk "strf" format)

-- An AVI file of H.264 video and 16 kHz mono s16: one packet of the one between
-- two of the other.
def recordingBytes : List UInt8 :=
  let video := [40,16,16].flatMap le32 ++ [1,24].flatMap le16 ++ bytes "H264" ++ [2,0,0,0,0].flatMap le32
  let audio := [1,1].flatMap le16 ++ [16000,32000].flatMap le32 ++ [2,16].flatMap le16
  chunk "RIFF" (bytes "AVI " ++
    chunk "LIST" (bytes "hdrl" ++
      chunk "avih" ([40000,32000,0,256,1,0,2,0,16,16,0,0,0,0].flatMap le32) ++
      stream "vids" "H264" [0,0,0,1,25,0,1,2,0,0,0,0] video ++
      stream "auds" "\x00\x00\x00\x00" [0,0,0,1,16000,0,3,4,0,2,0,0] audio) ++
    chunk "LIST" (bytes "movi" ++ chunk "01wb" [100,0,56,255] ++ chunk "00dc" [7,0] ++ chunk "01wb" [44,1]))

-- What libavformat makes of it; no other file is opened.
def recording (codec : Codec (List Int16) Int16) : Libav (List Int16) Int16 where
  malloc := true
  allocAvio := true
  openInput file :=
    if file = recordingBytes then
      some ⟨true,[⟨false,27⟩,⟨true,65536⟩],[(1,[100,-200]),(0,[7]),(1,[300])]⟩
    else none
  findDecoder _ := some codec
  allocCodec := true
  setParameters := true
  openCodec := true
  allocSwr := true
  initSwr := true
  resampler _ := passing

def recorded (codec : Codec (List Int16) Int16) : DecodeSession (List Int16) Int16 :=
  ⟨codec,passing,1,[(1,[100,-200]),(0,[7]),(1,[300])]⟩

theorem recording_prepared (codec : Codec (List Int16) Int16) :
    AudioDecoder.prepare (recording codec) recordingBytes = .ok (recorded codec) := by
  have present : recordingBytes.isEmpty = false := rfl
  have opened : (recording codec).openInput recordingBytes =
      some ⟨true,[⟨false,27⟩,⟨true,65536⟩],[(1,[100,-200]),(0,[7]),(1,[300])]⟩ := by
    simp only [recording,if_true]
  rw [AudioDecoder.prepare,present,opened]
  rfl

theorem decode_complete_iff_pcm : Complete (recording pcmCodec) recordingBytes (recorded pcmCodec) := by
  have accepted : (recorded pcmCodec).Accepted [⟨[100,-200]⟩,⟨[300]⟩] () := rfl
  exact (decode_complete_iff (recording_prepared pcmCodec) accepted).mpr ⟨rfl,by decide⟩

theorem delayed_frame_lost :
    (recorded delayedCodec).codec.transducer.output (recorded delayedCodec).audioPackets =
      some [⟨[100,-200]⟩,⟨[300]⟩] ∧
    AudioDecoder.decode (recording delayedCodec) recordingBytes = .ok (toFloat [100,-200]) ∧
    ¬ Complete (recording delayedCodec) recordingBytes (recorded delayedCodec) := by
  have produced : (recorded delayedCodec).codec.transducer.output (recorded delayedCodec).audioPackets =
      some [⟨[100,-200]⟩,⟨[300]⟩] := rfl
  have accepted : (recorded delayedCodec).Accepted [⟨[100,-200]⟩] (some [300]) := rfl
  have returned : AudioDecoder.decode (recording delayedCodec) recordingBytes =
      .ok (toFloat [100,-200]) := by
    rw [decode_prepared (recording_prepared delayedCodec),pcm_eq accepted]
    exact if_neg (by decide)
  refine ⟨produced,returned,?_⟩
  rintro ⟨frames,given,whole⟩
  cases produced.symm.trans given
  have same := toFloat_injective (Except.ok.inj (returned.symm.trans whole))
  exact absurd same (by decide)

end JotaTranscriber.DecodeSession

import JotaTranscriber.AudioPreprocessor
import JotaTranscriber.Basic
import JotaTranscriber.Transducer

namespace JotaTranscriber

-- An AVFrame: one raw value for every sample, all channels in it.
structure Frame (Raw : Type) where
  samples : List Raw

def samplesOf (frames : List (Frame Raw)) : List Raw := frames.flatMap Frame.samples

-- A codec between its calls. A packet it cannot take yet is refused (EAGAIN),
-- which may let frames out; once those waiting are received it takes the packet
-- that it refused. What it still keeps it gives on the null packet.
structure Codec (Packet Raw : Type) where
  State : Type
  opened : State
  refuse : State → List (Frame Raw) → Packet → Option (List (Frame Raw) × State)
  accept : State → Packet → Option (List (Frame Raw) × State)
  flush : State → List (Frame Raw)
  resent : refuse state waiting packet = some (frames,next) → refuse next [] packet = none

namespace Codec

-- What a packet makes of a codec whose frames have all been received.
def take (codec : Codec Packet Raw) (state : codec.State) (packet : Packet) :
    Option (List (Frame Raw) × codec.State) :=
  match codec.refuse state [] packet with
  | none => codec.accept state packet
  | some (frames,next) => (codec.accept next packet).map fun taken => (frames ++ taken.1,taken.2)

def transducer (codec : Codec Packet Raw) : Transducer Packet (Frame Raw) where
  State := codec.State
  initial := codec.opened
  step := codec.take
  finish := codec.flush

end Codec

structure CodecContext (codec : Codec Packet Raw) where
  state : codec.State
  waiting : List (Frame Raw)

inductive SendResult where
  | sent
  | again
  | invalid
  deriving DecidableEq, Repr

namespace CodecContext
variable {codec : Codec Packet Raw}

-- avcodec_send_packet. A packet that is no good is dropped.
def sendPacket (context : CodecContext codec) (packet : Packet) : SendResult × CodecContext codec :=
  match codec.refuse context.state context.waiting packet with
  | some (frames,next) => (.again,⟨next,context.waiting ++ frames⟩)
  | none =>
    match codec.accept context.state packet with
    | none => (.invalid,context)
    | some (frames,next) => (.sent,⟨next,context.waiting ++ frames⟩)

-- avcodec_receive_frame; none for AVERROR(EAGAIN) and AVERROR_EOF.
def receiveFrame (context : CodecContext codec) : Option (Frame Raw × CodecContext codec) :=
  match context.waiting with
  | [] => none
  | frame :: rest => some (frame,{ context with waiting := rest })

end CodecContext

-- av_rescale_rnd(n, 16000, rate, AV_ROUND_UP)
def rescaleRnd (n rate : Nat) : Nat := (n * 16000 + rate - 1) / rate

-- libswresample as the function from all it is fed to all it gives. Before the
-- flush only a first part of that is out, which later input does not change;
-- room for the reported delay is room for what the flush gives.
structure Resampler (Raw : Type) where
  rate : Nat
  positive : 0 < rate
  resample : List Raw → List Int16
  ready : List Raw → Nat
  delay : List Raw → Nat → Nat
  settled : ∀ fed more, (resample fed).take (ready fed) <+: resample (fed ++ more)
  complete : ∀ fed given, (resample fed).length - given ≤ rescaleRnd (delay fed given) rate

structure SwrContext (Raw : Type) where
  fed : List Raw
  given : Nat

-- swr_convert into a buffer of `room` samples; no frame is the flush.
def Resampler.convert (resampler : Resampler Raw) (swr : SwrContext Raw) (frame : Option (Frame Raw))
    (room : Nat) : List Int16 × SwrContext Raw :=
  let fed := match frame with
    | some frame => swr.fed ++ frame.samples
    | none => swr.fed
  let all := resampler.resample fed
  let out := match frame with
    | some _ => ((all.take (resampler.ready fed)).drop swr.given).take room
    | none => (all.drop swr.given).take room
  (out,⟨fed,swr.given + out.length⟩)

-- What is set up when the loop starts: av_read_frame gives the packets, each
-- with its stream index, until it fails.
structure DecodeSession (Packet Raw : Type) where
  codec : Codec Packet Raw
  resampler : Resampler Raw
  audioIdx : Nat
  packets : List (Nat × Packet)

namespace DecodeSession

structure Loop (session : DecodeSession Packet Raw) where
  context : CodecContext session.codec
  swr : SwrContext Raw
  s16 : List Int16

variable {session : DecodeSession Packet Raw}

def outN (loop : Loop session) (frame : Option (Frame Raw)) : Nat :=
  let delay := session.resampler.delay loop.swr.fed loop.swr.given
  let nbSamples := match frame with
    | some frame => frame.samples.length
    | none => 0
  rescaleRnd (delay + nbSamples) session.resampler.rate

def drainSwr (loop : Loop session) (frame : Option (Frame Raw)) : Loop session :=
  if outN loop frame = 0 then loop
  else
    let (converted,swr) := session.resampler.convert loop.swr frame (outN loop frame)
    { loop with swr, s16 := loop.s16 ++ converted }

-- while (avcodec_receive_frame(…) == 0) drain_swr(frame), with a bound on the
-- frames it can receive.
def receiveFrames : Nat → Loop session → Loop session
  | 0,loop => loop
  | bound+1,loop =>
    match loop.context.receiveFrame with
    | none => loop
    | some (frame,context) => receiveFrames bound (drainSwr { loop with context } (some frame))

def receiveAll (loop : Loop session) : Loop session := receiveFrames loop.context.waiting.length loop

def decodePacket (loop : Loop session) (packet : Packet) : Loop session :=
  let (ret,context) := loop.context.sendPacket packet
  let loop := { loop with context }
  if ret = .again then
    let loop := receiveAll loop
    receiveAll { loop with context := (loop.context.sendPacket packet).2 }
  else receiveAll loop

def start (session : DecodeSession Packet Raw) : Loop session := ⟨⟨session.codec.opened,[]⟩,⟨[],0⟩,[]⟩

def readFrames (session : DecodeSession Packet Raw) : Loop session :=
  session.packets.foldl (fun loop packet =>
    if packet.1 = session.audioIdx then decodePacket loop packet.2 else loop) session.start

def toFloat (s16 : List Int16) : List Sample := s16.map fun sample => (sample.toInt : Sample) / 32768

-- From "Decode + resample" on.
def pcm (session : DecodeSession Packet Raw) : Except Text (List Sample) :=
  let s16 := (drainSwr session.readFrames none).s16
  if s16.isEmpty then .error (bytes "AudioDecoder: decoded audio is empty")
  else .ok (toFloat s16)

def audioPackets (session : DecodeSession Packet Raw) : List Packet :=
  (session.packets.filter (·.1 = session.audioIdx)).map Prod.snd

end DecodeSession

structure Stream where
  audio : Bool
  codecId : Nat

structure Format (Packet : Type) where
  streamInfo : Bool
  streams : List Stream
  packets : List (Nat × Packet)

-- The answers of FFmpeg. The demuxer reads the data through readPacket and
-- seekPacket only, so that what it finds is a function of the data.
structure Libav (Packet Raw : Type) where
  malloc : Bool
  allocAvio : Bool
  openInput : List UInt8 → Option (Format Packet)
  findDecoder : Nat → Option (Codec Packet Raw)
  allocCodec : Bool
  setParameters : Bool
  openCodec : Bool
  allocSwr : Bool
  initSwr : Bool
  resampler : Stream → Resampler Raw

namespace AudioDecoder

def prepare (libav : Libav Packet Raw) (data : List UInt8) : Except Text (DecodeSession Packet Raw) :=
  if data.isEmpty then .error (bytes "AudioDecoder: empty input")
  else if !libav.malloc then .error (bytes "AudioDecoder: av_malloc failed")
  else if !libav.allocAvio then .error (bytes "AudioDecoder: avio_alloc_context failed")
  else
    match libav.openInput data with
    | none => .error (bytes "AudioDecoder: failed to open input — unrecognised format")
    | some format =>
      if !format.streamInfo then .error (bytes "AudioDecoder: failed to find stream info")
      else
        match format.streams.findIdx? Stream.audio, format.streams.find? Stream.audio with
        | some audioIdx,some stream =>
          match libav.findDecoder stream.codecId with
          | none =>
            .error (bytes "AudioDecoder: no decoder found for codec id " ++ decimalInt stream.codecId)
          | some codec =>
            if !libav.allocCodec then .error (bytes "AudioDecoder: avcodec_alloc_context3 failed")
            else if !libav.setParameters then
              .error (bytes "AudioDecoder: avcodec_parameters_to_context failed")
            else if !libav.openCodec then .error (bytes "AudioDecoder: failed to open codec")
            else if !libav.allocSwr then .error (bytes "AudioDecoder: swr_alloc failed")
            else if !libav.initSwr then .error (bytes "AudioDecoder: swr_init failed")
            else .ok ⟨codec,libav.resampler stream,audioIdx,format.packets⟩
        | _,_ => .error (bytes "AudioDecoder: no audio stream found")

def decode (libav : Libav Packet Raw) (data : List UInt8) : Except Text (List Sample) :=
  match prepare libav data with
  | .error what => .error what
  | .ok session => session.pcm

end AudioDecoder

end JotaTranscriber

import JotaTranscriber.HandlerTriples
import JotaTranscriber.GatedTimeline
import JotaTranscriber.SingleAnswer
import Mathlib.Data.List.Pairwise

-- What a request is told that is answered with a transcript.
namespace JotaTranscriber.ResponseReport
open HandleTranscribe HandlerTriples Effects

variable (request : HttpRequest) (config : ServerConfig) (world : HttpWorld)

-- The segments there are to report: whisper's, or none if the gate heard nothing.
inductive Heard (pcm : List Sample) : Option VadGate → List HttpSegment → Prop where
  | ungated (plain : config.vadModelPath.isEmpty = true) (decoded : world.whisper = .decoded segments) :
      Heard pcm none segments
  | gated (gates : config.vadModelPath.isEmpty = false)
      (ran : (VadGate.create config.vadSpeechPadMs).gate pcm world.vad = (gate,.ok result))
      (speech : result.hadSpeech = true) (decoded : world.whisper = .decoded segments) :
      Heard pcm (some gate) segments
  | silent (gates : config.vadModelPath.isEmpty = false)
      (ran : (VadGate.create config.vadSpeechPadMs).gate pcm world.vad = (gate,.ok result))
      (nothing : result.hadSpeech = false) : Heard pcm (some gate) []

def reportOf (segment : TimedSegment) : Json :=
  .object [("start",.number segment.start),("end",.number segment.stop),("text",.string segment.text),
    ("no_speech_prob",.number segment.noSpeechProb)]

inductive Reports (text : Text) (segments : List TimedSegment) : ResponseFormat → HttpResponse → Prop where
  | text : Reports text segments .text
      ⟨.ok,bytes "text/plain; charset=utf-8",(text.dropWhile isBlank).rdropWhile isBlank⟩
  | json (value : body.field? "text" = some (.string text)) (dumped : world.dump body = some dump) :
      Reports text segments .json ⟨.ok,bytes "application/json",dump⟩
  | verbose (value : body.field? "text" = some (.string text))
      (listed : body.field? "segments" = some (.array (segments.map reportOf)))
      (duration : body.field? "duration" = some (.number ((segments.getLast?.map TimedSegment.stop).getD 0)))
      (dumped : world.dump body = some dump) :
      Reports text segments .verboseJson ⟨.ok,bytes "application/json",dump⟩

structure Report (response : HttpResponse) where
  parts : MultipartParser.Parts
  file : List UInt8
  format : ResponseFormat
  pcm : List Sample
  gate : Option VadGate
  spoken : List HttpSegment
  parsed : MultipartParser.parse request.body (MultipartParser.extractBoundary request.contentType) = .ok parts
  uploaded : field? parts "file" = some file
  asked : responseFormat? ((field? parts "response_format").getD (bytes "json")) = some format
  decoded : world.decode file = .ok pcm
  short : (pcm.length : Rat) / 16000 ≤ config.maxAudioDurationSec
  heard : Heard config world pcm gate spoken
  reports : Reports world (collect format gate spoken).1 (collect format gate spoken).2 format response

def told : HttpEffect → Prop
  | .send response => response.status = .ok → Nonempty (Report request config world response)
  | _ => True

variable {request config world} {Q : α → Prop}

section Stages

end Stages

structure Timely (spoken : List HttpSegment) : Prop where
  forward : ∀ segment ∈ spoken, 0 ≤ segment.t0 ∧ segment.t0 ≤ segment.t1
  ordered : spoken.Pairwise fun first second => first.t1 ≤ second.t0

def seconds (gate : Option VadGate) (t : Int) : Rat :=
  match gate with
  | some gate => gate.toOriginalSamples t / 16000
  | none => t / 100

theorem timed_seconds (gate : Option VadGate) (segment : HttpSegment) (text : Text) :
    timed gate segment text =
      ⟨seconds gate segment.t0,seconds gate segment.t1,text,segment.noSpeechProb⟩ := by
  cases gate <;> rfl

-- A segment without a text is left out.
def placed? (gate : Option VadGate) (segment : HttpSegment) : Option TimedSegment :=
  segment.text.map fun text =>
    ⟨seconds gate segment.t0,seconds gate segment.t1,text,segment.noSpeechProb⟩

theorem collect_text (format : ResponseFormat) (gate : Option VadGate) (spoken : List HttpSegment) :
    (collect format gate spoken).1 = spoken.flatMap fun segment => segment.text.getD [] := by
  induction spoken with
  | nil => rfl
  | cons segment rest ih =>
    cases said : segment.text with
    | none => simpa [collect,said] using ih
    | some text => simpa [collect,said] using ih

theorem collect_segments (format : ResponseFormat) (gate : Option VadGate) (spoken : List HttpSegment) :
    (collect format gate spoken).2 =
      if format = .verboseJson then spoken.filterMap (placed? gate) else [] := by
  simp only [collect,List.map_filterMap,timed_seconds,Option.map_map,Function.comp_def]
  rfl

end JotaTranscriber.ResponseReport

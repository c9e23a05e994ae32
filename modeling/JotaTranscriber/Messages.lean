import JotaTranscriber.Basic
import Mathlib.Data.Rat.Defs

namespace JotaTranscriber

-- nlohmann::json values. The parser and the serialiser are third-party code.
inductive Json where
  | null
  | bool (value : Bool)
  | number (value : Rat)
  | string (value : Text)
  | array (items : List Json)
  | object (fields : List (String × Json))

namespace Json

-- contains() and operator[]: only an object has fields.
def field? : Json → String → Option Json
  | .object fields,key => fields.lookup key
  | _,_ => none

end Json

inductive FlowAction where
  | pause
  | resume
  deriving DecidableEq, Repr

-- What the session hands to sendMessage(), one constructor for each `type`.
inductive ServerMessage where
  | ready (sessionId language : Text) (beamSize : Int)
  | error (message code : Text)
  | transcription (text : Text) (isFinal : Bool) (incompleteReason : Option Text)
  | flowControl (action : FlowAction)
  | bufferFull (droppedChunks : Nat)
  | statusBusy
  | statusOk
  deriving DecidableEq, Repr

namespace ServerMessage

def toJson : ServerMessage → Json
  | .ready sessionId language beamSize =>
    .object [("type",.string (bytes "ready")),("protocol_version",.number 1),
      ("session_id",.string sessionId),
      ("config",.object [("language",.string language),("sample_rate",.number 16000),
        ("beam_size",.number beamSize)])]
  | .error message code =>
    .object [("type",.string (bytes "error")),("message",.string message),("code",.string code)]
  | .transcription text isFinal incompleteReason =>
    .object ([("type",.string (bytes "transcription")),("text",.string text),
        ("is_final",.bool isFinal)] ++
      match incompleteReason with
      | none => []
      | some reason => [("complete",.bool false),("reason",.string reason)])
  | .flowControl action =>
    .object [("type",.string (bytes "flow_control")),
      ("action",.string (match action with
        | .pause => bytes "pause"
        | .resume => bytes "resume"))]
  | .bufferFull droppedChunks =>
    .object [("type",.string (bytes "warning")),("code",.string (bytes "buffer_full")),
      ("dropped_chunks",.number droppedChunks),
      ("message",.string (bytes "Audio buffer full, dropping incoming audio"))]
  | .statusBusy =>
    .object [("type",.string (bytes "status")),("state",.string (bytes "busy")),
      ("reason",.string (bytes "gpu_saturated"))]
  | .statusOk => .object [("type",.string (bytes "status")),("state",.string (bytes "ok"))]

def isFinal : ServerMessage → Bool
  | .transcription _ final _ => final
  | _ => false

def isTranscription : ServerMessage → Bool
  | .transcription .. => true
  | _ => false

def flowAction? : ServerMessage → Option FlowAction
  | .flowControl action => some action
  | _ => none

end ServerMessage
end JotaTranscriber

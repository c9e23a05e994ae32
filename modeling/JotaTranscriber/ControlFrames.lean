import JotaTranscriber.SessionRuns
import JotaTranscriber.SingleAnswer

-- The text frames that are neither a config nor the end of a session.
namespace JotaTranscriber.ControlFrames
open SessionMachine StreamingSession SingleAnswer

-- What sendMessage() puts on the wire: dump() throws into its own catch.
def frames (dump : Json → Option Text) (message : ServerMessage) : List Text :=
  (dump message.toJson).toList

-- nlohmann's dump() throws exactly on text that is not UTF-8, and json::parse
-- reads none from text that is.
def DumpsUtf8 (dump : Json → Option Text) : Prop := ∀ json, (dump json).isSome = utf8 json

def ParsesUtf8 (params : SessionParams) : Prop :=
  ∀ payload message, Utf8.valid payload = true → params.parseJson payload = .ok message →
    utf8 message = true

variable {params : SessionParams} {session : StreamingSession} {payload : Text} {view : AuthView}
  {dump : Json → Option Text}

def hasType (params : SessionParams) (payload type : Text) : Prop :=
  ∃ message, params.parseJson payload = .ok message ∧ message.field? "type" = some (.string type)

structure Malformed (params : SessionParams) (session : StreamingSession) (payload : Text) : Prop where
  utf8 : Utf8.valid payload = true
  notConfig : ¬ hasType params payload (bytes "config")
  notEnd : session.configured = true → ¬ hasType params payload (bytes "end")

-- One error goes out, the session stays as it was, and when it is sent the
-- receive thread reads on.
def Harmless (params : SessionParams) (dump : Json → Option Text) (session : StreamingSession)
    (payload : Text) (view : AuthView) : Prop :=
  ∃ text code frame, handleJsonMessage params session payload view =
      (session,.sending [.error text code] .read) ∧
    frames dump (.error text code) = [frame] ∧
    ∀ s : State, s.receiver = .sending [.error text code] .read → s.flusher.alive = true →
      Step params s .send { s with receiver := .reading, log := s.log ++ [.sent (.error text code)] }

-- JSON without a type or with a string for it, or text whose parse_error quotes
-- no cut character.
def Answerable (params : SessionParams) (payload : Text) : Prop :=
  match params.parseJson payload with
  | .ok message => ∀ type, message.field? "type" = some type → ∃ text, type = .string text
  | .error (.parseError what) => Utf8.valid what = true
  | .error (.outOfRange _) => False

theorem utf8_lookup (fields : List (String × Json)) (well : utf8Fields fields = true)
    (found : fields.lookup key = some value) : utf8 value = true := by
  induction fields with
  | nil => cases found
  | cons field rest ih =>
    obtain ⟨name,first⟩ := field
    simp only [utf8Fields,utf8Field,Bool.and_eq_true] at well
    rw [List.lookup_cons] at found
    split at found
    · cases found
      exact well.1
    · exact ih well.2 found

theorem utf8_field {message : Json} (well : utf8 message = true)
    (found : message.field? key = some value) : utf8 value = true := by
  cases message with
  | object fields => exact utf8_lookup fields well found
  | _ => cases found

theorem frames_error (dumps : DumpsUtf8 dump) (text : Text) (literal : String) :
    (∃ frame, frames dump (.error text (bytes literal)) = [frame]) ↔ Utf8.valid text = true := by
  have thrown := dumps (ServerMessage.error text (bytes literal)).toJson
  have strings : utf8 (ServerMessage.error text (bytes literal)).toJson = Utf8.valid text := by
    simp [ServerMessage.toJson,utf8,utf8Fields,utf8Field,valid_bytes]
  rw [strings] at thrown
  unfold frames
  cases dumped : dump (ServerMessage.error text (bytes literal)).toJson with
  | none =>
    rw [dumped] at thrown
    rw [← thrown]
    simp
  | some frame =>
    rw [dumped] at thrown
    rw [← thrown]
    simp

theorem harmless_sendError (dumps : DumpsUtf8 dump) {text : Text} {literal : String}
    (answered : handleJsonMessage params session payload view = (session,sendError text (bytes literal))) :
    Harmless params dump session payload view ↔ Utf8.valid text = true := by
  rw [← frames_error dumps text literal]
  constructor
  · rintro ⟨_,_,frame,same,sent,_⟩
    cases same.symm.trans answered
    exact ⟨frame,sent⟩
  · rintro ⟨frame,sent⟩
    exact ⟨_,_,frame,answered,sent,fun s pc alive => ⟨alive,.send pc⟩⟩

theorem harmful_unwinding (unwound : handleJsonMessage params session payload view = (session,.unwinding)) :
    ¬ Harmless params dump session payload view := by
  rintro ⟨_,_,_,same,_⟩
  cases same.symm.trans unwound

-- A type that is a string is answered, whatever it says.
theorem harmless_string (dumps : DumpsUtf8 dump) (parses : ParsesUtf8 params)
    (malformed : Malformed params session payload) (parsed : params.parseJson payload = .ok message)
    (typed : message.field? "type" = some (.string type)) : Harmless params dump session payload view := by
  have other : type ≠ bytes "config" := by
    rintro rfl
    exact malformed.notConfig ⟨message,parsed,typed⟩
  cases ready : session.configured with
  | false =>
    have answered : handleJsonMessage params session payload view = (session,notConfigured) := by
      simp [handleJsonMessage,parsed,typed,other,ready]
    exact (harmless_sendError dumps answered).mpr (valid_bytes _)
  | true =>
    have unended : type ≠ bytes "end" := by
      rintro rfl
      exact malformed.notEnd ready ⟨message,parsed,typed⟩
    have answered : handleJsonMessage params session payload view =
        (session,sendError (bytes "Unknown message type: " ++ type) (bytes "UNKNOWN_TYPE")) := by
      simp [handleJsonMessage,parsed,typed,other,ready,unended]
    have well : Utf8.valid type = true := utf8_field (parses _ _ malformed.utf8 parsed) typed
    exact (harmless_sendError dumps answered).mpr (Utf8.valid_append (valid_bytes _) well)

theorem malformed_harmless_iff (dumps : DumpsUtf8 dump) (parses : ParsesUtf8 params)
    (malformed : Malformed params session payload) :
    Harmless params dump session payload view ↔ Answerable params payload := by
  cases parsed : params.parseJson payload with
  | error exception =>
    cases exception with
    | parseError what =>
      have answered : handleJsonMessage params session payload view =
          (session,sendError (bytes "Invalid JSON: " ++ what) (bytes "PARSE_ERROR")) := by
        simp only [handleJsonMessage,parsed]
      rw [harmless_sendError dumps answered,Utf8.valid_append_left (valid_bytes _)]
      simp only [Answerable,parsed]
    | outOfRange what =>
      have unwound : handleJsonMessage params session payload view = (session,.unwinding) := by
        simp only [handleJsonMessage,parsed]
      refine iff_of_false (harmful_unwinding unwound) ?_
      simp only [Answerable,parsed]
      exact not_false
  | ok message =>
    cases typed : message.field? "type" with
    | none =>
      have answered : handleJsonMessage params session payload view =
          (session,sendError (bytes "Missing 'type' field") (bytes "INVALID_MESSAGE")) := by
        simp only [handleJsonMessage,parsed,typed]
      refine iff_of_true ((harmless_sendError dumps answered).mpr (valid_bytes _)) ?_
      simp only [Answerable,parsed,typed]
      exact fun _ none_found => by cases none_found
    | some value =>
      cases value with
      | string type =>
        refine iff_of_true (harmless_string dumps parses malformed parsed typed) ?_
        simp only [Answerable,parsed,typed]
        exact fun _ found => ⟨type,(Option.some.inj found).symm⟩
      | _ =>
        have unwound : handleJsonMessage params session payload view = (session,.unwinding) := by
          simp only [handleJsonMessage,parsed,typed]
        refine iff_of_false (harmful_unwinding unwound) ?_
        simp only [Answerable,parsed,typed]
        intro strings
        obtain ⟨text,same⟩ := strings _ rfl
        cases same

-- Four frames and what json::parse makes of them: no type, a number for it, a
-- number no double holds, and text that is not JSON and begins with two bytes.
def noType : Text := bytes "\x7b\"foo\":\"bar\"\x7d"
def numberType : Text := bytes "\x7b\"type\":1\x7d"
def overflow : Text := bytes "1e999"
def accented : Text := bytes "é"

def cutWhat : Text :=
  bytes "[json.exception.parse_error.101] parse error at line 1, column 1: syntax error while parsing value - invalid literal; last read: '" ++
    [0xC3] ++ bytes "'"

def overflowWhat : Text := bytes "[json.exception.out_of_range.406] number overflow parsing '1e999'"

def framesParams : SessionParams :=
  { defaultParams with
    parseJson := fun payload =>
      if payload = noType then .ok (.object [("foo",.string (bytes "bar"))])
      else if payload = numberType then .ok (.object [("type",.number 1)])
      else if payload = overflow then .error (.outOfRange overflowWhat)
      else if payload = accented then .error (.parseError cutWhat)
      else .error (.parseError []) }

theorem framesParams_utf8 : ParsesUtf8 framesParams := by
  intro payload message _ parsed
  simp only [framesParams] at parsed
  split at parsed
  · cases parsed
    simp [utf8,utf8Fields,utf8Field,valid_bytes]
  split at parsed
  · cases parsed
    rfl
  split at parsed
  · cases parsed
  split at parsed
  · cases parsed
  · cases parsed

theorem malformed_harmless_iff_no_type :
    Harmless framesParams plainDump configuredState.session noType emptyView := by
  have parsed : framesParams.parseJson noType = .ok (.object [("foo",.string (bytes "bar"))]) := rfl
  have untyped : ∀ type, ¬ hasType framesParams noType type := by
    rintro type ⟨message,found,typed⟩
    cases parsed.symm.trans found
    cases typed
  have malformed : Malformed framesParams configuredState.session noType :=
    ⟨valid_bytes _,untyped _,fun _ => untyped _⟩
  refine (malformed_harmless_iff plainWorld_dumps framesParams_utf8 malformed).mpr ?_
  simp only [Answerable,parsed]
  intro type typed
  cases typed

def Unanswered (payload : Text) : Prop :=
  Malformed framesParams configuredState.session payload ∧
    ¬ Harmless framesParams plainDump configuredState.session payload emptyView

-- A number for the type, a number that is too large, and an error message that
-- cannot be dumped.
theorem malformed_frames_unanswered :
    Unanswered numberType ∧ Unanswered overflow ∧ Unanswered accented := by
  have number : framesParams.parseJson numberType = .ok (.object [("type",.number 1)]) := rfl
  have large : framesParams.parseJson overflow =
      .error (.outOfRange overflowWhat) := rfl
  have cut : framesParams.parseJson accented =
      .error (.parseError cutWhat) := rfl
  have failed {payload : Text} {exception : JsonException}
      (parsed : framesParams.parseJson payload = .error exception) (type : Text) :
      ¬ hasType framesParams payload type := by
    rintro ⟨message,found,_⟩
    cases parsed.symm.trans found
  have numbered (type : Text) : ¬ hasType framesParams numberType type := by
    rintro ⟨message,found,typed⟩
    cases number.symm.trans found
    cases typed
  refine ⟨?_,?_,?_⟩
  · exact ⟨⟨valid_bytes _,numbered _,fun _ => numbered _⟩,harmful_unwinding rfl⟩
  · exact ⟨⟨valid_bytes _,failed large _,fun _ => failed large _⟩,harmful_unwinding rfl⟩
  · refine ⟨⟨valid_bytes _,failed cut _,fun _ => failed cut _⟩,?_⟩
    have answered : handleJsonMessage framesParams configuredState.session accented emptyView =
        (configuredState.session,
          sendError (bytes "Invalid JSON: " ++ cutWhat) (bytes "PARSE_ERROR")) := rfl
    have dumps : DumpsUtf8 plainDump := plainWorld_dumps
    rw [harmless_sendError dumps answered]
    decide +kernel

end JotaTranscriber.ControlFrames

import JotaTranscriber.AuthManager
import JotaTranscriber.Messages

namespace JotaTranscriber

-- What one GET to the auth API comes to: an exception of the connection, or a
-- response.
inductive ApiReply where
  | failed
  | responded (status : Nat) (body : Text)

-- `urlParses` is the answer of parseUrl on api_base_url, the same at every
-- call; json::parse throws on what it maps to none.
structure ApiAuthClient where
  urlParses : Bool
  parseJson : Text → Option Json

namespace ApiAuthClient

-- body.value("is_active", false): none is the type_error of a body that is no
-- object and of a value that is no boolean.
def isActive : Json → Option Bool
  | .object fields =>
    match fields.lookup "is_active" with
    | none => some false
    | some (.bool active) => some active
    | some _ => none
  | _ => none

-- The X-API-Key header of the request is the client key itself.
def validate (client : ApiAuthClient) (reply : ApiReply) : AuthResult :=
  if !client.urlParses then .apiUnavailable
  else
    match reply with
    | .failed => .apiUnavailable
    | .responded status body =>
      if status = 401 ∨ status = 403 then .denied
      else if status = 200 then
        match (client.parseJson body).bind isActive with
        | some true => .allowed
        | some false => .denied
        | none => .apiUnavailable
      else .apiUnavailable

end ApiAuthClient
end JotaTranscriber

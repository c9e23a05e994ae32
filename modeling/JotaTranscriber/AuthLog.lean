import JotaTranscriber.AuthUrl
import JotaTranscriber.AuthValidation
import JotaTranscriber.Simulation
import Mathlib.Logic.Equiv.Basic

-- What the log shows of the keys that are checked.
namespace JotaTranscriber.AuthLog
open AuthValidation

inductive Level where
  | debug
  | info
  | warn
  | error
  deriving DecidableEq, Repr

structure Line where
  level : Level
  message : Text
  deriving DecidableEq, Repr

def maskKey (key : Text) : Text := if key.length ≤ 6 then bytes "***" else key.take 6 ++ bytes "..."

structure ApiEndpoint where
  apiBaseUrl : Text
  parseJson : Text → Option Json

def ApiEndpoint.client (endpoint : ApiEndpoint) : ApiAuthClient :=
  ⟨(AuthUrl.parseUrl endpoint.apiBaseUrl).isSome,endpoint.parseJson⟩

def truth (value : Bool) : Text := if value then bytes "true" else bytes "false"

-- AuthManager's constructor.
def created (config : ApiAuthConfig) : List Line :=
  if !config.apiBaseUrl.isEmpty then
    [⟨.info,bytes "Auth enabled (API: " ++ config.apiBaseUrl ++ bytes ", cache TTL: " ++
      decimalInt config.cacheTtlSeconds ++ bytes "s)"⟩]
  else if !config.staticToken.isEmpty then [⟨.info,bytes "Auth enabled (static token)"⟩]
  else [⟨.info,bytes "Auth disabled"⟩]

-- ApiAuthClient::validate before the request and after it. `what` is the text
-- of the exception that ends the request of a call.
variable (endpoint : ApiEndpoint) (what : Nat → Text)

def asking (key : Text) : List Line :=
  if (AuthUrl.parseUrl endpoint.apiBaseUrl).isNone then
    [⟨.error,bytes "Invalid auth API URL: " ++ endpoint.apiBaseUrl⟩]
  else [⟨.debug,bytes "Auth API GET " ++ endpoint.apiBaseUrl ++ bytes "/client key=" ++ maskKey key⟩]

def answering (call : Nat) (key : Text) (reply : ApiReply) : List Line :=
  let masked := bytes " key=" ++ maskKey key
  if !endpoint.client.urlParses then []
  else
    match reply with
    | .failed => [⟨.error,bytes "Auth API request failed: " ++ what call ++ masked⟩]
    | .responded status body =>
      ⟨.debug,bytes "Auth API response: HTTP " ++ decimalInt status ++ masked⟩ ::
        if status = 401 ∨ status = 403 then
          [⟨.info,bytes "Auth API: Denied (HTTP " ++ decimalInt status ++ bytes ")" ++ masked⟩]
        else if status = 200 then
          match (endpoint.parseJson body).bind ApiAuthClient.isActive with
          | some true => [⟨.info,bytes "Auth API: Allowed" ++ masked⟩]
          | some false => [⟨.info,bytes "Auth API: Denied (is_active=false)" ++ masked⟩]
          | none => [⟨.warn,bytes "Auth API returned HTTP 200 but invalid JSON body" ++ masked⟩]
        else [⟨.warn,bytes "Auth API unexpected HTTP " ++ decimalInt status ++ masked⟩]

-- AuthManager::validate before the request and after it.
def looking (manager : AuthManager) (token : Text) (now : Instant) : List Line :=
  if !manager.authEnabled then []
  else if !manager.staticToken.isEmpty then
    [⟨.debug,bytes "Static token auth: " ++
      if AuthManager.constantTimeEqual token manager.staticToken then bytes "ok" else bytes "denied"⟩]
  else
    match (manager.cache.get token now).2 with
    | some isValid =>
      [⟨.debug,bytes "Auth cache hit key=" ++ maskKey token ++ bytes " valid=" ++ truth isValid⟩]
    | none =>
      ⟨.debug,bytes "Auth cache miss key=" ++ maskKey token ++ bytes ", querying API"⟩ ::
        asking endpoint token

def concluding (manager : AuthManager) (token : Text) : AuthResult → List Line
  | .apiUnavailable =>
    [⟨.warn,bytes "Auth API unavailable for key=" ++ maskKey token ++ bytes ", denying (fail-closed)"⟩]
  | result =>
    [⟨.debug,bytes "Caching auth result key=" ++ maskKey token ++ bytes " allowed=" ++
      truth (decide (result = .allowed)) ++ bytes " ttl=" ++ decimalInt manager.cacheTtlSeconds ++ bytes "s"⟩]

def lines (s : State) : Action → List Line
  | .tick _ => []
  | .start _ token => looking endpoint s.manager token s.clock
  | .reply call reply =>
    match s.calls call with
    | .asking token _ => answering endpoint what call token reply
    | _ => []
  | .conclude call =>
    match s.calls call with
    | .answered token _ result => concluding s.manager token result
    | _ => []

def log (config : ApiAuthConfig) (trace : List (State × Action)) : List Line :=
  created config ++ trace.flatMap fun entry => lines endpoint what entry.1 entry.2

-- Other keys in place of those of a run: as different from each other, and with
-- the same masks.
structure Renaming where
  rename : Text → Text
  injective : Function.Injective rename
  masked : ∀ key, maskKey (rename key) = maskKey key
  empty : ∀ key, rename key = [] ↔ key = []

-- Two keys with the same mask change places.
def Renaming.exchange (one other : Text) (same : maskKey one = maskKey other) (filled : one ≠ [])
    (nonempty : other ≠ []) : Renaming where
  rename := Equiv.swap one other
  injective := (Equiv.swap one other).injective
  masked key := by
    by_cases first : key = one
    · rw [first,Equiv.swap_apply_left,same]
    · by_cases second : key = other
      · rw [second,Equiv.swap_apply_right,same]
      · rw [Equiv.swap_apply_of_ne_of_ne first second]
  empty key := by
    by_cases first : key = one
    · rw [first,Equiv.swap_apply_left]
      exact ⟨fun none => absurd none nonempty,fun none => absurd none filled⟩
    · by_cases second : key = other
      · rw [second,Equiv.swap_apply_right]
        exact ⟨fun none => absurd none filled,fun none => absurd none nonempty⟩
      · rw [Equiv.swap_apply_of_ne_of_ne first second]

namespace Renaming
variable (names : Renaming)

def entries (cache : AuthCache) : AuthCache := cache.map fun entry => (names.rename entry.1,entry.2)

def manager (manager : AuthManager) : AuthManager :=
  { manager with cache := names.entries manager.cache, staticToken := names.rename manager.staticToken }

def call : Call → Call
  | .idle => .idle
  | .asking token asked => .asking (names.rename token) asked
  | .answered token asked result => .answered (names.rename token) asked result
  | .returned token asked accepted => .returned (names.rename token) asked accepted

def event : Event → Event
  | .answered call token result => .answered call (names.rename token) result
  | .stored call token isAllowed time => .stored call (names.rename token) isAllowed time
  | .returned call token asked accepted => .returned call (names.rename token) asked accepted

def state (s : State) : State where
  manager := names.manager s.manager
  clock := s.clock
  calls := fun id => names.call (s.calls id)
  log := s.log.map names.event

def action : Action → Action
  | .start id token => .start id (names.rename token)
  | .tick elapsed => .tick elapsed
  | .reply id reply => .reply id reply
  | .conclude id => .conclude id

def config (config : ApiAuthConfig) : ApiAuthConfig :=
  { config with staticToken := names.rename config.staticToken }

def entry (entry : State × Action) : State × Action := (names.state entry.1,names.action entry.2)

theorem lookup_entries (cache : AuthCache) (token : Text) :
    (names.entries cache).lookup (names.rename token) = cache.lookup token := by
  induction cache with
  | nil => rfl
  | cons head rest ih =>
    obtain ⟨key,entry⟩ := head
    by_cases same : token = key
    · subst same
      simp [entries]
    · have apart : names.rename token ≠ names.rename key := fun equal => same (names.injective equal)
      simp only [entries,List.map_cons,List.lookup_cons]
      rw [beq_false_of_ne same,beq_false_of_ne apart]
      exact ih

theorem filter_entries (cache : AuthCache) (token : Text) :
    (names.entries cache).filter (·.1 != names.rename token) =
      names.entries (cache.filter (·.1 != token)) := by
  simp only [entries,List.filter_map,Function.comp_def]
  congr 1
  refine List.filter_congr fun entry _ => ?_
  rw [Bool.eq_iff_iff,bne_iff_ne,bne_iff_ne,names.injective.ne_iff]

theorem get_entries (cache : AuthCache) (token : Text) (now : Instant) :
    (names.entries cache).get (names.rename token) now =
      (names.entries (cache.get token now).1,(cache.get token now).2) := by
  simp only [AuthCache.get,lookup_entries,filter_entries]
  split
  · rfl
  · split <;> rfl

theorem put_entries (cache : AuthCache) (token : Text) (isValid : Bool) (ttl : Int) (now : Instant) :
    (names.entries cache).put (names.rename token) isValid ttl now =
      names.entries (cache.put token isValid ttl now) := by
  simp only [AuthCache.put,filter_entries]
  rfl

theorem constantTimeEqual_rename (token secret : Text) :
    AuthManager.constantTimeEqual (names.rename token) (names.rename secret) =
      AuthManager.constantTimeEqual token secret := by
  rw [Bool.eq_iff_iff,AuthManager.constantTimeEqual_iff,AuthManager.constantTimeEqual_iff,names.injective.eq_iff]

theorem lookup_manager (manager : AuthManager) (token : Text) (now : Instant) :
    lookup (names.manager manager) (names.rename token) now =
      (names.manager (lookup manager token now).1,names.call (lookup manager token now).2) := by
  have unset : (names.rename manager.staticToken).isEmpty = manager.staticToken.isEmpty := by
    rw [Bool.eq_iff_iff,List.isEmpty_iff,List.isEmpty_iff,names.empty]
  simp only [lookup,Renaming.manager,unset,get_entries,constantTimeEqual_rename]
  split
  · rfl
  · split
    · rfl
    · rcases manager.cache.get token now with ⟨entries,_ | isValid⟩ <;> rfl

theorem conclude_manager (manager : AuthManager) (token : Text) (result : AuthResult) (now : Instant) :
    conclude (names.manager manager) (names.rename token) result now =
      (names.manager (conclude manager token result now).1,(conclude manager token result now).2) := by
  cases result with
  | apiUnavailable => rfl
  | allowed | denied =>
    simp only [conclude,Renaming.manager,put_entries]

theorem state_update (calls : Nat → Call) (id : Nat) (value : Call) :
    (fun other => names.call (Function.update calls id value other)) =
      Function.update (fun other => names.call (calls other)) id (names.call value) :=
  Function.comp_update names.call calls id value

variable {client : ApiAuthClient} {s next : State}

theorem step_renamed (one : Step client s act next) :
    Step client (names.state s) (names.action act) (names.state next) := by
  cases act with
  | tick =>
    cases one
    exact .tick
  | start id token =>
    obtain ⟨pc,after,value,ran,rfl⟩ : s.calls id = .idle ∧ ∃ after value,
        lookup s.manager token s.clock = (after,value) ∧ next = { s with
          manager := after, calls := Function.update s.calls id value, log := s.log ++ returns id value } := by
      cases one with
      | start pc ran => exact ⟨pc,_,_,ran,rfl⟩
    have idle : (names.state s).calls id = .idle := congrArg names.call pc
    have looked := names.lookup_manager s.manager token s.clock
    rw [ran] at looked
    have told : (s.log ++ returns id value).map names.event =
        s.log.map names.event ++ returns id (names.call value) := by
      rw [List.map_append]
      cases value <;> rfl
    have moved : Step client (names.state s) (.start id (names.rename token)) _ := .start idle looked
    simpa only [Renaming.state,Renaming.action,state_update,told] using moved
  | reply id answer =>
    obtain ⟨token,asked,pc,rfl⟩ : ∃ token asked, s.calls id = .asking token asked ∧ next = { s with
        calls := Function.update s.calls id (.answered token asked (client.validate answer))
        log := s.log ++ [.answered id token (client.validate answer)] } := by
      cases one with
      | reply pc => exact ⟨_,_,pc,rfl⟩
    have waits : (names.state s).calls id = .asking (names.rename token) asked := congrArg names.call pc
    have told : (s.log ++ [Event.answered id token (client.validate answer)]).map names.event =
        s.log.map names.event ++ [.answered id (names.rename token) (client.validate answer)] := by
      rw [List.map_append]
      rfl
    have renamed : names.call (.answered token asked (client.validate answer)) =
        .answered (names.rename token) asked (client.validate answer) := rfl
    have moved : Step client (names.state s) (.reply id answer) _ := .reply waits
    simpa only [Renaming.state,Renaming.action,state_update,told,renamed] using moved
  | conclude id =>
    obtain ⟨token,asked,result,after,accepted,pc,ran,rfl⟩ : ∃ token asked result after accepted,
        s.calls id = .answered token asked result ∧
        conclude s.manager token result s.clock = (after,accepted) ∧ next = { s with
          manager := after
          calls := Function.update s.calls id (.returned token asked accepted)
          log := s.log ++ stores id token s.clock result ++ [.returned id token asked accepted] } := by
      cases one with
      | conclude pc ran => exact ⟨_,_,_,_,_,pc,ran,rfl⟩
    have answered : (names.state s).calls id = .answered (names.rename token) asked result :=
      congrArg names.call pc
    have concluded := names.conclude_manager s.manager token result s.clock
    rw [ran] at concluded
    have told : (s.log ++ stores id token s.clock result ++
        [Event.returned id token asked accepted]).map names.event =
        s.log.map names.event ++ stores id (names.rename token) s.clock result ++
          [.returned id (names.rename token) asked accepted] := by
      rw [List.map_append,List.map_append]
      cases result <;> rfl
    have renamed : names.call (.returned token asked accepted) =
        .returned (names.rename token) asked accepted := rfl
    have moved : Step client (names.state s) (.conclude id) _ := .conclude answered concluded
    simpa only [Renaming.state,Renaming.action,state_update,told,renamed] using moved

theorem initial_renamed (config : ApiAuthConfig) (now : Instant) :
    names.state (initial config now) = initial (names.config config) now := by
  have unset : (names.rename config.staticToken).isEmpty = config.staticToken.isEmpty := by
    rw [Bool.eq_iff_iff,List.isEmpty_iff,List.isEmpty_iff,names.empty]
  simp only [initial,Renaming.state,Renaming.manager,Renaming.config,AuthManager.create,unset]
  rfl

variable (endpoint : ApiEndpoint) (what : Nat → Text)

theorem asking_renamed (token : Text) : asking endpoint (names.rename token) = asking endpoint token := by
  simp only [asking,names.masked]

theorem answering_renamed (id : Nat) (token : Text) (reply : ApiReply) :
    answering endpoint what id (names.rename token) reply = answering endpoint what id token reply := by
  simp only [answering,names.masked]

theorem looking_renamed (manager : AuthManager) (token : Text) (now : Instant) :
    looking endpoint (names.manager manager) (names.rename token) now = looking endpoint manager token now := by
  have unset : (names.rename manager.staticToken).isEmpty = manager.staticToken.isEmpty := by
    rw [Bool.eq_iff_iff,List.isEmpty_iff,List.isEmpty_iff,names.empty]
  simp only [looking,Renaming.manager,unset,constantTimeEqual_rename,get_entries,names.masked,asking_renamed]

theorem concluding_renamed (manager : AuthManager) (token : Text) (result : AuthResult) :
    concluding (names.manager manager) (names.rename token) result = concluding manager token result := by
  cases result <;> simp only [concluding,names.masked,Renaming.manager]

theorem lines_renamed (s : State) (act : Action) :
    lines endpoint what (names.state s) (names.action act) = lines endpoint what s act := by
  cases act with
  | tick => rfl
  | start id token => exact names.looking_renamed endpoint s.manager token s.clock
  | reply id reply =>
    simp only [lines,Renaming.action,Renaming.state]
    cases s.calls id with
    | asking token => exact names.answering_renamed endpoint what id token reply
    | _ => rfl
  | conclude id =>
    simp only [lines,Renaming.action,Renaming.state]
    cases s.calls id with
    | answered token _ result => exact names.concluding_renamed s.manager token result
    | _ => rfl

end Renaming

-- Exchange the keys for others with the same masks: the service goes through the
-- same run, accepts and denies the same calls, and writes the same log.
theorem log_hides_keys (names : Renaming) (endpoint : ApiEndpoint) (what : Nat → Text)
    (path : Runs endpoint.client (initial config now) trace s) :
    Runs endpoint.client (initial (names.config config) now) (trace.map names.entry) (names.state s) ∧
      log endpoint what (names.config config) (trace.map names.entry) = log endpoint what config trace ∧
      ∀ id token asked accepted, s.calls id = .returned token asked accepted →
        (names.state s).calls id = .returned (names.rename token) asked accepted := by
  refine ⟨?_,?_,fun id token asked accepted returned => congrArg names.call returned⟩
  · rw [← names.initial_renamed]
    exact path.map names.step_renamed
  · have same : created (names.config config) = created config := by
      have unset : (names.rename config.staticToken).isEmpty = config.staticToken.isEmpty := by
        rw [Bool.eq_iff_iff,List.isEmpty_iff,List.isEmpty_iff,names.empty]
      simp only [created,Renaming.config,unset]
    simp only [log,same,List.flatMap_map,Renaming.entry,names.lines_renamed]

-- A client's call that asks the API, with the key that shares its mask in its place.
def authEndpoint : ApiEndpoint := ⟨bytes "http://auth",activeClient.parseJson⟩

def nearby : Renaming :=
  .exchange (bytes "client-one") (bytes "client-two") rfl (List.cons_ne_nil _ _) (List.cons_ne_nil _ _)

theorem log_hides_keys_nearby : ∃ trace s,
    trace.map Prod.snd = [.start 0 (bytes "client-one"),.reply 0 (.responded 200 []),.conclude 0] ∧
    s.calls 0 = .returned (bytes "client-one") 0 true ∧
    Runs authEndpoint.client (initial (nearby.config apiConfig) 0) (trace.map nearby.entry) (nearby.state s) ∧
    log authEndpoint (fun _ => []) (nearby.config apiConfig) (trace.map nearby.entry) =
      log authEndpoint (fun _ => []) apiConfig trace ∧
    (nearby.state s).calls 0 = .returned (bytes "client-two") 0 true := by
  obtain ⟨s,ran,accepted⟩ : ∃ s, Machine.replay (advance authEndpoint.client) (fun _ _ => true)
      (initial apiConfig 0) [.start 0 (bytes "client-one"),.reply 0 (.responded 200 []),.conclude 0] = some s ∧
      s.calls 0 = .returned (bytes "client-one") 0 true := ⟨_,rfl,rfl⟩
  obtain ⟨trace,same,path,_⟩ := Machine.replay_sound (advance_sound authEndpoint.client) ran
  obtain ⟨renamed,logged,returned⟩ := log_hides_keys nearby authEndpoint (fun _ => []) path
  exact ⟨trace,s,same,accepted,renamed,logged,returned 0 _ _ _ accepted⟩

end JotaTranscriber.AuthLog

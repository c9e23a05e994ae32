import JotaTranscriber.AuthValidation

namespace JotaTranscriber.AuthPrecedence
open AuthValidation

structure Request where
  token : Text
  exchange : ApiExchange

-- What came of it: the result, and the API's answer if the API was asked.
structure Verdict where
  token : Text
  accepted : Bool
  answered : Option AuthResult
  deriving DecidableEq, Repr

def answered (exchange : ApiExchange) : Call → Option AuthResult
  | .asking .. => some exchange.answer
  | _ => none

def verdict (manager : AuthManager) (request : Request) : Verdict where
  token := request.token
  accepted := (manager.validate request.token request.exchange).2
  answered := answered request.exchange (lookup manager request.token request.exchange.lookupTime).2

def verdicts (manager : AuthManager) : List Request → List Verdict
  | [] => []
  | request :: rest =>
    verdict manager request :: verdicts (manager.validate request.token request.exchange).1 rest

def results (config : ApiAuthConfig) (requests : List Request) : List Bool :=
  (verdicts (AuthManager.create config) requests).map Verdict.accepted

def Allowed (history : List Verdict) (token : Text) : Prop :=
  ∃ verdict ∈ history, verdict.token = token ∧ verdict.answered = some .allowed

-- Whoever is let in was allowed by the API, in this call or in an earlier one.
def OnlyAllowed (history : List Verdict) : Prop :=
  Machine.Justified (fun before verdict =>
    verdict.accepted = true → Allowed (before ++ [verdict]) verdict.token) history

-- The external API decides alone: what the two static tokens are makes no
-- difference, and no token gets in without it.
structure ApiDecides (first second : ApiAuthConfig) : Prop where
  same : ∀ requests, results first requests = results second requests
  first : ∀ requests, OnlyAllowed (verdicts (AuthManager.create first) requests)
  second : ∀ requests, OnlyAllowed (verdicts (AuthManager.create second) requests)

theorem static_token_accepted (manager : AuthManager) (enabled : manager.authEnabled = true)
    (static : manager.staticToken ≠ []) (exchange : ApiExchange) :
    verdict manager ⟨manager.staticToken,exchange⟩ = ⟨manager.staticToken,true,none⟩ := by
  have set : manager.staticToken.isEmpty = false := by simpa using static
  have equal := (AuthManager.constantTimeEqual_iff manager.staticToken manager.staticToken).mpr rfl
  simp [verdict,AuthManager.validate,lookup,answered,enabled,set,equal]

section ApiMode
variable {manager : AuthManager} {history : List Verdict} {ttl : Int}

-- What the cache says yes to was allowed by the API at some time.
def Backs (history : List Verdict) (manager : AuthManager) : Prop :=
  ∀ token entry, manager.cache.lookup token = some entry → entry.isValid = true → Allowed history token

theorem Allowed.append {token : Text} (allowed : Allowed history token) (new : List Verdict) :
    Allowed (history ++ new) token := by
  obtain ⟨verdict,present,same⟩ := allowed
  exact ⟨verdict,List.mem_append_left _ present,same⟩

theorem validate_backs (mode : ApiMode ttl manager) (backs : Backs history manager) (request : Request) :
    ApiMode ttl (manager.validate request.token request.exchange).1 ∧
    Backs (history ++ [verdict manager request]) (manager.validate request.token request.exchange).1 ∧
    ((verdict manager request).accepted = true →
      Allowed (history ++ [verdict manager request]) request.token) := by
  rcases looked : lookup manager request.token request.exchange.lookupTime with ⟨after,next⟩
  have split := validate_split manager request.token request.exchange
  rw [looked] at split
  rcases lookup_cases mode looked with ⟨entry,found,_,rfl,rfl⟩ | ⟨left,rfl,rfl,missing,others,_⟩
  · simp only at split
    rw [split]
    refine ⟨mode,?_,?_⟩
    · intro token stored present valid
      exact (backs token stored present valid).append _
    · intro accepted
      have valid : entry.isValid = true := by simpa [verdict,split] using accepted
      exact (backs _ entry found valid).append _
  · simp only at split
    rcases ran : conclude { manager with cache := left } request.token request.exchange.answer
      request.exchange.storeTime with ⟨after,accepted⟩
    rw [ran] at split
    have told : verdict manager request = ⟨request.token,accepted,some request.exchange.answer⟩ := by
      simp [verdict,split,looked,answered]
    rw [split,told]
    have own (allows : request.exchange.answer = .allowed) :
        Allowed (history ++ [⟨request.token,accepted,some request.exchange.answer⟩]) request.token :=
      ⟨_,List.mem_append_right _ (List.mem_singleton_self _),rfl,by rw [allows]⟩
    have kept (token : Text) (entry : CacheEntry) (other : token ≠ request.token)
        (present : left.lookup token = some entry) (valid : entry.isValid = true) :
        Allowed (history ++ [⟨request.token,accepted,some request.exchange.answer⟩]) token :=
      (backs token entry ((others token other).symm.trans present) valid).append _
    rcases conclude_cases ran with ⟨_,rfl,rfl⟩ | ⟨_,same,rfl⟩
    · refine ⟨⟨mode.enabled,mode.static,mode.ttl⟩,?_,fun accepted => by cases accepted⟩
      intro token entry present valid
      by_cases asked : token = request.token
      · subst asked
        cases missing.symm.trans present
      · exact kept token entry asked present valid
    · have yes (accepts : accepted = true) : request.exchange.answer = .allowed := by
        simpa [same] using accepts
      refine ⟨⟨mode.enabled,mode.static,mode.ttl⟩,?_,fun accepts => own (yes accepts)⟩
      intro token entry present valid
      by_cases asked : token = request.token
      · subst asked
        rw [lookup_put_same] at present
        cases present
        exact own (yes valid)
      · rw [lookup_put_other _ _ _ _ asked] at present
        exact kept token entry asked present valid

theorem verdicts_allowed (mode : ApiMode ttl manager) (backs : Backs history manager)
    (earlier : OnlyAllowed history) (requests : List Request) :
    OnlyAllowed (history ++ verdicts manager requests) := by
  induction requests generalizing manager history with
  | nil => simpa [verdicts] using earlier
  | cons request rest ih =>
    obtain ⟨stays,still,own⟩ := validate_backs mode backs request
    have extended : OnlyAllowed (history ++ [verdict manager request]) := by
      refine Machine.justified_append.mpr ⟨earlier,Machine.justified_singleton.mpr ?_⟩
      rw [List.append_nil]
      exact own
    have later := ih stays still extended
    rw [List.append_assoc] at later
    exact later

end ApiMode

theorem create_only_allowed (config : ApiAuthConfig) (url : config.apiBaseUrl ≠ [])
    (static : config.staticToken = []) (requests : List Request) :
    OnlyAllowed (verdicts (AuthManager.create config) requests) := by
  have mode : ApiMode config.cacheTtlSeconds (AuthManager.create config) :=
    ⟨by simp [AuthManager.create,url],static,rfl⟩
  have backs : Backs [] (AuthManager.create config) := fun _ _ present => by cases present
  exact verdicts_allowed mode backs Machine.justified_nil requests

theorem static_token_unallowed (config : ApiAuthConfig) (static : config.staticToken ≠ []) :
    ¬ OnlyAllowed (verdicts (AuthManager.create config) [⟨config.staticToken,⟨0,0,.denied⟩⟩]) := by
  have told := static_token_accepted (AuthManager.create config) (by simp [AuthManager.create,static])
    static ⟨0,0,.denied⟩
  intro only
  have justified : Machine.Justified _ [verdict (AuthManager.create config)
    ⟨config.staticToken,⟨0,0,.denied⟩⟩] := only
  rw [Machine.justified_singleton] at justified
  rw [show verdict (AuthManager.create config) ⟨config.staticToken,⟨0,0,.denied⟩⟩ = _ from told] at justified
  obtain ⟨found,present,_,allows⟩ := justified rfl
  cases List.mem_singleton.mp present
  cases allows

theorem api_decides_iff (config : ApiAuthConfig) (other : Text) (url : config.apiBaseUrl ≠ []) :
    ApiDecides config { config with staticToken := other } ↔ config.staticToken = [] ∧ other = [] := by
  constructor
  · intro decides
    constructor
    · by_contra static
      exact static_token_unallowed config static (decides.first _)
    · by_contra static
      exact static_token_unallowed { config with staticToken := other } static (decides.second _)
  · rintro ⟨static,rfl⟩
    have same : { config with staticToken := [] } = config := by
      cases config
      cases static
      rfl
    rw [same]
    exact ⟨fun _ => rfl,create_only_allowed config url static,create_only_allowed config url static⟩

def internalApi : ApiAuthConfig := ⟨bytes "http://internal-api:8080",300,[]⟩

theorem api_decides_iff_internal : ApiDecides internalApi { internalApi with staticToken := [] } :=
  (api_decides_iff internalApi [] (by decide)).mpr ⟨rfl,rfl⟩

-- The API refuses a token that happens to be the configured static one.
theorem static_token_bypasses_api :
    results internalApi [⟨bytes "hunter2",⟨0,0,.denied⟩⟩] = [false] ∧
    results { internalApi with staticToken := bytes "hunter2" } [⟨bytes "hunter2",⟨0,0,.denied⟩⟩] = [true] ∧
    ¬ ApiDecides internalApi { internalApi with staticToken := bytes "hunter2" } := by
  have refused : results internalApi [⟨bytes "hunter2",⟨0,0,.denied⟩⟩] = [false] := by decide
  have accepted : results { internalApi with staticToken := bytes "hunter2" }
      [⟨bytes "hunter2",⟨0,0,.denied⟩⟩] = [true] := by decide
  refine ⟨refused,accepted,?_⟩
  intro decides
  have same := decides.same [⟨bytes "hunter2",⟨0,0,.denied⟩⟩]
  rw [refused,accepted] at same
  cases same

end JotaTranscriber.AuthPrecedence

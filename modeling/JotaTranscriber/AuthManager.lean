import JotaTranscriber.Basic

namespace JotaTranscriber

inductive AuthResult where
  | allowed
  | denied
  | apiUnavailable
  deriving DecidableEq, Repr

structure ApiAuthConfig where
  apiBaseUrl : Text
  cacheTtlSeconds : Int
  staticToken : Text

structure CacheEntry where
  isValid : Bool
  expiresAt : Instant
  deriving DecidableEq, Repr

abbrev AuthCache := List (Text × CacheEntry)

namespace AuthCache

-- An expired entry is erased by the lookup that finds it.
def get (entries : AuthCache) (token : Text) (now : Instant) : AuthCache × Option Bool :=
  match entries.lookup token with
  | none => (entries,none)
  | some entry =>
    if now ≥ entry.expiresAt then (entries.filter (·.1 != token),none)
    else (entries,some entry.isValid)

def put (entries : AuthCache) (token : Text) (isValid : Bool) (ttlSeconds : Int) (now : Instant) :
    AuthCache :=
  (token,⟨isValid,now + seconds ttlSeconds⟩) :: entries.filter (·.1 != token)

end AuthCache

-- One exchange with the outside during a validate() call: the clock at the
-- cache lookup and at the store, and what the API answers if it is asked.
structure ApiExchange where
  lookupTime : Instant
  storeTime : Instant
  answer : AuthResult

-- api_client_ is non-null exactly when the API URL is not empty, and is not
-- kept: validate() reaches it only in that case.
structure AuthManager where
  cache : AuthCache
  authEnabled : Bool
  cacheTtlSeconds : Int
  staticToken : Text

namespace AuthManager

def create (config : ApiAuthConfig) : AuthManager :=
  ⟨[],!config.apiBaseUrl.isEmpty || !config.staticToken.isEmpty,config.cacheTtlSeconds,config.staticToken⟩

def isAuthEnabled (manager : AuthManager) : Bool := manager.authEnabled

def constantTimeEqual (a b : Text) : Bool :=
  if a.length ≠ b.length then false
  else (List.zipWith (fun x y => x ^^^ y) a b).foldl (fun diff bits => diff ||| bits) 0 == 0

def validate (manager : AuthManager) (token : Text) (exchange : ApiExchange) : AuthManager × Bool :=
  if !manager.authEnabled then (manager,true)
  else if !manager.staticToken.isEmpty then
    (manager,constantTimeEqual token manager.staticToken)
  else
    let (entries,cached) := manager.cache.get token exchange.lookupTime
    match cached with
    | some isValid => ({ manager with cache := entries },isValid)
    | none =>
      match exchange.answer with
      | .apiUnavailable => ({ manager with cache := entries },false)
      | answer =>
        let isAllowed := decide (answer = .allowed)
        ({ manager with
            cache := AuthCache.put entries token isAllowed manager.cacheTtlSeconds exchange.storeTime },
          isAllowed)

theorem foldl_or_eq_zero (bits : List UInt8) (diff : UInt8) :
    bits.foldl (fun diff bits => diff ||| bits) diff = 0 ↔ diff = 0 ∧ ∀ byte ∈ bits, byte = 0 := by
  induction bits generalizing diff with
  | nil => simp
  | cons byte rest ih =>
    rw [List.foldl_cons,ih,UInt8.or_eq_zero_iff,List.forall_mem_cons,and_assoc]

theorem zipWith_xor_zero (a b : Text) (sized : a.length = b.length) :
    (∀ byte ∈ List.zipWith (fun x y => x ^^^ y) a b, byte = 0) ↔ a = b := by
  induction a generalizing b with
  | nil =>
    obtain rfl := List.eq_nil_of_length_eq_zero sized.symm
    simp
  | cons x xs ih =>
    cases b with
    | nil => cases sized
    | cons y ys =>
      rw [List.zipWith_cons_cons,List.forall_mem_cons,ih ys (Nat.succ.inj sized),UInt8.xor_eq_zero_iff,
        List.cons.injEq]

-- Every byte is looked at, and it is equality all the same.
theorem constantTimeEqual_iff (a b : Text) : constantTimeEqual a b = true ↔ a = b := by
  unfold constantTimeEqual
  split
  · rename_i different
    constructor
    · intro impossible; cases impossible
    · rintro rfl
      exact absurd rfl different
  · rename_i sized
    rw [beq_iff_eq,foldl_or_eq_zero,zipWith_xor_zero a b (not_not.mp sized)]
    exact and_iff_right rfl

end AuthManager
end JotaTranscriber

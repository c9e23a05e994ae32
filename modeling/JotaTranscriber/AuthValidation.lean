import JotaTranscriber.ApiAuthClient
import JotaTranscriber.Machine

namespace JotaTranscriber.AuthValidation

-- Where a call of validate() is, with the time of its cache lookup.
inductive Call where
  | idle
  | asking (token : Text) (lookup : Instant)
  | answered (token : Text) (lookup : Instant) (result : AuthResult)
  | returned (token : Text) (lookup : Instant) (accepted : Bool)
  deriving DecidableEq, Repr

inductive Event where
  | answered (call : Nat) (token : Text) (result : AuthResult)
  | stored (call : Nat) (token : Text) (isAllowed : Bool) (time : Instant)
  | returned (call : Nat) (token : Text) (lookup : Instant) (accepted : Bool)
  deriving DecidableEq, Repr

-- validate() up to the API request, and from the API's answer on. The cache
-- mutex is free in between.
def lookup (manager : AuthManager) (token : Text) (now : Instant) : AuthManager × Call :=
  if !manager.authEnabled then (manager,.returned token now true)
  else if !manager.staticToken.isEmpty then
    (manager,.returned token now (AuthManager.constantTimeEqual token manager.staticToken))
  else
    match manager.cache.get token now with
    | (entries,some isValid) => ({ manager with cache := entries },.returned token now isValid)
    | (entries,none) => ({ manager with cache := entries },.asking token now)

def conclude (manager : AuthManager) (token : Text) (result : AuthResult) (now : Instant) :
    AuthManager × Bool :=
  match result with
  | .apiUnavailable => (manager,false)
  | result =>
    let isAllowed := decide (result = .allowed)
    ({ manager with cache := manager.cache.put token isAllowed manager.cacheTtlSeconds now },isAllowed)

theorem validate_split (manager : AuthManager) (token : Text) (exchange : ApiExchange) :
    manager.validate token exchange =
      match lookup manager token exchange.lookupTime with
      | (manager,.returned _ _ accepted) => (manager,accepted)
      | (manager,_) => conclude manager token exchange.answer exchange.storeTime := by
  unfold AuthManager.validate lookup
  split
  · rfl
  · split
    · rfl
    · rcases manager.cache.get token exchange.lookupTime with ⟨entries,_ | isValid⟩
      · cases exchange.answer <;> rfl
      · rfl

structure State where
  manager : AuthManager
  clock : Instant
  calls : Nat → Call
  log : List Event

inductive Action where
  | tick (elapsed : Nat)
  | start (call : Nat) (token : Text)
  | reply (call : Nat) (reply : ApiReply)
  | conclude (call : Nat)

def initial (config : ApiAuthConfig) (now : Instant) : State :=
  ⟨AuthManager.create config,now,fun _ => .idle,[]⟩

def returns (call : Nat) : Call → List Event
  | .returned token lookup accepted => [.returned call token lookup accepted]
  | _ => []

def stores (call : Nat) (token : Text) (now : Instant) : AuthResult → List Event
  | .apiUnavailable => []
  | result => [.stored call token (decide (result = .allowed)) now]

variable (client : ApiAuthClient)

inductive Step : State → Action → State → Prop where
  | tick : Step s (.tick elapsed) { s with clock := s.clock + elapsed }
  | start (pc : s.calls call = .idle) (ran : lookup s.manager token s.clock = (after,next)) :
      Step s (.start call token) { s with
        manager := after
        calls := Function.update s.calls call next
        log := s.log ++ returns call next }
  | reply (pc : s.calls call = .asking token asked) :
      Step s (.reply call answer) { s with
        calls := Function.update s.calls call (.answered token asked (client.validate answer))
        log := s.log ++ [.answered call token (client.validate answer)] }
  | conclude (pc : s.calls call = .answered token asked result)
      (ran : conclude s.manager token result s.clock = (after,accepted)) :
      Step s (.conclude call) { s with
        manager := after
        calls := Function.update s.calls call (.returned token asked accepted)
        log := s.log ++ stores call token s.clock result ++ [.returned call token asked accepted] }

abbrev Runs := Machine.Runs (Step client)

def advance (s : State) : Action → Option State
  | .tick elapsed => some { s with clock := s.clock + elapsed }
  | .start call token =>
    match s.calls call,lookup s.manager token s.clock with
    | .idle,(after,next) => some { s with
        manager := after
        calls := Function.update s.calls call next
        log := s.log ++ returns call next }
    | _,_ => none
  | .reply call answer =>
    match s.calls call with
    | .asking token asked => some { s with
        calls := Function.update s.calls call (.answered token asked (client.validate answer))
        log := s.log ++ [.answered call token (client.validate answer)] }
    | _ => none
  | .conclude call =>
    match s.calls call with
    | .answered token asked result =>
      let (after,accepted) := conclude s.manager token result s.clock
      some { s with
        manager := after
        calls := Function.update s.calls call (.returned token asked accepted)
        log := s.log ++ stores call token s.clock result ++ [.returned call token asked accepted] }
    | _ => none

theorem advance_sound (ran : advance client s action = some next) : Step client s action next := by
  cases action with
  | tick elapsed => cases ran; exact .tick
  | start call token =>
    simp only [advance] at ran
    split at ran
    · rename_i pc found
      cases ran; exact .start pc found
    · cases ran
  | reply call answer =>
    simp only [advance] at ran
    split at ran
    · rename_i pc
      cases ran; exact .reply pc
    · cases ran
  | conclude call =>
    simp only [advance] at ran
    split at ran
    · rename_i pc
      cases ran; exact .conclude pc rfl
    · cases ran

theorem lookup_filter_same (entries : AuthCache) (token : Text) :
    (entries.filter (·.1 != token)).lookup token = none := by
  rw [List.lookup_eq_none_iff]
  intro entry present
  have kept := (List.mem_filter.mp present).2
  simp only [bne_iff_ne,ne_eq] at kept
  simpa using fun same => kept same.symm

theorem lookup_filter_other (entries : AuthCache) (different : other ≠ token) :
    (entries.filter (·.1 != token)).lookup other = entries.lookup other := by
  induction entries with
  | nil => rfl
  | cons entry rest ih =>
    obtain ⟨key,value⟩ := entry
    by_cases same : key = token
    · subst key
      have skipped : (other == token) = false := by simpa using different
      rw [List.filter_cons_of_neg (by simp),ih,List.lookup_cons,skipped]
    · rw [List.filter_cons_of_pos (by simpa using same),List.lookup_cons,List.lookup_cons,ih]

theorem lookup_put_same (entries : AuthCache) (token : Text) (isValid : Bool) (ttl : Int)
    (now : Instant) :
    (AuthCache.put entries token isValid ttl now).lookup token = some ⟨isValid,now + seconds ttl⟩ :=
  List.lookup_cons_self

theorem lookup_put_other (entries : AuthCache) (isValid : Bool) (ttl : Int) (now : Instant)
    (different : other ≠ token) :
    (AuthCache.put entries token isValid ttl now).lookup other = entries.lookup other := by
  have skipped : (other == token) = false := by simpa using different
  rw [AuthCache.put,List.lookup_cons,skipped]
  exact lookup_filter_other entries different

theorem get_cases (entries : AuthCache) (token : Text) (now : Instant) :
    (∃ entry, entries.lookup token = some entry ∧ now < entry.expiresAt ∧
      entries.get token now = (entries,some entry.isValid)) ∨
    ∃ left, entries.get token now = (left,none) ∧ left.lookup token = none ∧
      (∀ other, other ≠ token → left.lookup other = entries.lookup other) ∧
      ∀ entry, entries.lookup token = some entry → entry.expiresAt ≤ now := by
  unfold AuthCache.get
  cases found : entries.lookup token with
  | none => exact .inr ⟨entries,rfl,found,fun _ _ => rfl,fun _ impossible => by cases impossible⟩
  | some entry =>
    dsimp only
    split
    · rename_i expired
      refine .inr ⟨_,rfl,lookup_filter_same entries token,
        fun other different => lookup_filter_other entries different,?_⟩
      intro same equal
      cases equal
      exact expired
    · rename_i fresh
      exact .inl ⟨entry,rfl,Int.not_le.mp fresh,rfl⟩

-- API mode: no static token, and an API to ask.
structure ApiMode (ttl : Int) (manager : AuthManager) : Prop where
  enabled : manager.authEnabled = true
  static : manager.staticToken = []
  ttl : manager.cacheTtlSeconds = ttl

theorem lookup_cases (mode : ApiMode ttl manager) (ran : lookup manager token now = (after,next)) :
    (∃ entry, manager.cache.lookup token = some entry ∧ now < entry.expiresAt ∧
      after = manager ∧ next = .returned token now entry.isValid) ∨
    ∃ left, after = { manager with cache := left } ∧ next = .asking token now ∧
      left.lookup token = none ∧
      (∀ other, other ≠ token → left.lookup other = manager.cache.lookup other) ∧
      ∀ entry, manager.cache.lookup token = some entry → entry.expiresAt ≤ now := by
  have enabled : ¬ (!manager.authEnabled) = true := by simp [mode.enabled]
  have static : ¬ (!manager.staticToken.isEmpty) = true := by simp [mode.static]
  rw [lookup,if_neg enabled,if_neg static] at ran
  rcases get_cases manager.cache token now with ⟨entry,found,fresh,hit⟩ | ⟨left,miss,rest⟩
  · rw [hit] at ran
    cases ran
    exact .inl ⟨entry,found,fresh,rfl,rfl⟩
  · rw [miss] at ran
    cases ran
    exact .inr ⟨left,rfl,rfl,rest⟩

theorem conclude_cases (ran : conclude manager token result now = (after,accepted)) :
    (result = .apiUnavailable ∧ after = manager ∧ accepted = false) ∨
    result ≠ .apiUnavailable ∧ accepted = decide (result = .allowed) ∧ after = { manager with
      cache := manager.cache.put token accepted manager.cacheTtlSeconds now } := by
  cases result <;> cases ran
  · exact .inr ⟨AuthResult.noConfusion,rfl,rfl⟩
  · exact .inr ⟨AuthResult.noConfusion,rfl,rfl⟩
  · exact .inl ⟨rfl,rfl,rfl⟩

def storeOf (token : Text) : Event → Option (Nat × Bool × Instant)
  | .stored call found isAllowed time => if found = token then some (call,isAllowed,time) else none
  | _ => none

def latestStore (log : List Event) (token : Text) : Option (Nat × Bool × Instant) :=
  (log.filterMap (storeOf token)).getLast?

theorem latestStore_quiet (silent : ∀ event ∈ new, storeOf token event = none) :
    latestStore (log ++ new) token = latestStore log token := by
  rw [latestStore,List.filterMap_append,List.filterMap_eq_nil_iff.mpr silent,List.append_nil,latestStore]

theorem latestStore_stored (log : List Event) (call : Nat) (token : Text) (isAllowed : Bool)
    (time : Instant) :
    latestStore (log ++ [.stored call token isAllowed time]) token = some (call,isAllowed,time) := by
  simp [latestStore,storeOf]

-- What the API answered for the token in a call that is done with asking.
def Backed (log : List Event) (call : Nat) (token : Text) (accepted : Bool) : Prop :=
  ∃ result, .answered call token result ∈ log ∧ accepted = decide (result = .allowed)

theorem Backed.append (backed : Backed log call token accepted) (new : List Event) :
    Backed (log ++ new) call token accepted := by
  obtain ⟨result,present,same⟩ := backed
  exact ⟨result,List.mem_append_left _ present,same⟩

-- A result is backed by the API's answer in the call itself, or by the answer
-- behind the most recent store, still fresh at the lookup.
def Granted (ttl : Int) (before : List Event) : Event → Prop
  | .returned call token asked accepted =>
    Backed before call token accepted ∨
      (∀ found result, .answered call found result ∉ before) ∧
      ∃ other time, latestStore before token = some (other,accepted,time) ∧
        asked - time < seconds ttl ∧ Backed before other token accepted
  | _ => True

def callOf : Event → Nat
  | .answered call _ _ | .stored call _ _ _ | .returned call _ _ _ => call

-- The log tells where every call is that has been answered or has returned.
structure Tracked (calls : Nat → Call) (log : List Event) : Prop where
  answered : ∀ call token asked result, calls call = .answered token asked result →
    .answered call token result ∈ log
  single : ∀ call token result, .answered call token result ∈ log →
    ∃ asked, calls call = .answered token asked result ∨
      calls call = .returned token asked (decide (result = .allowed))
  results : ∀ call token asked accepted, .returned call token asked accepted ∈ log →
    calls call = .returned token asked accepted

theorem Tracked.unanswered (tracked : Tracked calls log)
    (pc : calls call = .idle ∨ ∃ token asked, calls call = .asking token asked) :
    (∀ found result, .answered call found result ∉ log) ∧
      ∀ found asked accepted, .returned call found asked accepted ∉ log := by
  constructor
  · intro found result present
    obtain ⟨_,answered | returned⟩ := tracked.single call found result present
    · rcases pc with pc | ⟨_,_,pc⟩ <;> cases pc.symm.trans answered
    · rcases pc with pc | ⟨_,_,pc⟩ <;> cases pc.symm.trans returned
  · intro found asked accepted present
    have returned := tracked.results call found asked accepted present
    rcases pc with pc | ⟨_,_,pc⟩ <;> cases pc.symm.trans returned

theorem Tracked.set (tracked : Tracked calls log) (own : ∀ event ∈ new, callOf event = call)
    (answered : ∀ token asked result, value = .answered token asked result →
      .answered call token result ∈ log ++ new)
    (single : ∀ token result, .answered call token result ∈ log ++ new →
      ∃ asked, value = .answered token asked result ∨
        value = .returned token asked (decide (result = .allowed)))
    (results : ∀ token asked accepted, .returned call token asked accepted ∈ log ++ new →
      value = .returned token asked accepted) :
    Tracked (Function.update calls call value) (log ++ new) := by
  have earlier {event : Event} (present : event ∈ log ++ new) (different : callOf event ≠ call) :
      event ∈ log := by
    rcases List.mem_append.mp present with old | last
    · exact old
    · exact absurd (own event last) different
  constructor
  · intro other token asked result pc
    by_cases same : other = call
    · subst same
      rw [Function.update_self] at pc
      exact answered token asked result pc
    · rw [Function.update_of_ne same] at pc
      exact List.mem_append_left _ (tracked.answered other token asked result pc)
  · intro other token result present
    by_cases same : other = call
    · subst same
      rw [Function.update_self]
      exact single token result present
    · rw [Function.update_of_ne same]
      exact tracked.single other token result (earlier present same)
  · intro other token asked accepted present
    by_cases same : other = call
    · subst same
      rw [Function.update_self]
      exact results token asked accepted present
    · rw [Function.update_of_ne same]
      exact tracked.results other token asked accepted (earlier present same)

-- Every cache entry comes from the most recent store for its token.
def Entered (ttl : Int) (cache : AuthCache) (log : List Event) : Prop :=
  ∀ token entry, cache.lookup token = some entry →
    ∃ other time, latestStore log token = some (other,entry.isValid,time) ∧
      entry.expiresAt = time + seconds ttl ∧ Backed log other token entry.isValid

theorem Entered.append (entered : Entered ttl cache log)
    (silent : ∀ token, ∀ event ∈ new, storeOf token event = none) : Entered ttl cache (log ++ new) := by
  intro token entry found
  obtain ⟨other,time,latest,expiry,backed⟩ := entered token entry found
  exact ⟨other,time,by rw [latestStore_quiet (silent token)]; exact latest,expiry,backed.append new⟩

structure Sound (ttl : Int) (s : State) : Prop where
  mode : ApiMode ttl s.manager
  tracked : Tracked s.calls s.log
  entered : Entered ttl s.manager.cache s.log
  granted : Machine.Justified (Granted ttl) s.log

theorem sound_start (sound : Sound ttl s) (pc : s.calls call = .idle)
    (ran : lookup s.manager token s.clock = (after,next)) :
    Sound ttl { s with
      manager := after
      calls := Function.update s.calls call next
      log := s.log ++ returns call next } := by
  obtain ⟨unanswered,unreturned⟩ := sound.tracked.unanswered (.inl pc)
  rcases lookup_cases sound.mode ran with
    ⟨entry,found,fresh,rfl,rfl⟩ | ⟨left,rfl,rfl,gone,kept,_⟩
  · obtain ⟨other,time,latest,expiry,backed⟩ := sound.entered token entry found
    refine ⟨sound.mode,sound.tracked.set ?_ ?_ ?_ ?_,sound.entered.append ?_,
      Machine.justified_append.mpr ⟨sound.granted,Machine.justified_singleton.mpr ?_⟩⟩
    · intro event last
      cases List.mem_singleton.mp last; rfl
    · intro _ _ _ impossible
      cases impossible
    · intro found result present
      rcases List.mem_append.mp present with old | last
      · exact absurd old (unanswered found result)
      · cases List.mem_singleton.mp last
    · intro found asked accepted present
      rcases List.mem_append.mp present with old | last
      · exact absurd old (unreturned found asked accepted)
      · cases List.mem_singleton.mp last; rfl
    · intro _ event last
      cases List.mem_singleton.mp last; rfl
    · rw [List.append_nil]
      have recent : s.clock - time < seconds ttl :=
        Int.sub_left_lt_of_lt_add (by rw [← expiry]; exact fresh)
      exact .inr ⟨unanswered,other,time,latest,recent,backed⟩
  · refine ⟨⟨sound.mode.enabled,sound.mode.static,sound.mode.ttl⟩,sound.tracked.set ?_ ?_ ?_ ?_,?_,?_⟩
    · exact List.forall_mem_nil _
    · intro _ _ _ impossible
      cases impossible
    · intro found result present
      exact absurd (by simpa [returns] using present) (unanswered found result)
    · intro found asked accepted present
      exact absurd (by simpa [returns] using present) (unreturned found asked accepted)
    · intro key entry present
      replace present : left.lookup key = some entry := present
      have different : key ≠ token := by rintro rfl; rw [gone] at present; cases present
      rw [kept key different] at present
      simpa [returns] using sound.entered key entry present
    · simpa [returns] using sound.granted

theorem sound_reply (sound : Sound ttl s) (pc : s.calls call = .asking token asked)
    (result : AuthResult) :
    Sound ttl { s with
      calls := Function.update s.calls call (.answered token asked result)
      log := s.log ++ [.answered call token result] } := by
  obtain ⟨unanswered,unreturned⟩ := sound.tracked.unanswered (.inr ⟨token,asked,pc⟩)
  refine ⟨sound.mode,sound.tracked.set ?_ ?_ ?_ ?_,sound.entered.append ?_,
    Machine.justified_append.mpr ⟨sound.granted,Machine.justified_singleton.mpr trivial⟩⟩
  · intro event last
    cases List.mem_singleton.mp last; rfl
  · intro _ _ _ same
    cases same
    exact List.mem_append_right _ (List.mem_singleton_self _)
  · intro found answer present
    rcases List.mem_append.mp present with old | last
    · exact absurd old (unanswered found answer)
    · cases List.mem_singleton.mp last
      exact ⟨asked,.inl rfl⟩
  · intro found time accepted present
    rcases List.mem_append.mp present with old | last
    · exact absurd old (unreturned found time accepted)
    · cases List.mem_singleton.mp last
  · intro _ event last
    cases List.mem_singleton.mp last; rfl

theorem entered_put (entered : Entered ttl cache log)
    (backed : Backed log call token accepted) (now : Instant) :
    Entered ttl (cache.put token accepted ttl now) (log ++ [.stored call token accepted now]) := by
  intro key entry found
  by_cases same : key = token
  · subst same
    rw [lookup_put_same] at found
    cases found
    exact ⟨call,now,latestStore_stored log call key accepted now,rfl,backed.append _⟩
  · rw [lookup_put_other _ _ _ _ same] at found
    obtain ⟨other,time,latest,expiry,earlier⟩ := entered key entry found
    refine ⟨other,time,?_,expiry,earlier.append _⟩
    rw [latestStore_quiet]
    · exact latest
    · intro event last
      cases List.mem_singleton.mp last
      simp [storeOf,Ne.symm same]

theorem stores_cases (stored : event ∈ stores call token now result) :
    ∃ isAllowed, event = .stored call token isAllowed now := by
  cases result with
  | apiUnavailable => cases stored
  | allowed | denied => exact ⟨_,List.mem_singleton.mp stored⟩

theorem conclude_accepted (ran : conclude manager token result now = (after,accepted)) :
    accepted = decide (result = .allowed) := by
  rcases conclude_cases ran with ⟨rfl,_,rfl⟩ | ⟨_,same,_⟩
  · rfl
  · exact same

theorem tracked_conclude (tracked : Tracked calls log) (pc : calls call = .answered token asked result)
    (same : accepted = decide (result = .allowed)) (now : Instant) :
    Tracked (Function.update calls call (.returned token asked accepted))
      (log ++ (stores call token now result ++ [.returned call token asked accepted])) := by
  refine tracked.set ?_ ?_ ?_ ?_
  · intro event new
    rcases List.mem_append.mp new with stored | last
    · obtain ⟨_,rfl⟩ := stores_cases stored; rfl
    · cases List.mem_singleton.mp last; rfl
  · intro _ _ _ impossible
    cases impossible
  · intro found answer logged
    rcases List.mem_append.mp logged with old | new
    · obtain ⟨_,here | impossible⟩ := tracked.single call found answer old
      · cases pc.symm.trans here
        exact ⟨asked,.inr (by rw [same])⟩
      · cases pc.symm.trans impossible
    · rcases List.mem_append.mp new with stored | last
      · obtain ⟨_,impossible⟩ := stores_cases stored
        cases impossible
      · cases List.mem_singleton.mp last
  · intro found time value logged
    rcases List.mem_append.mp logged with old | new
    · cases pc.symm.trans (tracked.results call found time value old)
    · rcases List.mem_append.mp new with stored | last
      · obtain ⟨_,impossible⟩ := stores_cases stored
        cases impossible
      · cases List.mem_singleton.mp last; rfl

theorem entered_conclude (entered : Entered manager.cacheTtlSeconds manager.cache log)
    (backed : Backed log call token accepted)
    (ran : conclude manager token result now = (after,accepted)) :
    Entered manager.cacheTtlSeconds after.cache (log ++ stores call token now result) := by
  rcases conclude_cases ran with ⟨rfl,rfl,_⟩ | ⟨asked_api,same,rfl⟩
  · simpa [stores] using entered
  · have stored : stores call token now result = [.stored call token accepted now] := by
      cases result with
      | apiUnavailable => exact absurd rfl asked_api
      | allowed | denied => rw [same]; rfl
    rw [stored]
    exact entered_put entered backed now

theorem sound_conclude (sound : Sound ttl s) (pc : s.calls call = .answered token asked result)
    (ran : conclude s.manager token result s.clock = (after,accepted)) :
    Sound ttl { s with
      manager := after
      calls := Function.update s.calls call (.returned token asked accepted)
      log := s.log ++ stores call token s.clock result ++ [.returned call token asked accepted] } := by
  have same := conclude_accepted ran
  have backed : Backed s.log call token accepted :=
    ⟨result,sound.tracked.answered call token asked result pc,same⟩
  have entered : Entered ttl after.cache (s.log ++ stores call token s.clock result) := by
    have before := sound.entered
    rw [← sound.mode.ttl] at before ⊢
    exact entered_conclude before backed ran
  have granted : Machine.Justified (Granted ttl) (s.log ++ stores call token s.clock result) := by
    refine Machine.justified_append.mpr ⟨sound.granted,?_⟩
    intro before event later split
    obtain ⟨_,rfl⟩ := stores_cases (show event ∈ stores call token s.clock result by rw [split]; simp)
    trivial
  refine ⟨?_,?_,?_,?_⟩
  · rcases conclude_cases ran with ⟨_,rfl,_⟩ | ⟨_,_,rfl⟩
    · exact sound.mode
    · exact ⟨sound.mode.enabled,sound.mode.static,sound.mode.ttl⟩
  · rw [List.append_assoc]
    exact tracked_conclude sound.tracked pc same s.clock
  · refine entered.append ?_
    intro _ event last
    cases List.mem_singleton.mp last; rfl
  · refine Machine.justified_append.mpr ⟨granted,Machine.justified_singleton.mpr ?_⟩
    rw [List.append_nil]
    exact .inl (backed.append _)

theorem sound_preserved (sound : Sound ttl s) (step : Step client s action next) : Sound ttl next := by
  cases step with
  | tick => exact ⟨sound.mode,sound.tracked,sound.entered,sound.granted⟩
  | start pc ran => exact sound_start sound pc ran
  | reply pc => exact sound_reply sound pc _
  | conclude pc ran => exact sound_conclude sound pc ran

theorem runs_sound (static : config.staticToken = []) (api : config.apiBaseUrl ≠ [])
    (path : Runs client (initial config now) trace s) : Sound config.cacheTtlSeconds s := by
  have mode : ApiMode config.cacheTtlSeconds (initial config now).manager :=
    ⟨by simp [initial,AuthManager.create,api],static,rfl⟩
  refine path.invariant (I := Sound config.cacheTtlSeconds) ⟨mode,?_,?_,Machine.justified_nil⟩
    (fun sound one => sound_preserved client sound one)
  · constructor
    · intro _ _ _ _ impossible; cases impossible
    · intro _ _ _ impossible; cases impossible
    · intro _ _ _ _ impossible; cases impossible
  · intro _ _ impossible
    cases impossible

-- The system as one token sees it: its cache entry, the clock and its own
-- calls.
structure View where
  entry : Option CacheEntry
  clock : Instant
  calls : Nat → Call

def tokenOf : Call → Option Text
  | .idle => none
  | .asking token _ | .answered token _ _ | .returned token _ _ => some token

def shown (token : Text) (call : Call) : Call := if tokenOf call = some token then call else .idle

def view (token : Text) (s : State) : View :=
  ⟨s.manager.cache.lookup token,s.clock,fun call => shown token (s.calls call)⟩

-- validate() for a single token whose cache entry is all there is to store.
def View.step (ttl : Int) (token : Text) (v : View) : Action → View
  | .tick elapsed => { v with clock := v.clock + elapsed }
  | .start call _ =>
    match v.entry with
    | some entry =>
      if v.clock < entry.expiresAt then
        { v with calls := Function.update v.calls call (.returned token v.clock entry.isValid) }
      else { v with entry := none, calls := Function.update v.calls call (.asking token v.clock) }
    | none => { v with calls := Function.update v.calls call (.asking token v.clock) }
  | .reply call answer =>
    match v.calls call with
    | .asking _ asked =>
      { v with calls := Function.update v.calls call (.answered token asked (client.validate answer)) }
    | _ => v
  | .conclude call =>
    match v.calls call with
    | .answered _ asked .apiUnavailable =>
      { v with calls := Function.update v.calls call (.returned token asked false) }
    | .answered _ asked result =>
      { v with
        entry := some ⟨decide (result = .allowed),v.clock + seconds ttl⟩
        calls := Function.update v.calls call (.returned token asked (decide (result = .allowed))) }
    | _ => v

def concerns (token : Text) (s : State) : Action → Bool
  | .tick _ => true
  | .start _ found => found == token
  | .reply call _ | .conclude call => tokenOf (s.calls call) == some token

@[simp] theorem shown_asking (token : Text) (asked : Instant) :
    shown token (.asking token asked) = .asking token asked := if_pos rfl

@[simp] theorem shown_answered (token : Text) (asked : Instant) (result : AuthResult) :
    shown token (.answered token asked result) = .answered token asked result := if_pos rfl

@[simp] theorem shown_returned (token : Text) (asked : Instant) (accepted : Bool) :
    shown token (.returned token asked accepted) = .returned token asked accepted := if_pos rfl

theorem shown_set (calls : Nat → Call) (call : Nat) (value : Call) :
    (fun other => shown token (Function.update calls call value other)) =
      Function.update (fun other => shown token (calls other)) call (shown token value) :=
  Function.comp_update (shown token) calls call value

theorem shown_set_hidden (token : Text) (calls : Nat → Call) (call : Nat) (value : Call)
    (before : tokenOf (calls call) ≠ some token) (after : tokenOf value ≠ some token) :
    (fun other => shown token (Function.update calls call value other)) =
      fun other => shown token (calls other) := by
  have hidden : shown token (calls call) = shown token value := by
    rw [shown,shown,if_neg before,if_neg after]
  rw [shown_set,← hidden,Function.update_eq_self]

theorem view_start (mode : ApiMode ttl s.manager) (pc : s.calls call = .idle)
    (ran : lookup s.manager found s.clock = (after,next)) (log : List Event) (token : Text) :
    view token { s with manager := after, calls := Function.update s.calls call next, log } =
      if found = token then (view token s).step client ttl token (.start call found)
      else view token s := by
  by_cases same : found = token
  · subst same
    rw [if_pos rfl]
    rcases lookup_cases mode ran with ⟨entry,present,fresh,rfl,rfl⟩ | ⟨left,rfl,rfl,gone,_,stale⟩
    · simp only [view,View.step,present,fresh,if_true,shown_set,shown_returned]
    · cases present : s.manager.cache.lookup found with
      | none => simp only [view,View.step,present,gone,shown_set,shown_asking]
      | some entry =>
        have expired : ¬ s.clock < entry.expiresAt := Int.not_lt.mpr (stale entry present)
        simp only [view,View.step,present,gone,expired,if_false,shown_set,shown_asking]
  · rw [if_neg same]
    have before : tokenOf (s.calls call) ≠ some token := by simp [pc,tokenOf]
    rcases lookup_cases mode ran with ⟨entry,_,_,rfl,rfl⟩ | ⟨left,rfl,rfl,_,kept,_⟩
    · have hidden := shown_set_hidden token s.calls call (.returned found s.clock entry.isValid) before
        (by simpa [tokenOf] using same)
      simp only [view,hidden]
    · have hidden := shown_set_hidden token s.calls call (.asking found s.clock) before
        (by simpa [tokenOf] using same)
      simp only [view,hidden,kept token (Ne.symm same)]

theorem view_reply (pc : s.calls call = .asking found asked) (answer : ApiReply)
    (log : List Event) (token : Text) (ttl : Int) :
    view token { s with
        calls := Function.update s.calls call (.answered found asked (client.validate answer)), log } =
      if found = token then (view token s).step client ttl token (.reply call answer)
      else view token s := by
  by_cases same : found = token
  · subst same
    have own : shown found (s.calls call) = .asking found asked := by simp [pc]
    rw [if_pos rfl]
    simp only [view,View.step,own,shown_set,shown_answered]
  · rw [if_neg same]
    have hidden := shown_set_hidden token s.calls call
      (.answered found asked (client.validate answer)) (by simpa [pc,tokenOf] using same)
      (by simpa [tokenOf] using same)
    simp only [view,hidden]

theorem view_conclude (mode : ApiMode ttl s.manager) (pc : s.calls call = .answered found asked result)
    (ran : conclude s.manager found result s.clock = (after,accepted)) (log : List Event)
    (token : Text) :
    view token { s with
        manager := after, calls := Function.update s.calls call (.returned found asked accepted), log } =
      if found = token then (view token s).step client ttl token (.conclude call)
      else view token s := by
  by_cases same : found = token
  · subst same
    have own : shown found (s.calls call) = .answered found asked result := by simp [pc]
    rw [if_pos rfl]
    rcases conclude_cases ran with ⟨rfl,rfl,rfl⟩ | ⟨known,rfl,rfl⟩
    · simp only [view,View.step,own,shown_set,shown_returned]
    · cases result with
      | apiUnavailable => exact absurd rfl known
      | allowed | denied =>
        simp only [view,View.step,own,shown_set,shown_returned,lookup_put_same,mode.ttl]
  · rw [if_neg same]
    have hidden := shown_set_hidden token s.calls call (.returned found asked accepted)
      (by simpa [pc,tokenOf] using same) (by simpa [tokenOf] using same)
    rcases conclude_cases ran with ⟨rfl,rfl,rfl⟩ | ⟨_,rfl,rfl⟩
    · simp only [view,hidden]
    · simp only [view,hidden,lookup_put_other _ _ _ _ (Ne.symm same)]

theorem view_step (mode : ApiMode ttl s.manager) (step : Step client s action next) (token : Text) :
    view token next =
      if concerns token s action then (view token s).step client ttl token action else view token s := by
  cases step with
  | tick => rfl
  | start pc ran =>
    rw [view_start client mode pc ran]
    simp [concerns]
  | reply pc =>
    rw [view_reply client pc _ _ token ttl]
    simp [concerns,pc,tokenOf]
  | conclude pc ran =>
    rw [view_conclude client mode pc ran]
    simp [concerns,pc,tokenOf]

-- Along any run a token sees its own steps only.
def ownActions (token : Text) (trace : List (State × Action)) : List Action :=
  (trace.filter fun entry => concerns token entry.1 entry.2).map Prod.snd

theorem runs_view (static : config.staticToken = []) (api : config.apiBaseUrl ≠ [])
    (path : Runs client (initial config now) trace s) (token : Text) :
    view token s = (ownActions token trace).foldl
      (fun v action => v.step client config.cacheTtlSeconds token action)
      (view token (initial config now)) := by
  induction path with
  | nil => rfl
  | @step trace middle action after prior one ih =>
    have mode := (runs_sound client static api prior).mode
    rw [view_step client mode one token,ih]
    simp only [ownActions,List.filter_append,List.map_append,List.foldl_append]
    split
    · rename_i concerned
      simp [concerned]
    · rename_i elsewhere
      simp [elsewhere]

-- With the API in charge: every grant goes back to an Allowed of the API for the
-- same token, an unavailable API denies and stores nothing, and what a token's
-- calls return is the same in any two runs that agree on that token's steps.
theorem api_auth_sound (static : config.staticToken = []) (api : config.apiBaseUrl ≠ [])
    (path : Runs client (initial config now) trace s) :
    (∀ before call token asked after, s.log = before ++ .returned call token asked true :: after →
      .answered call token .allowed ∈ before ∨
      ∃ other time, latestStore before token = some (other,true,time) ∧
        asked - time < seconds config.cacheTtlSeconds ∧ .answered other token .allowed ∈ before) ∧
    (∀ call token, .answered call token .apiUnavailable ∈ s.log →
      ∀ found asked accepted, .returned call found asked accepted ∈ s.log → accepted = false) ∧
    (∀ call token asked action next, s.calls call = .answered token asked .apiUnavailable →
      Step client s action next → action = .conclude call →
      next.manager = s.manager ∧ next.calls call = .returned token asked false) ∧
    (∀ call answer next, Step client s (.reply call answer) next → next.manager = s.manager) ∧
    ∀ token otherTrace other, Runs client (initial config now) otherTrace other →
      ownActions token otherTrace = ownActions token trace →
      ∀ call, shown token (other.calls call) = shown token (s.calls call) := by
  have sound := runs_sound client static api path
  have allowed {log : List Event} {call : Nat} {token : Text} (backed : Backed log call token true) :
      .answered call token .allowed ∈ log := by
    obtain ⟨result,present,same⟩ := backed
    cases result with
    | allowed => exact present
    | denied | apiUnavailable => cases same
  refine ⟨?_,?_,?_,?_,?_⟩
  · intro before call token asked after split
    rcases sound.granted before _ after split with own | ⟨_,other,time,latest,recent,backed⟩
    · exact .inl (allowed own)
    · exact .inr ⟨other,time,latest,recent,allowed backed⟩
  · intro call token unavailable found asked accepted returned
    have pc := sound.tracked.results call found asked accepted returned
    obtain ⟨_,answered | same⟩ := sound.tracked.single call token .apiUnavailable unavailable
    · cases pc.symm.trans answered
    · cases pc.symm.trans same; rfl
  · intro call token asked action next pc step concluding
    subst concluding
    cases step with
    | conclude found ran =>
      cases pc.symm.trans found
      cases ran
      exact ⟨rfl,Function.update_self _ _ _⟩
  · intro call answer next step
    cases step with
    | reply pc => rfl
  · intro token otherTrace other another same call
    have views : view token other = view token s := by
      rw [runs_view client static api another,runs_view client static api path,same]
    exact congrFun (congrArg View.calls views) call

def activeClient : ApiAuthClient := ⟨true,fun _ => some (.object [("is_active",.bool true)])⟩

def apiConfig : ApiAuthConfig := ⟨bytes "http://auth",300,[]⟩

-- Two calls for one key, the second a second after the first was stored.
def cachedSchedule : List Action :=
  [.start 0 [107],.reply 0 (.responded 200 []),.conclude 0,.tick 1000000000,.start 1 [107]]

theorem api_auth_sound_cached : ∃ trace s before, trace.map Prod.snd = cachedSchedule ∧
    Runs activeClient (initial apiConfig 0) trace s ∧
    s.log = before ++ [.returned 1 [107] 1000000000 true] ∧
    (.answered 1 [107] .allowed ∈ before ∨
      ∃ other time, latestStore before [107] = some (other,true,time) ∧
        1000000000 - time < seconds 300 ∧ .answered other [107] .allowed ∈ before) := by
  obtain ⟨s,ran,logged⟩ : ∃ s, Machine.replay (advance activeClient) (fun _ _ => true)
      (initial apiConfig 0) cachedSchedule = some s ∧
      s.log = [.answered 0 [107] .allowed,.stored 0 [107] true 0,.returned 0 [107] 0 true] ++
        [.returned 1 [107] 1000000000 true] := ⟨_,rfl,rfl⟩
  obtain ⟨trace,same,path,_⟩ := Machine.replay_sound (advance_sound activeClient) ran
  exact ⟨trace,s,_,same,path,logged,
    (api_auth_sound activeClient rfl (by decide) path).1 _ 1 [107] 1000000000 [] logged⟩

end JotaTranscriber.AuthValidation

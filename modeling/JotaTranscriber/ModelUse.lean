import JotaTranscriber.CacheLifetime
import JotaTranscriber.ModelReferences
import JotaTranscriber.RequestOrder

-- The model cache among all that use it: sessions and HTTP requests.
namespace JotaTranscriber.ModelUse
open StreamingSession CacheLifetime ModelReferences

inductive Owner where
  | session (i : Nat)
  | request (call : Nat)
  deriving DecidableEq, Repr

-- What an owner has still to do with the cache: for a request with the loading
-- of the model as it will turn out.
inductive Work where
  | acquire (loads : Bool)
  | use
  | release
  deriving DecidableEq, Repr

def effectWork (world : HttpWorld) : HttpEffect → Option Work
  | .acquireModel => some (.acquire (RequestOrder.loads world))
  | .infer => some .use
  | .releaseModel => some .release
  | _ => none

def requestWork (world : HttpWorld) (effects : List HttpEffect) : List Work :=
  effects.filterMap (effectWork world)

-- releaseModel() destroys the engine and then calls ModelCache::release().
def sessionWork (s : SessionMachine.State) : SessionMachine.Action → List Work
  | .release | .destroyRelease => if s.session.modelAcquired then [.release] else []
  | _ => []

-- The clock and the flush thread do not wait for the receive thread.
def concurrent : SessionMachine.Action → Bool
  | .tick _ => true
  | action => SessionMachine.flushes action

def asks : SessionMachine.Action → Bool
  | .acquire _ | .acquireFails _ => true
  | _ => false

-- The context of the engine that a config constructs.
def built (s : SessionMachine.State) (action : SessionMachine.Action) (before : Option Nat) : Option Nat :=
  match action,s.receiver with
  | .install,.configuring ctx => some ctx
  | _,_ => before

-- `book` has an entry for each reference that was taken and not given back;
-- `engines` and `requests` are the contexts in use.
structure State where
  cache : CacheMachine.State
  book : List (Owner × Nat)
  sessions : Nat → SessionMachine.State
  engines : Nat → Option Nat
  requests : Nat → Option Nat
  pending : Owner → List Work

inductive Action where
  | session (i : Nat) (action : SessionMachine.Action)
  | request (call : Nat) (request : HttpRequest) (config : ServerConfig) (auth : Option AuthManager)
      (world : HttpWorld)
  | load (call : Nat)
  | use (call : Nat)
  | release (owner : Owner)
  | cache (action : CacheMachine.Action)

def background : CacheMachine.Action → Bool
  | .acquire .. | .release _ | .forceUnload => false
  | _ => true

variable (settings : Nat → SessionParams) (modelPath : Text)

-- What acquire() hands out, if whisper can load the file or cannot.
def handed (s : State) (loads : Bool) : Option Nat :=
  (s.cache.cache.acquire modelPath (if loads then some s.cache.nextCtx else none)).ctx

inductive Step : State → Action → State → Prop where
  | session (ready : concurrent action = true ∨ s.pending (.session i) = [])
      (other : asks action = false) (one : SessionMachine.Step (settings i) (s.sessions i) action next) :
      Step s (.session i action) { s with
        sessions := Function.update s.sessions i next
        engines := Function.update s.engines i (built (s.sessions i) action (s.engines i))
        pending := Function.update s.pending (.session i)
          (s.pending (.session i) ++ sessionWork (s.sessions i) action) }
  | acquire (given : handed modelPath s true = some ctx)
      (one : SessionMachine.Step (settings i) (s.sessions i) (.acquire ctx) next) :
      Step s (.session i (.acquire ctx)) { s with
        cache := CacheMachine.apply s.cache (.acquire modelPath true)
        book := s.book ++ [(.session i,ctx)]
        sessions := Function.update s.sessions i next }
  | acquireFails (refused : handed modelPath s false = none)
      (one : SessionMachine.Step (settings i) (s.sessions i) (.acquireFails what) next) :
      Step s (.session i (.acquireFails what)) { s with
        cache := CacheMachine.apply s.cache (.acquire modelPath false)
        sessions := Function.update s.sessions i next }
  | request (ready : s.pending (.request call) = []) :
      Step s (.request call request config auth world) { s with
        pending := Function.update s.pending (.request call)
          (requestWork world (HandleTranscribe.handle request config auth world).effects) }
  | load (head : s.pending (.request call) = .acquire true :: rest)
      (given : handed modelPath s true = some ctx) :
      Step s (.load call) { s with
        cache := CacheMachine.apply s.cache (.acquire modelPath true)
        book := s.book ++ [(.request call,ctx)]
        requests := Function.update s.requests call (some ctx)
        pending := Function.update s.pending (.request call) rest }
  | loadFails (head : s.pending (.request call) = .acquire false :: rest)
      (refused : handed modelPath s false = none) :
      Step s (.load call) { s with
        cache := CacheMachine.apply s.cache (.acquire modelPath false)
        pending := Function.update s.pending (.request call) rest }
  | use (head : s.pending (.request call) = .use :: rest) :
      Step s (.use call) { s with pending := Function.update s.pending (.request call) rest }
  | release (head : s.pending owner = .release :: rest) (booked : (owner,ctx) ∈ s.book) :
      Step s (.release owner) { s with
        cache := CacheMachine.apply s.cache (.release ctx)
        book := s.book.erase (owner,ctx)
        pending := Function.update s.pending owner rest }
  | cache (alone : background action = true) (one : CacheMachine.Step s.cache action next) :
      Step s (.cache action) { s with cache := next }

abbrev Runs := Machine.Runs (Step settings modelPath)

-- The step relation as a function, so that a schedule can be replayed. Of
-- several references an owner gives back the first.
def advance (s : State) : Action → Option State
  | .session i (.acquire ctx) =>
    if handed modelPath s true = some ctx then
      (SessionMachine.advance (settings i) (s.sessions i) (.acquire ctx)).map fun next => { s with
        cache := CacheMachine.apply s.cache (.acquire modelPath true)
        book := s.book ++ [(.session i,ctx)]
        sessions := Function.update s.sessions i next }
    else none
  | .session i (.acquireFails what) =>
    if handed modelPath s false = none then
      (SessionMachine.advance (settings i) (s.sessions i) (.acquireFails what)).map fun next => { s with
        cache := CacheMachine.apply s.cache (.acquire modelPath false)
        sessions := Function.update s.sessions i next }
    else none
  | .session i action =>
    if concurrent action = true ∨ s.pending (.session i) = [] then
      (SessionMachine.advance (settings i) (s.sessions i) action).map fun next => { s with
        sessions := Function.update s.sessions i next
        engines := Function.update s.engines i (built (s.sessions i) action (s.engines i))
        pending := Function.update s.pending (.session i)
          (s.pending (.session i) ++ sessionWork (s.sessions i) action) }
    else none
  | .request call request config auth world =>
    if s.pending (.request call) = [] then some { s with
      pending := Function.update s.pending (.request call)
        (requestWork world (HandleTranscribe.handle request config auth world).effects) }
    else none
  | .load call =>
    match s.pending (.request call) with
    | .acquire loads :: rest =>
      match loads,handed modelPath s loads with
      | true,some ctx => some { s with
          cache := CacheMachine.apply s.cache (.acquire modelPath true)
          book := s.book ++ [(.request call,ctx)]
          requests := Function.update s.requests call (some ctx)
          pending := Function.update s.pending (.request call) rest }
      | false,none => some { s with
          cache := CacheMachine.apply s.cache (.acquire modelPath false)
          pending := Function.update s.pending (.request call) rest }
      | _,_ => none
    | _ => none
  | .use call =>
    match s.pending (.request call) with
    | .use :: rest => some { s with pending := Function.update s.pending (.request call) rest }
    | _ => none
  | .release owner =>
    match s.pending owner,s.book.find? fun entry => decide (entry.1 = owner) with
    | .release :: rest,some entry => some { s with
        cache := CacheMachine.apply s.cache (.release entry.2)
        book := s.book.erase (owner,entry.2)
        pending := Function.update s.pending owner rest }
    | _,_ => none
  | .cache action =>
    if background action then (CacheMachine.advance s.cache action).map fun next => { s with cache := next }
    else none

theorem advance_session (other : asks action = false)
    (ran : advance settings modelPath s (.session i action) = some next) :
    Step settings modelPath s (.session i action) next := by
  have plain : advance settings modelPath s (.session i action) =
      if concurrent action = true ∨ s.pending (.session i) = [] then
        (SessionMachine.advance (settings i) (s.sessions i) action).map fun next => { s with
          sessions := Function.update s.sessions i next
          engines := Function.update s.engines i (built (s.sessions i) action (s.engines i))
          pending := Function.update s.pending (.session i)
            (s.pending (.session i) ++ sessionWork (s.sessions i) action) }
      else none := by
    cases action with
    | acquire | acquireFails => cases other
    | _ => rfl
  rw [plain] at ran
  split at ran
  · rename_i ready
    obtain ⟨after,moved,rfl⟩ := Option.map_eq_some_iff.mp ran
    exact .session ready other ((SessionMachine.advance_exact _).mp moved)
  · cases ran

theorem advance_sound (ran : advance settings modelPath s action = some next) :
    Step settings modelPath s action next := by
  cases action with
  | session i action =>
    cases action with
    | acquire ctx =>
      simp only [advance] at ran
      split at ran
      · rename_i given
        obtain ⟨after,moved,rfl⟩ := Option.map_eq_some_iff.mp ran
        exact .acquire given ((SessionMachine.advance_exact _).mp moved)
      · cases ran
    | acquireFails what =>
      simp only [advance] at ran
      split at ran
      · rename_i refused
        obtain ⟨after,moved,rfl⟩ := Option.map_eq_some_iff.mp ran
        exact .acquireFails refused ((SessionMachine.advance_exact _).mp moved)
      · cases ran
    | _ => exact advance_session settings modelPath rfl ran
  | request =>
    simp only [advance] at ran
    split at ran
    · rename_i ready
      cases ran
      exact .request ready
    · cases ran
  | load =>
    simp only [advance] at ran
    split at ran
    · rename_i loads rest head
      split at ran
      · rename_i ctx given
        cases ran
        exact .load head given
      · rename_i refused
        cases ran
        exact .loadFails head refused
      · cases ran
    · cases ran
  | use =>
    simp only [advance] at ran
    split at ran
    · rename_i head
      cases ran
      exact .use head
    · cases ran
  | release owner =>
    simp only [advance] at ran
    split at ran
    · rename_i rest entry head found
      cases ran
      have mine : entry.1 = owner := by simpa using List.find?_some found
      have booked := List.mem_of_find?_eq_some found
      refine .release head ?_
      rw [← mine]
      exact booked
    · cases ran
  | cache action =>
    simp only [advance] at ran
    split at ran
    · rename_i alone
      obtain ⟨after,moved,rfl⟩ := Option.map_eq_some_iff.mp ran
      exact .cache alone (CacheMachine.advance_exact.mp moved)
    · cases ran

def initial (ttlSeconds : Int) (start : Instant) (now : Nat → Instant) : State :=
  ⟨CacheMachine.initial ttlSeconds start,[],fun i => SessionMachine.initial (now i),fun _ => none,
    fun _ => none,fun _ => []⟩

def entries (owner : Owner) (book : List (Owner × Nat)) : List Nat :=
  (book.filter fun entry => decide (entry.1 = owner)).map Prod.snd

theorem mem_entries : ctx ∈ entries owner book ↔ (owner,ctx) ∈ book := by
  simp [entries]

theorem entries_take (owner taker : Owner) (book : List (Owner × Nat)) (ctx : Nat) :
    entries owner (book ++ [(taker,ctx)]) = entries owner book ++ if taker = owner then [ctx] else [] := by
  unfold entries
  rw [List.filter_append,List.map_append]
  by_cases same : taker = owner <;> simp [same]

theorem entries_drop_other (other : giver ≠ owner) (book : List (Owner × Nat)) (ctx : Nat) :
    entries owner (book.erase (giver,ctx)) = entries owner book := by
  induction book with
  | nil => rfl
  | cons entry rest ih =>
    by_cases first : entry = (giver,ctx)
    · subst first
      simp [entries,other]
    · rw [List.erase_cons_tail (by simpa using first)]
      unfold entries at ih ⊢
      simp only [List.filter_cons]
      split
      · rw [List.map_cons,List.map_cons,ih]
      · exact ih

theorem entries_drop_self (booked : (owner,ctx) ∈ book) :
    (entries owner (book.erase (owner,ctx))).length + 1 = (entries owner book).length := by
  have kept := (List.perm_cons_erase booked).filter fun entry => decide (entry.1 = owner)
  have counted := kept.length_eq
  simp only [List.filter_cons,decide_true,if_true,List.length_cons] at counted
  simpa [entries] using counted.symm

theorem holders_drop {book : List (Owner × Nat)} (booked : (owner,ctx) ∈ book) (same : (book.map Prod.snd).Perm holders) :
    ctx ∈ holders ∧ ((book.erase (owner,ctx)).map Prod.snd).Perm (holders.erase ctx) := by
  have taken : (book.map Prod.snd).Perm (ctx :: (book.erase (owner,ctx)).map Prod.snd) :=
    (List.perm_cons_erase booked).map Prod.snd
  have present : ctx ∈ holders := same.mem_iff.mp (taken.mem_iff.mpr List.mem_cons_self)
  refine ⟨present,List.Perm.cons_inv (a := ctx) ?_⟩
  exact taken.symm.trans (same.trans (List.perm_cons_erase present))

-- A request's work in order: it holds the model from an acquire that loads it
-- to the release.
def settle : Bool → List Work → Option Bool
  | held,[] => some held
  | false,.acquire loads :: rest => settle loads rest
  | true,.use :: rest => settle true rest
  | true,.release :: rest => settle false rest
  | _,_ => none

theorem permit_settles (before : p.model = true → p.asked = true)
    (permitted : RequestOrder.permit request config auth world p effect = some next) :
    (next.model = true → next.asked = true) ∧
      ∀ later, settle p.model ((effectWork world effect).toList ++ later) = settle next.model later := by
  cases effect with
  | validate | decode | vad | takeSlot | releaseSlot | send =>
    simp only [RequestOrder.permit,Option.ite_none_right_eq_some,Option.some.injEq] at permitted
    obtain ⟨_,rfl⟩ := permitted
    exact ⟨before,fun _ => rfl⟩
  | acquireModel =>
    simp only [RequestOrder.permit,Option.ite_none_right_eq_some,Option.some.injEq,Bool.and_eq_true,
      Bool.not_eq_true'] at permitted
    obtain ⟨⟨⟨_,unasked⟩,_⟩,rfl⟩ := permitted
    have unheld : p.model = false := by
      rw [← Bool.not_eq_true]
      intro held
      rw [before held] at unasked
      cases unasked
    rw [unheld]
    exact ⟨fun _ => rfl,fun _ => rfl⟩
  | infer =>
    simp only [RequestOrder.permit,Option.ite_none_right_eq_some,Option.some.injEq,Bool.and_eq_true] at permitted
    obtain ⟨⟨⟨⟨held,_⟩,_⟩,_⟩,rfl⟩ := permitted
    dsimp only
    rw [held]
    exact ⟨fun _ => before held,fun _ => rfl⟩
  | releaseModel =>
    simp only [RequestOrder.permit,Option.ite_none_right_eq_some,Option.some.injEq,Bool.and_eq_true] at permitted
    obtain ⟨⟨held,_⟩,rfl⟩ := permitted
    rw [held]
    refine ⟨fun again => ?_,fun _ => rfl⟩
    cases again

theorem work_settles (before : p.model = true → p.asked = true)
    (ran : Effects.follow (RequestOrder.permit request config auth world) p effects = some done) :
    settle p.model (requestWork world effects) = some done.model := by
  induction effects generalizing p with
  | nil => cases ran; cases done.model <;> rfl
  | cons effect rest ih =>
    obtain ⟨next,permitted,later⟩ := Option.bind_eq_some_iff.mp ran
    obtain ⟨kept,settled⟩ := permit_settles before permitted
    have unfolded : requestWork world (effect :: rest) =
        (effectWork world effect).toList ++ requestWork world rest := by
      unfold requestWork
      cases found : effectWork world effect <;> simp [found]
    rw [unfolded,settled]
    exact ih kept later

theorem handle_settles (request : HttpRequest) (config : ServerConfig) (auth : Option AuthManager)
    (world : HttpWorld) :
    settle false (requestWork world (HandleTranscribe.handle request config auth world).effects) =
      some false := by
  obtain ⟨done,ran,ended⟩ :=
    (RequestOrder.handle_spec request auth : RequestOrder.Spec request config auth world _ _ _ _)
      RequestOrder.start rfl
  have settled := work_settles (p := RequestOrder.start) (fun impossible => by cases impossible) ran
  have freed : done.model = false := by
    revert ended
    cases (HandleTranscribe.handle request config auth world).result <;> exact fun ended => ended.1
  rw [freed] at settled
  exact settled

section Session
open SessionMachine
variable {params : SessionParams} {state after : SessionMachine.State} {act : SessionMachine.Action}

theorem released_work (move : Move params state act after) :
    released after.log = released state.log + (sessionWork state act).length := by
  have given {ended : StreamingSession} {events : List JotaTranscriber.Event}
      (ran : state.session.releaseModel = (ended,events)) :
      released (state.log ++ events) =
        released state.log + (if state.session.modelAcquired then [Work.release] else []).length := by
    rcases releaseModel_cases ran with ⟨held,rfl,_⟩ | ⟨unheld,rfl,_⟩
    · simp [released,held]
    · simp [released,unheld]
  have kept (silent : ∀ event, logs event act = true → (event == .released) = false)
      (nothing : sessionWork state act = []) :
      released after.log = released state.log + (sessionWork state act).length := by
    rw [nothing]
    exact countP_step params move (· == .released) silent
  cases move with
  | release _ ran => exact given ran
  | destroyRelease _ ran => exact given ran
  | _ => exact kept (fun event logged => by cases event <;> first | rfl | cases logged) rfl

theorem flagged_preserved
    (before : state.session.engine.isSome = true → state.session.modelAcquired = true)
    (move : Move params state act after) :
    after.session.engine.isSome = true → after.session.modelAcquired = true := by
  intro present
  rcases session_step params move with frame | ⟨_,installed,_⟩ | ⟨_,failed,_⟩ | ⟨emptied,_⟩
  · have same := congrArg Option.isSome frame.engine
    rw [Option.isSome_map,Option.isSome_map] at same
    rw [frame.modelAcquired]
    exact before (same.symm.trans present)
  · rw [installed]; rfl
  · rw [failed]; rfl
  · rcases ran : state.session.releaseModel with ⟨ended,events⟩
    rw [emptied,ran] at present ⊢
    rcases releaseModel_cases ran with ⟨_,_,rfl⟩ | ⟨_,_,rfl⟩
    · cases present
    · exact before present

theorem runs_flagged (path : SessionMachine.Runs params (SessionMachine.initial now) trace state) :
    state.session.engine.isSome = true → state.session.modelAcquired = true :=
  path.invariant
    (I := fun state => state.session.engine.isSome = true → state.session.modelAcquired = true)
    (fun present => by cases present) (fun before one => flagged_preserved before one.2)

theorem engine_origin (move : Move params state act after) (other : act ≠ .install)
    (present : after.session.engine.isSome = true) : state.session.engine.isSome = true := by
  rcases session_step params move with frame | ⟨installs,_⟩ | ⟨_,failed,_⟩ | ⟨emptied,_⟩
  · have same := congrArg Option.isSome frame.engine
    rw [Option.isSome_map,Option.isSome_map] at same
    exact same.symm.trans present
  · exact absurd installs other
  · rw [failed] at present; exact present
  · rcases ran : state.session.releaseModel with ⟨ended,events⟩
    rw [emptied,ran] at present
    rcases releaseModel_cases ran with ⟨_,_,rfl⟩ | ⟨_,_,rfl⟩
    · cases present
    · exact present

theorem configuring_origin (move : Move params state act after) (pc : after.receiver = .configuring ctx)
    (other : asks act = false) : state.receiver = .configuring ctx := by
  cases move with
  | acquire => cases other
  | tick | wake | exit | tryLockFails | cycle | flushSend | relock => exact pc
  | text _ _ ran =>
    rcases handleJsonMessage_cases ran with ⟨_,_,_,_,rfl,_⟩ | ⟨_,_,rfl,_⟩ | ⟨_,rfl,_⟩ | ⟨_,rfl⟩
    all_goals cases pc
  | binary _ _ ran =>
    obtain ⟨_,_,_,⟨_,rfl | rfl | ⟨rfl,_⟩⟩ | ⟨_,_,messages,_,rfl⟩⟩ := handleBinaryMessage_cases ran
    · cases pc
    · cases pc
    · cases pc
    · have answers := answering_sendThen messages .read
      rw [show sendThen messages .read = _ from pc] at answers
      cases answers
  | send =>
    have answers := answering_sendThen ‹_› ‹_›
    rw [show sendThen _ _ = _ from pc] at answers
    cases answers
  | close =>
    have answers := answering_afterClose ‹_› ‹_›
    rw [show afterClose _ _ = _ from pc] at answers
    cases answers
  | finalPass _ ran =>
    rcases handleEnd_cases ran with ⟨_,rfl,_⟩ | ⟨_,_,_,_,_,_,rfl⟩
    all_goals cases pc
  | accept | acceptFails | readFails | acquireFails | install | installFails | join | release | destroy
  | destroyJoin | destroyRelease => cases pc

structure Lent (state : SessionMachine.State) (context : Option Nat) (owned : List Nat)
    (pending : List Work) : Prop where
  counted : owned.length + released state.log = acquired state.log + pending.length
  owed : pending = [] ∨ pending = [.release] ∧ stage state.receiver = .gone
  engine : state.session.engine.isSome = true → ∃ ctx ∈ owned, context = some ctx
  configuring : ∀ ctx, state.receiver = .configuring ctx → ctx ∈ owned

theorem sessionWork_cases (move : Move params state act after) :
    sessionWork state act = [] ∨
      sessionWork state act = [.release] ∧ concurrent act = false ∧ stage after.receiver = .gone := by
  cases move with
  | release | destroyRelease =>
    simp only [sessionWork]
    split
    · exact .inr ⟨rfl,rfl,rfl⟩
    · exact .inl rfl
  | _ => exact .inl rfl

theorem concurrent_receiver (move : Move params state act after) (apart : concurrent act = true) :
    after.receiver = state.receiver ∧ sessionWork state act = [] := by
  cases move with
  | tick | wake | exit | tryLockFails | cycle | flushSend | relock => exact ⟨rfl,rfl⟩
  | _ => cases apart

theorem Lent.step (lent : Lent state context owned pending) (move : Move params state act after)
    (ready : concurrent act = true ∨ pending = []) (other : asks act = false) :
    Lent after (built state act context) owned (pending ++ sessionWork state act) := by
  have taken : acquired after.log = acquired state.log := by
    rw [acquired_step move,show isAcquire act = false by cases act <;> first | rfl | cases other]
    rfl
  refine ⟨?_,?_,?_,?_⟩
  · have counted := lent.counted
    rw [taken,released_work move,List.length_append]
    omega
  · rcases ready with apart | nothing
    · obtain ⟨same,idle⟩ := concurrent_receiver move apart
      rw [idle,List.append_nil,same]
      exact lent.owed
    · rw [nothing,List.nil_append]
      rcases sessionWork_cases move with idle | ⟨gives,_,gone⟩
      · exact .inl idle
      · exact .inr ⟨gives,gone⟩
  · intro present
    by_cases installs : act = .install
    · subst installs
      cases move with
      | install pc => exact ⟨_,lent.configuring _ pc,by simp [built,pc]⟩
    · obtain ⟨ctx,held,same⟩ := lent.engine (engine_origin move installs present)
      refine ⟨ctx,held,?_⟩
      cases act <;> first | exact same | exact absurd rfl installs
  · intro ctx pc
    exact lent.configuring ctx (configuring_origin move pc other)

theorem Lent.take (lent : Lent state context owned pending)
    (move : Move params state (.acquire ctx) after) : Lent after context (owned ++ [ctx]) pending := by
  have counted := lent.counted
  have owed := lent.owed
  have held := lent.engine
  cases move with
  | acquire pc =>
    refine ⟨?_,?_,?_,?_⟩
    · simp [released,acquired,isAcquired] at counted ⊢
      omega
    · rcases owed with nothing | ⟨_,gone⟩
      · exact .inl nothing
      · rw [pc] at gone; cases gone
    · intro present
      obtain ⟨found,member,same⟩ := held present
      exact ⟨found,List.mem_append_left _ member,same⟩
    · intro found same
      cases same
      exact List.mem_append_right _ (List.mem_singleton_self _)

theorem Lent.refused (lent : Lent state context owned pending)
    (move : Move params state (.acquireFails what) after) : Lent after context owned pending := by
  have owed := lent.owed
  cases move with
  | acquireFails pc =>
    refine ⟨lent.counted,?_,lent.engine,fun _ impossible => by cases impossible⟩
    rcases owed with nothing | ⟨_,gone⟩
    · exact .inl nothing
    · rw [pc] at gone; cases gone

-- The release that a session owes: its engine is gone by then, and it has a
-- reference to give back.
theorem Lent.give (lent : Lent state context owned (.release :: rest)) (counted : Counted state)
    (flagged : state.session.engine.isSome = true → state.session.modelAcquired = true) :
    rest = [] ∧ owned ≠ [] ∧
      ∀ fewer, fewer.length + 1 = owned.length → Lent state context fewer [] := by
  rcases lent.owed with nothing | ⟨single,gone⟩
  · cases nothing
  cases single
  simp only [Counted,gone] at counted
  obtain ⟨unheld,balance⟩ := counted
  have sum := lent.counted
  refine ⟨rfl,?_,?_⟩
  · rintro rfl
    simp only [List.length_nil,List.length_singleton] at sum
    omega
  · intro fewer shorter
    refine ⟨?_,.inl rfl,?_,?_⟩
    · simp only [List.length_nil,List.length_singleton] at sum ⊢
      omega
    · intro present
      rw [flagged present] at unheld
      cases unheld
    · intro ctx pc
      rw [pc] at gone
      cases gone

end Session

structure Borrowed (given : Option Nat) (owned : List Nat) (pending : List Work) : Prop where
  settled : settle (!owned.isEmpty) pending = some false
  single : owned = [] ∨ ∃ ctx, given = some ctx ∧ owned = [ctx]

theorem Borrowed.idle (borrowed : Borrowed given owned []) : owned = [] := by
  have settled := borrowed.settled
  cases owned with
  | nil => rfl
  | cons ctx rest => cases settled

theorem Borrowed.acquiring (borrowed : Borrowed given owned (.acquire loads :: rest)) :
    owned = [] ∧ settle loads rest = some false := by
  have settled := borrowed.settled
  cases owned with
  | nil => exact ⟨rfl,settled⟩
  | cons ctx others => cases settled

theorem Borrowed.using (borrowed : Borrowed given owned (.use :: rest)) :
    ∃ ctx, given = some ctx ∧ owned = [ctx] ∧ Borrowed given owned rest := by
  have settled := borrowed.settled
  rcases borrowed.single with rfl | ⟨ctx,same,rfl⟩
  · cases settled
  · exact ⟨ctx,same,rfl,settled,.inr ⟨ctx,same,rfl⟩⟩

theorem Borrowed.releasing (borrowed : Borrowed given owned (.release :: rest)) :
    owned ≠ [] ∧ ∀ fewer, fewer.length + 1 = owned.length → Borrowed given fewer rest := by
  have settled := borrowed.settled
  rcases borrowed.single with rfl | ⟨ctx,same,rfl⟩
  · cases settled
  · refine ⟨List.cons_ne_nil _ _,?_⟩
    intro fewer shorter
    obtain rfl : fewer = [] := List.eq_nil_of_length_eq_zero (Nat.succ.inj shorter)
    exact ⟨settled,.inl rfl⟩

structure Valid (s : State) : Prop where
  sound : Sound modelPath s.cache
  booked : (s.book.map Prod.snd).Perm s.cache.holders
  reached : ∀ i, ∃ now trace,
    SessionMachine.Runs (settings i) (SessionMachine.initial now) trace (s.sessions i)
  session : ∀ i, Lent (s.sessions i) (s.engines i) (entries (.session i) s.book) (s.pending (.session i))
  request : ∀ call,
    Borrowed (s.requests call) (entries (.request call) s.book) (s.pending (.request call))

theorem initial_valid (ttlSeconds : Int) (start : Instant) (now : Nat → Instant) :
    Valid settings modelPath (initial ttlSeconds start now) where
  sound := initial_sound modelPath ttlSeconds start
  booked := .refl _
  reached := fun i => ⟨now i,[],.nil⟩
  session := fun _ => ⟨rfl,.inl rfl,nofun,nofun⟩
  request := fun _ => ⟨rfl,.inl rfl⟩

variable {settings modelPath}

theorem handed_sound (sound : Sound modelPath s.cache) (loads : Bool)
    (answer : handed modelPath s loads = given) :
    Sound modelPath (CacheMachine.apply s.cache (.acquire modelPath loads)) ∧
      (CacheMachine.apply s.cache (.acquire modelPath loads)).holders = s.cache.holders ++ given.toList := by
  refine ⟨sound_preserved sound (by simp [ordinary]) ⟨rfl,rfl⟩,?_⟩
  rw [← answer]
  rfl

theorem booked_take {s : State} (booked : (s.book.map Prod.snd).Perm s.cache.holders) (owner : Owner) (ctx : Nat) :
    ((s.book ++ [(owner,ctx)]).map Prod.snd).Perm (s.cache.holders ++ [ctx]) := by
  rw [List.map_append]
  exact booked.append (.refl [ctx])

theorem reached_step {s : State} (reached : ∀ i, ∃ now trace,
      SessionMachine.Runs (settings i) (SessionMachine.initial now) trace (s.sessions i))
    (one : SessionMachine.Step (settings j) (s.sessions j) act next) :
    ∀ i, ∃ now trace, SessionMachine.Runs (settings i) (SessionMachine.initial now) trace
      (Function.update s.sessions j next i) := by
  intro i
  by_cases same : i = j
  · subst same
    obtain ⟨now,trace,path⟩ := reached i
    rw [Function.update_self]
    exact ⟨now,_,path.step one⟩
  · rw [Function.update_of_ne same]
    exact reached i

theorem valid_session (valid : Valid settings modelPath s)
    (ready : concurrent act = true ∨ s.pending (.session j) = []) (other : asks act = false)
    (one : SessionMachine.Step (settings j) (s.sessions j) act next) :
    Valid settings modelPath { s with
      sessions := Function.update s.sessions j next
      engines := Function.update s.engines j (built (s.sessions j) act (s.engines j))
      pending := Function.update s.pending (.session j)
        (s.pending (.session j) ++ sessionWork (s.sessions j) act) } := by
  refine ⟨valid.sound,valid.booked,reached_step valid.reached one,?_,?_⟩
  · intro i
    by_cases same : i = j
    · subst same
      simp only [Function.update_self]
      exact (valid.session i).step one.2 ready other
    · have apart : Owner.session i ≠ .session j := fun equal => same (Owner.session.inj equal)
      simp only [Function.update_of_ne same,Function.update_of_ne apart]
      exact valid.session i
  · intro call
    have apart : Owner.request call ≠ .session j := nofun
    simp only [Function.update_of_ne apart]
    exact valid.request call

theorem valid_acquire (valid : Valid settings modelPath s) (given : handed modelPath s true = some ctx)
    (one : SessionMachine.Step (settings j) (s.sessions j) (.acquire ctx) next) :
    Valid settings modelPath { s with
      cache := CacheMachine.apply s.cache (.acquire modelPath true)
      book := s.book ++ [(.session j,ctx)]
      sessions := Function.update s.sessions j next } := by
  obtain ⟨sound,holders⟩ := handed_sound valid.sound true given
  refine ⟨sound,?_,reached_step valid.reached one,?_,?_⟩
  · rw [holders]; exact booked_take valid.booked _ ctx
  · intro i
    dsimp only
    rw [entries_take]
    by_cases same : i = j
    · subst same
      rw [Function.update_self,if_pos rfl]
      exact (valid.session i).take one.2
    · rw [Function.update_of_ne same,if_neg fun equal => same (Owner.session.inj equal).symm,List.append_nil]
      exact valid.session i
  · intro call
    dsimp only
    rw [entries_take,if_neg nofun,List.append_nil]
    exact valid.request call

theorem valid_acquireFails (valid : Valid settings modelPath s) (refused : handed modelPath s false = none)
    (one : SessionMachine.Step (settings j) (s.sessions j) (.acquireFails what) next) :
    Valid settings modelPath { s with
      cache := CacheMachine.apply s.cache (.acquire modelPath false)
      sessions := Function.update s.sessions j next } := by
  obtain ⟨sound,holders⟩ := handed_sound valid.sound false refused
  refine ⟨sound,?_,reached_step valid.reached one,?_,valid.request⟩
  · rw [holders,Option.toList_none,List.append_nil]; exact valid.booked
  · intro i
    by_cases same : i = j
    · subst same
      dsimp only
      rw [Function.update_self]
      exact (valid.session i).refused one.2
    · dsimp only
      rw [Function.update_of_ne same]
      exact valid.session i

theorem request_pending (valid : Valid settings modelPath s) (call : Nat) (rest : List Work)
    (requests : Nat → Option Nat) (book : List (Owner × Nat)) (others : ∀ owner, owner ≠ .request call → entries owner book = entries owner s.book)
    (given : ∀ other, other ≠ call → requests other = s.requests other)
    (own : Borrowed (requests call) (entries (.request call) book) rest) :
    (∀ i, Lent (s.sessions i) (s.engines i) (entries (.session i) book)
      (Function.update s.pending (.request call) rest (.session i))) ∧
    ∀ other, Borrowed (requests other) (entries (.request other) book)
      (Function.update s.pending (.request call) rest (.request other)) := by
  constructor
  · intro i
    have apart : Owner.session i ≠ .request call := nofun
    rw [Function.update_of_ne apart,others _ apart]
    exact valid.session i
  · intro other
    by_cases same : other = call
    · subst same
      rw [Function.update_self]
      exact own
    · have apart : Owner.request other ≠ .request call := fun equal => same (Owner.request.inj equal)
      rw [Function.update_of_ne apart,others _ apart,given _ same]
      exact valid.request other

theorem valid_load (valid : Valid settings modelPath s)
    (head : s.pending (.request call) = .acquire true :: rest)
    (given : handed modelPath s true = some ctx) :
    Valid settings modelPath { s with
      cache := CacheMachine.apply s.cache (.acquire modelPath true)
      book := s.book ++ [(.request call,ctx)]
      requests := Function.update s.requests call (some ctx)
      pending := Function.update s.pending (.request call) rest } := by
  obtain ⟨sound,holders⟩ := handed_sound valid.sound true given
  have borrowed := valid.request call
  rw [head] at borrowed
  obtain ⟨nothing,settled⟩ := borrowed.acquiring
  obtain ⟨sessions,requests⟩ := request_pending valid call rest
    (Function.update s.requests call (some ctx)) (s.book ++ [(.request call,ctx)])
    (fun owner apart => by rw [entries_take,if_neg apart.symm,List.append_nil])
    (fun other apart => Function.update_of_ne apart _ _)
    (by
      rw [entries_take,if_pos rfl,nothing,Function.update_self]
      exact ⟨settled,.inr ⟨ctx,rfl,rfl⟩⟩)
  refine ⟨sound,?_,valid.reached,sessions,requests⟩
  rw [holders]; exact booked_take valid.booked _ ctx

theorem valid_loadFails (valid : Valid settings modelPath s)
    (head : s.pending (.request call) = .acquire false :: rest)
    (refused : handed modelPath s false = none) :
    Valid settings modelPath { s with
      cache := CacheMachine.apply s.cache (.acquire modelPath false)
      pending := Function.update s.pending (.request call) rest } := by
  obtain ⟨sound,holders⟩ := handed_sound valid.sound false refused
  have borrowed := valid.request call
  rw [head] at borrowed
  obtain ⟨nothing,settled⟩ := borrowed.acquiring
  obtain ⟨sessions,requests⟩ := request_pending valid call rest s.requests s.book
    (fun _ _ => rfl) (fun _ _ => rfl) (by rw [nothing]; exact ⟨settled,.inl rfl⟩)
  refine ⟨sound,?_,valid.reached,sessions,requests⟩
  rw [holders,Option.toList_none,List.append_nil]; exact valid.booked

theorem valid_pending (valid : Valid settings modelPath s)
    (own : Borrowed (s.requests call) (entries (.request call) s.book) rest) :
    Valid settings modelPath { s with pending := Function.update s.pending (.request call) rest } := by
  obtain ⟨sessions,requests⟩ := request_pending valid call rest s.requests s.book (fun _ _ => rfl)
    (fun _ _ => rfl) own
  exact ⟨valid.sound,valid.booked,valid.reached,sessions,requests⟩

theorem valid_release (valid : Valid settings modelPath s) (head : s.pending owner = .release :: rest)
    (booked : (owner,ctx) ∈ s.book) :
    Valid settings modelPath { s with
      cache := CacheMachine.apply s.cache (.release ctx)
      book := s.book.erase (owner,ctx)
      pending := Function.update s.pending owner rest } := by
  obtain ⟨present,dropped⟩ := holders_drop booked valid.booked
  have sound : Sound modelPath (CacheMachine.apply s.cache (.release ctx)) :=
    sound_preserved valid.sound rfl ⟨by simp [CacheMachine.allowed,present],rfl⟩
  have shorter := entries_drop_self booked
  refine ⟨sound,dropped,valid.reached,?_,?_⟩
  · intro i
    by_cases same : Owner.session i = owner
    · subst same
      have lent := valid.session i
      rw [head] at lent
      obtain ⟨now,trace,path⟩ := valid.reached i
      obtain ⟨rfl,_,given⟩ := lent.give (runs_counted path) (runs_flagged path)
      dsimp only
      rw [Function.update_self]
      exact given _ shorter
    · dsimp only
      rw [Function.update_of_ne same,entries_drop_other (Ne.symm same)]
      exact valid.session i
  · intro call
    by_cases same : Owner.request call = owner
    · subst same
      have borrowed := valid.request call
      rw [head] at borrowed
      dsimp only
      rw [Function.update_self]
      exact borrowed.releasing.2 _ shorter
    · dsimp only
      rw [Function.update_of_ne same,entries_drop_other (Ne.symm same)]
      exact valid.request call

theorem background_holders (alone : background action = true) (one : CacheMachine.Step s action next) :
    ordinary modelPath action = true ∧ next.holders = s.holders := by
  obtain ⟨_,rfl⟩ := one
  cases action with
  | acquire | release | forceUnload => cases alone
  | tick | configure | drain => exact ⟨rfl,rfl⟩
  | start task =>
    refine ⟨rfl,?_⟩
    simp only [CacheMachine.apply,CacheMachine.startTask]
    split <;> rfl
  | wake task timedOut =>
    refine ⟨rfl,?_⟩
    simp only [CacheMachine.apply,CacheMachine.wakeTask]
    split
    · rfl
    · split <;> rfl

theorem valid_preserved (valid : Valid settings modelPath s) (one : Step settings modelPath s action next) :
    Valid settings modelPath next := by
  cases one with
  | session ready other one => exact valid_session valid ready other one
  | acquire given one => exact valid_acquire valid given one
  | acquireFails refused one => exact valid_acquireFails valid refused one
  | request ready =>
    have borrowed := valid.request ‹Nat›
    rw [ready] at borrowed
    refine valid_pending valid ?_
    rw [borrowed.idle]
    exact ⟨handle_settles _ _ _ _,.inl rfl⟩
  | load head given => exact valid_load valid head given
  | loadFails head refused => exact valid_loadFails valid head refused
  | use head =>
    have borrowed := valid.request ‹Nat›
    rw [head] at borrowed
    obtain ⟨_,_,_,kept⟩ := borrowed.using
    exact valid_pending valid kept
  | release head booked => exact valid_release valid head booked
  | cache alone one =>
    obtain ⟨permitted,same⟩ := (background_holders alone one : ordinary modelPath _ = true ∧ _)
    refine ⟨sound_preserved valid.sound permitted one,?_,valid.reached,valid.session,valid.request⟩
    rw [same]
    exact valid.booked

theorem runs_valid (path : Runs settings modelPath (initial ttlSeconds start now) trace s) :
    Valid settings modelPath s :=
  path.invariant (initial_valid settings modelPath ttlSeconds start now)
    (fun valid one => valid_preserved valid one)

-- The context is the one that is loaded, and whisper_free has not seen it.
def Usable (s : State) (ctx : Nat) : Prop := s.cache.cache.ctx = some ctx ∧ .freed ctx ∉ s.cache.log

theorem Valid.usable (valid : Valid settings modelPath s) (booked : (owner,ctx) ∈ s.book) :
    Usable s ctx := by
  have holds : ctx ∈ s.cache.holders :=
    valid.booked.mem_iff.mp (List.mem_map.mpr ⟨_,booked,rfl⟩)
  have loaded := valid.sound.held ctx holds
  refine ⟨loaded,?_⟩
  intro freed
  exact (valid.sound.fresh ctx loaded).2 (mem_freedContexts.mpr freed)

theorem Valid.refCount (valid : Valid settings modelPath s) :
    s.cache.cache.refCount = s.book.length := by
  rw [valid.sound.counted,← valid.booked.length_eq,List.length_map]

-- Nobody infers on a context that was freed, and nobody gives back what it does
-- not have.
theorem model_in_use (path : Runs settings modelPath (initial ttlSeconds start now) trace s) :
    (∀ i, (s.sessions i).session.engine.isSome = true →
      ∃ ctx, s.engines i = some ctx ∧ Usable s ctx) ∧
    (∀ call rest, s.pending (.request call) = .use :: rest →
      ∃ ctx, s.requests call = some ctx ∧ Usable s ctx) ∧
    (∀ owner rest, s.pending owner = .release :: rest → ∃ ctx, (owner,ctx) ∈ s.book) ∧
    s.cache.cache.refCount = s.book.length := by
  have valid := runs_valid path
  refine ⟨?_,?_,?_,?_⟩
  · intro i present
    obtain ⟨ctx,owned,same⟩ := (valid.session i).engine present
    exact ⟨ctx,same,valid.usable (mem_entries.mp owned)⟩
  · intro call rest head
    have borrowed := valid.request call
    rw [head] at borrowed
    obtain ⟨ctx,same,owned,_⟩ := borrowed.using
    exact ⟨ctx,same,valid.usable (mem_entries.mp (by rw [owned]; exact List.mem_singleton_self ctx))⟩
  · intro owner rest head
    have owned : entries owner s.book ≠ [] := by
      cases owner with
      | session i =>
        have lent := valid.session i
        rw [head] at lent
        obtain ⟨now,trace,path⟩ := valid.reached i
        exact (lent.give (runs_counted path) (runs_flagged path)).2.1
      | request call =>
        have borrowed := valid.request call
        rw [head] at borrowed
        exact borrowed.releasing.1
    obtain ⟨ctx,present⟩ := List.exists_mem_of_ne_nil _ owned
    exact ⟨ctx,mem_entries.mp present⟩
  · exact valid.refCount

def openSchedule : List Action :=
  SessionMachine.configSchedule.map (.session 0)

def closeSchedule : List Action :=
  [.session 0 .readFails,.session 0 .release,.release (.session 0),.session 0 .destroy,.session 0 .exit,
    .session 0 .destroyJoin,.session 0 .destroyRelease]

theorem model_in_use_configured : ∃ trace s,
    Runs (fun _ => SessionMachine.defaultParams) (bytes "model.bin") (initial 300 0 fun _ => 0) trace s ∧
    (s.sessions 0).session.engine.isSome = true ∧ ∃ ctx, s.engines 0 = some ctx ∧ Usable s ctx := by
  obtain ⟨s,ran,present⟩ : ∃ s, Machine.replay
      (advance (fun _ => SessionMachine.defaultParams) (bytes "model.bin")) (fun _ _ => true)
      (initial 300 0 fun _ => 0) openSchedule = some s ∧ (s.sessions 0).session.engine.isSome = true :=
    ⟨_,rfl,rfl⟩
  obtain ⟨trace,_,path,_⟩ := Machine.replay_sound (advance_sound _ _) ran
  exact ⟨trace,s,path,present,(model_in_use path).1 0 present⟩

-- When all is over the model is free to go, unless a session was configured
-- twice.
theorem references_returned (path : Runs settings modelPath (initial ttlSeconds start now) trace s)
    (quiet : ∀ owner, s.pending owner = [])
    (closed : ∀ i, (s.sessions i).receiver = .destroyed ∨ acquired (s.sessions i).log = 0) :
    s.cache.cache.refCount = 0 ↔ ∀ i, acquired (s.sessions i).log ≤ 1 := by
  have valid := runs_valid path
  have counted (i : Nat) : (entries (.session i) s.book).length = acquired (s.sessions i).log - 1 := by
    have sum := (valid.session i).counted
    rw [quiet,List.length_nil,Nat.add_zero] at sum
    rcases closed i with gone | none_taken
    · obtain ⟨now,trace,path⟩ := valid.reached i
      have kept := runs_counted path
      simp only [Counted,gone,stage] at kept
      omega
    · omega
  have requests (call : Nat) : entries (.request call) s.book = [] := by
    have borrowed := valid.request call
    rw [quiet] at borrowed
    exact borrowed.idle
  rw [valid.refCount]
  constructor
  · intro empty i
    have nothing : s.book = [] := List.eq_nil_of_length_eq_zero (Int.ofNat_eq_zero.mp empty)
    have length := counted i
    rw [nothing] at length
    simp only [entries,List.filter_nil,List.map_nil,List.length_nil] at length
    omega
  · intro once
    suffices nothing : s.book = [] by rw [nothing]; rfl
    rw [List.eq_nil_iff_forall_not_mem]
    rintro ⟨owner,ctx⟩ booked
    have owned := mem_entries.mpr booked
    cases owner with
    | session i =>
      have length := counted i
      have few := once i
      have none_left : entries (.session i) s.book = [] := List.eq_nil_of_length_eq_zero (by omega)
      rw [none_left] at owned
      cases owned
    | request call =>
      rw [requests] at owned
      cases owned

theorem references_returned_closed : ∃ trace s,
    Runs (fun _ => SessionMachine.defaultParams) (bytes "model.bin") (initial 300 0 fun _ => 0) trace s ∧
    acquired (s.sessions 0).log = 1 ∧
    (s.cache.cache.refCount = 0 ↔ ∀ i, acquired (s.sessions i).log ≤ 1) := by
  obtain ⟨s,ran,once,quiet,gone,others⟩ : ∃ s, Machine.replay
      (advance (fun _ => SessionMachine.defaultParams) (bytes "model.bin")) (fun _ _ => true)
      (initial 300 0 fun _ => 0) (openSchedule ++ closeSchedule) = some s ∧
      acquired (s.sessions 0).log = 1 ∧ (∀ owner, s.pending owner = []) ∧
      (s.sessions 0).receiver = .destroyed ∧ ∀ i, acquired (s.sessions (i + 1)).log = 0 := by
    refine ⟨_,rfl,rfl,?_,rfl,fun _ => rfl⟩
    intro owner
    cases owner with
    | session i => cases i <;> rfl
    | request call => rfl
  obtain ⟨trace,_,path,_⟩ := Machine.replay_sound (advance_sound _ _) ran
  refine ⟨trace,s,path,once,references_returned path quiet ?_⟩
  intro i
  cases i with
  | zero => exact .inl gone
  | succ i => exact .inr (others i)

end JotaTranscriber.ModelUse

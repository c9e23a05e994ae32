import JotaTranscriber.AcceptLoop

namespace JotaTranscriber.ConnectionAccounting
open AcceptLoop
open ConnectionLimiter (Counts create_counts tryAcquire_cases tryAcquire_counts release_counts)

variable {maxTotal maxPerIp : Nat}

-- A connection lives from the tryAcquire that let it in to the one release at
-- the end of handleSession, or to the one after a failed spawn.
def pending : MainThread → List Connection
  | .spawning connection => [connection]
  | _ => []

def live (s : State) : List Connection := pending s.main ++ s.serving

def liveAt (s : State) (ip : Text) : Nat := ((live s).map Connection.ip).count ip

-- What a step does to the accounts: nothing, one admission, or one release of
-- a connection that is live.
theorem account_step (distinct : (live s).Nodup) (move : Move s action next) :
    (live next = live s ∧ next.log = s.log ∧ next.nextId = s.nextId ∧
      (next.limiter = s.limiter ∨
        ∃ ip trusted, s.limiter.tryAcquire ip trusted = (next.limiter,false))) ∨
    (∃ ip trusted, action = .tryAcquire ∧ s.main = .judged ip trusted ∧
      s.limiter.tryAcquire ip trusted = (next.limiter,true) ∧
      live next = ⟨s.nextId,ip,trusted⟩ :: live s ∧ next.nextId = s.nextId + 1 ∧
      next.log = s.log ++ [.acquired ⟨s.nextId,ip,trusted⟩]) ∨
    ∃ connection ∈ live s, next.limiter = s.limiter.release connection.ip ∧
      live next = (live s).erase connection ∧ next.nextId = s.nextId ∧
      next.log = s.log ++ [.released connection] := by
  cases move with
  | closeAcceptor => exact .inl ⟨rfl,rfl,rfl,.inl rfl⟩
  | check pc =>
    refine .inl ⟨?_,rfl,rfl,.inl rfl⟩
    simp only [live,pc]
    split <;> rfl
  | @accept _ result pc =>
    refine .inl ⟨?_,rfl,rfl,.inl rfl⟩
    simp only [live,pc]
    cases result <;> rfl
  | @remoteEndpoint _ ip pc =>
    refine .inl ⟨?_,rfl,rfl,.inl rfl⟩
    simp only [live,pc]
    cases ip <;> rfl
  | isTrusted pc => exact .inl ⟨by simp only [live,pc]; rfl,rfl,rfl,.inl rfl⟩
  | granted pc ran => exact .inr (.inl ⟨_,_,rfl,pc,ran,by simp only [live,pc]; rfl,rfl,rfl⟩)
  | refuse pc ran => exact .inl ⟨by simp only [live,pc]; rfl,rfl,rfl,.inr ⟨_,_,ran⟩⟩
  | @closeSocket _ threw pc =>
    refine .inl ⟨?_,rfl,rfl,.inl rfl⟩
    simp only [live,pc]
    cases threw <;> rfl
  | spawn pc => exact .inl ⟨by simp only [live,pc]; rfl,rfl,rfl,.inl rfl⟩
  | @spawnFails _ connection pc =>
    refine .inr (.inr ⟨connection,by simp [live,pc,pending],rfl,?_,rfl,rfl⟩)
    simp [live,pc,pending]
  | @finish connection _ present =>
    have elsewhere : connection ∉ pending s.main := by
      intro also
      exact (List.nodup_append.mp distinct).2.2 connection also connection present rfl
    refine .inr (.inr ⟨connection,List.mem_append_right _ present,rfl,?_,rfl,rfl⟩)
    exact (List.erase_append_right _ elsewhere).symm

-- The counts follow the live connections and the log tells every admission
-- and every release apart.
structure Accounted (maxTotal maxPerIp : Nat) (s : State) : Prop where
  maxTotal : s.limiter.maxTotal = maxTotal
  maxPerIp : s.limiter.maxPerIp = maxPerIp
  counts : s.limiter.Counts ((live s).map Connection.ip)
  distinct : (live s).Nodup
  once : s.log.Nodup
  fresh : ∀ connection, .acquired connection ∈ s.log → connection.id < s.nextId
  matched : ∀ connection, .released connection ∈ s.log → .acquired connection ∈ s.log
  alive : ∀ connection, connection ∈ live s ↔
    .acquired connection ∈ s.log ∧ .released connection ∉ s.log

theorem initial_accounted (maxTotal maxPerIp : Nat) :
    Accounted maxTotal maxPerIp (initial maxTotal maxPerIp) where
  maxTotal := rfl
  maxPerIp := rfl
  counts := create_counts maxTotal maxPerIp
  distinct := List.nodup_nil
  once := List.nodup_nil
  fresh := fun _ present => by cases present
  matched := fun _ present => by cases present
  alive := fun _ => by simp [initial,live,pending]

theorem counts_perm (counts : Counts limiter first) (same : first.Perm second) :
    Counts limiter second where
  total := counts.total.trans same.length_eq
  each := fun ip => (counts.each ip).trans (same.count_eq ip)
  sum := counts.sum.trans same.length_eq
  bounded := counts.bounded

theorem map_erase_perm {connections : List Connection} (present : connection ∈ connections) :
    ((connections.map Connection.ip).erase connection.ip).Perm
      ((connections.erase connection).map Connection.ip) := by
  have whole := (List.perm_cons_erase present).map Connection.ip
  have less := whole.erase connection.ip
  rwa [List.map_cons,List.erase_cons_head] at less

theorem accounted_granted (connection : Connection) (accounted : Accounted maxTotal maxPerIp s)
    (ran : s.limiter.tryAcquire connection.ip connection.trusted = (next.limiter,true))
    (new : connection.id = s.nextId) (grown : live next = connection :: live s)
    (counter : next.nextId = s.nextId + 1) (logged : next.log = s.log ++ [.acquired connection]) :
    Accounted maxTotal maxPerIp next := by
  have unseen : .acquired connection ∉ s.log := by
    intro present
    have below := accounted.fresh connection present
    omega
  have unreleased : .released connection ∉ s.log := fun present =>
    unseen (accounted.matched connection present)
  have counts := tryAcquire_counts accounted.counts ran
  obtain ⟨total,perIp,_⟩ := tryAcquire_cases ran
  refine ⟨total.trans accounted.maxTotal,perIp.trans accounted.maxPerIp,?_,?_,?_,?_,?_,?_⟩
  · rw [grown]
    exact counts
  · rw [grown]
    exact List.nodup_cons.mpr ⟨fun also => unseen ((accounted.alive connection).mp also).1,
      accounted.distinct⟩
  · rw [logged]
    exact List.nodup_append.mpr ⟨accounted.once,List.nodup_singleton _,by
      rintro event present _ last rfl
      cases List.mem_singleton.mp last
      exact unseen present⟩
  · rw [logged,counter]
    intro found present
    rcases List.mem_append.mp present with old | last
    · have below := accounted.fresh found old
      omega
    · cases List.mem_singleton.mp last
      omega
  · rw [logged]
    intro found present
    rcases List.mem_append.mp present with old | last
    · exact List.mem_append_left _ (accounted.matched found old)
    · cases List.mem_singleton.mp last
  · rw [logged,grown]
    intro found
    have before := accounted.alive found
    by_cases same : found = connection
    · subst same
      simp [unreleased]
    · simp [same,before]

theorem accounted_release (accounted : Accounted maxTotal maxPerIp s)
    (present : connection ∈ live s)
    (limiter : next.limiter = s.limiter.release connection.ip)
    (shrunk : live next = (live s).erase connection) (counter : next.nextId = s.nextId)
    (logged : next.log = s.log ++ [.released connection]) : Accounted maxTotal maxPerIp next := by
  obtain ⟨acquired,unreleased⟩ := (accounted.alive connection).mp present
  refine ⟨?_,?_,?_,?_,?_,?_,?_,?_⟩
  · rw [limiter]; exact accounted.maxTotal
  · rw [limiter]; exact accounted.maxPerIp
  · rw [limiter,shrunk]
    exact counts_perm (release_counts accounted.counts (List.mem_map_of_mem present))
      (map_erase_perm present)
  · rw [shrunk]
    exact accounted.distinct.erase connection
  · rw [logged]
    exact List.nodup_append.mpr ⟨accounted.once,List.nodup_singleton _,by
      rintro event old _ last rfl
      cases List.mem_singleton.mp last
      exact unreleased old⟩
  · rw [logged,counter]
    intro found known
    rcases List.mem_append.mp known with old | last
    · exact accounted.fresh found old
    · cases List.mem_singleton.mp last
  · rw [logged]
    intro found known
    rcases List.mem_append.mp known with old | last
    · exact List.mem_append_left _ (accounted.matched found old)
    · cases List.mem_singleton.mp last
      exact List.mem_append_left _ acquired
  · rw [logged,shrunk]
    intro found
    have before := accounted.alive found
    rw [accounted.distinct.mem_erase_iff]
    by_cases same : found = connection
    · subst same
      simp
    · simp [same,before]

theorem accounted_preserved (accounted : Accounted maxTotal maxPerIp s)
    (move : Move s action next) : Accounted maxTotal maxPerIp next := by
  rcases account_step accounted.distinct move with
    ⟨same,logged,counter,unchanged | ⟨ip,trusted,refused⟩⟩ |
    ⟨ip,trusted,_,_,ran,grown,counter,logged⟩ | ⟨connection,present,limiter,shrunk,counter,logged⟩
  · obtain ⟨total,perIp,counts,distinct,once,fresh,matched,alive⟩ := accounted
    refine ⟨?_,?_,?_,?_,?_,?_,?_,?_⟩ <;> simpa only [same,logged,counter,unchanged]
  · have counts := tryAcquire_counts accounted.counts refused
    obtain ⟨total,perIp,_⟩ := tryAcquire_cases refused
    have capped := total.trans accounted.maxTotal
    have limited := perIp.trans accounted.maxPerIp
    obtain ⟨_,_,_,distinct,once,fresh,matched,alive⟩ := accounted
    exact ⟨capped,limited,by rw [same]; exact counts,by rwa [same],by rwa [logged],
      by rwa [logged,counter],by rwa [logged],by rwa [logged,same]⟩
  · exact accounted_granted ⟨s.nextId,ip,trusted⟩ accounted ran rfl grown counter logged
  · exact accounted_release accounted present limiter shrunk counter logged

theorem runs_accounted (path : Runs (initial maxTotal maxPerIp) trace s) :
    Accounted maxTotal maxPerIp s :=
  path.invariant (initial_accounted maxTotal maxPerIp)
    (fun accounted one => accounted_preserved accounted one.2)

def admits (s : State) : Action → Bool
  | .tryAcquire =>
    match s.main with
    | .judged ip trusted => (s.limiter.tryAcquire ip trusted).2
    | _ => false
  | _ => false

def releases : Action → Bool
  | .spawn succeeds => !succeeds
  | .finish _ => true
  | _ => false

theorem calls_step (accounted : Accounted maxTotal maxPerIp s) (move : Move s action next) :
    (live next).length + (if releases action then 1 else 0) =
      (live s).length + if admits s action then 1 else 0 := by
  have shrunk {connection : Connection} (present : connection ∈ live s) :
      ((live s).erase connection).length + 1 = (live s).length := by
    have length := List.length_erase_of_mem present
    have positive := List.length_pos_of_mem present
    omega
  cases move with
  | closeAcceptor => rfl
  | check pc =>
    simp only [live,pc,releases,admits]
    split <;> rfl
  | @accept _ result pc => simp only [live,pc]; cases result <;> rfl
  | @remoteEndpoint _ ip pc => simp only [live,pc]; cases ip <;> rfl
  | isTrusted pc => simp only [live,pc]; rfl
  | granted pc ran => simp [live,pc,pending,releases,admits,ran]
  | refuse pc ran => simp [live,pc,pending,releases,admits,ran]
  | @closeSocket _ threw pc => simp only [live,pc]; cases threw <;> rfl
  | spawn pc => simp [live,pc,pending,releases,admits]
  | spawnFails pc => simp [live,pc,pending,releases,admits]
  | @finish connection _ present =>
    have elsewhere : connection ∉ pending s.main := by
      intro also
      exact (List.nodup_append.mp accounted.distinct).2.2 connection also connection present rfl
    have less := shrunk (List.mem_append_right _ present)
    rw [live,List.erase_append_right _ elsewhere] at less
    exact less

theorem runs_calls (path : Runs (initial maxTotal maxPerIp) trace s) :
    (trace.countP fun entry => releases entry.2) + (live s).length =
      trace.countP fun entry => admits entry.1 entry.2 := by
  induction path with
  | nil => rfl
  | @step trace middle action after prior one ih =>
    have step := calls_step (runs_accounted prior) one.2
    simp only [List.countP_append,List.countP_singleton]
    omega

theorem admitted_below (accounted : Accounted maxTotal maxPerIp s) (pc : s.main = .judged ip false)
    (admitted : admits s .tryAcquire = true) : liveAt s ip < maxPerIp := by
  rcases ran : s.limiter.tryAcquire ip false with ⟨after,answer⟩
  simp only [admits,pc,ran] at admitted
  subst admitted
  obtain ⟨_,_,⟨refused,_⟩ | ⟨_,_,below,_⟩⟩ := tryAcquire_cases ran
  · cases refused
  · rw [← accounted.maxPerIp,liveAt,← accounted.counts.each]
    exact below rfl

def neverTrusted (ip : Text) (s : State) (action : Action) : Prop :=
  action = .isTrusted true → s.main ≠ .identified ip

structure Capped (maxPerIp : Nat) (ip : Text) (s : State) : Prop where
  judged : s.main ≠ .judged ip true
  below : liveAt s ip ≤ maxPerIp

theorem judged_step (move : Move s action next) (reached : next.main = .judged ip true) :
    s.main = .judged ip true ∨ action = .isTrusted true ∧ s.main = .identified ip := by
  cases move with
  | closeAcceptor | finish => exact .inl reached
  | check =>
    replace reached : (if s.acceptorOpen then MainThread.accepting else .left .acceptorClosed) =
      .judged ip true := reached
    split at reached <;> cases reached
  | @accept _ result =>
    replace reached : afterAccept result = .judged ip true := reached
    cases result <;> cases reached
  | @remoteEndpoint _ answer =>
    replace reached : afterEndpoint answer = .judged ip true := reached
    cases answer <;> cases reached
  | isTrusted pc => cases reached; exact .inr ⟨rfl,pc⟩
  | @closeSocket _ threw =>
    replace reached : (if threw then MainThread.unwound else .checking) = .judged ip true := reached
    cases threw <;> cases reached
  | granted | refuse | spawn | spawnFails => cases reached

theorem capped_preserved (accounted : Accounted maxTotal maxPerIp s) (capped : Capped maxPerIp ip s)
    (untrusted : neverTrusted ip s action) (move : Move s action next) : Capped maxPerIp ip next := by
  refine ⟨?_,?_⟩
  · intro reached
    rcases judged_step move reached with before | ⟨answered,identified⟩
    · exact capped.judged before
    · exact untrusted answered identified
  · rcases account_step accounted.distinct move with
      ⟨same,_⟩ | ⟨found,trusted,rfl,pc,ran,grown,_⟩ | ⟨connection,present,_,shrunk,_⟩
    · rw [liveAt,same]
      exact capped.below
    · rw [liveAt,grown,List.map_cons,List.count_cons]
      have kept : ((live s).map Connection.ip).count ip ≤ maxPerIp := capped.below
      by_cases here : found = ip
      · subst here
        cases trusted with
        | true => exact absurd pc capped.judged
        | false =>
          have below : ((live s).map Connection.ip).count found < maxPerIp :=
            admitted_below accounted pc (by simp [admits,pc,ran])
          simpa [Nat.succ_le_iff] using below
      · simpa [here] using kept
    · rw [liveAt,shrunk]
      exact Nat.le_trans ((List.erase_sublist.map _).count_le _) capped.below

theorem runs_capped (path : Runs (initial maxTotal maxPerIp) trace s)
    (untrusted : ∀ entry ∈ trace, neverTrusted ip entry.1 entry.2) : liveAt s ip ≤ maxPerIp := by
  have capped : Capped maxPerIp ip s := path.history (I := fun _ s => Capped maxPerIp ip s) untrusted
    ⟨MainThread.noConfusion,Nat.zero_le _⟩
    (fun prior capped permitted one => capped_preserved (runs_accounted prior) capped permitted one.2)
  exact capped.below

theorem connections_accounted (path : Runs (initial maxTotal maxPerIp) trace s) :
    s.limiter.total = (live s).length ∧
    s.limiter.total = s.limiter.perIp.total ∧
    (∀ ip, s.limiter.perIp.count ip = liveAt s ip) ∧
    s.limiter.total ≤ maxTotal ∧
    (trace.countP fun entry => releases entry.2) + (live s).length =
      (trace.countP fun entry => admits entry.1 entry.2) ∧
    (∀ connection, s.log.count (.acquired connection) ≤ 1 ∧ s.log.count (.released connection) =
      if .acquired connection ∈ s.log ∧ connection ∉ live s then 1 else 0) ∧
    (∀ before ip, (before,.tryAcquire) ∈ trace → before.main = .judged ip false →
      admits before .tryAcquire = true → liveAt before ip < maxPerIp) ∧
    ∀ ip, (∀ entry ∈ trace, neverTrusted ip entry.1 entry.2) → liveAt s ip ≤ maxPerIp := by
  have accounted := runs_accounted path
  have length : ((live s).map Connection.ip).length = (live s).length := List.length_map _
  refine ⟨accounted.counts.total.trans length,accounted.counts.total.trans accounted.counts.sum.symm,
    accounted.counts.each,?_,runs_calls path,?_,?_,?_⟩
  · rw [← accounted.maxTotal]
    exact accounted.counts.bounded
  · intro connection
    refine ⟨List.nodup_iff_count_le_one.mp accounted.once _,?_⟩
    rw [accounted.once.count]
    have alive := accounted.alive connection
    have matched := accounted.matched connection
    split
    · rename_i released
      rw [if_pos ⟨matched released,fun also => (alive.mp also).2 released⟩]
    · rename_i unreleased
      rw [if_neg]
      rintro ⟨acquired,gone⟩
      exact gone (alive.mpr ⟨acquired,unreleased⟩)
  · intro before ip present pc admitted
    obtain ⟨past,_,reached,_⟩ := path.member present
    exact admitted_below (runs_accounted reached) pc admitted
  · intro ip untrusted
    exact runs_capped path untrusted

theorem connections_accounted_full_day : ∃ trace s, trace.map Prod.snd = fullDay ∧
    Runs (initial 8 1) trace s ∧ (trace.countP fun entry => releases entry.2) = 1 ∧
    (trace.countP fun entry => releases entry.2) + (live s).length =
      (trace.countP fun entry => admits entry.1 entry.2) := by
  obtain ⟨s,ran⟩ : ∃ s, run (initial 8 1) fullDay = some s := ⟨_,rfl⟩
  obtain ⟨trace,same,path⟩ := run_sound ran
  have once : (trace.countP fun entry => releases entry.2) = 1 := by
    have counted : (trace.map Prod.snd).countP releases = 1 := by rw [same]; decide
    rwa [List.countP_map] at counted
  exact ⟨trace,s,same,path,once,(connections_accounted path).2.2.2.2.1⟩

end JotaTranscriber.ConnectionAccounting

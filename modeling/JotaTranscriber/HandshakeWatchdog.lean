import JotaTranscriber.Machine
import Mathlib.Logic.Function.Basic

namespace JotaTranscriber.HandshakeWatchdog

-- Where handleSession is: before its watchdog exists, in the try block, and
-- from the end of that block to the destruction of the socket parameter.
inductive Phase where
  | starting
  | tlsHandshake
  | requestRead
  | disarming
  | handling
  | leaving
  | joining
  | closing
  | returned
  deriving DecidableEq, Repr

-- The watchdog's own thread. It calls forceSocketShutdown with mutex_ held.
inductive WatchThread where
  | absent
  | waiting
  | holding
  | exited
  deriving DecidableEq, Repr

-- `inStream` tells whether the descriptor has been moved into a stream object
-- of the try block, an ssl::stream or a websocket::stream, which closes it when
-- the block is left; otherwise the parameter of handleSession does.
structure Session where
  fd : Nat
  tls : Bool
  phase : Phase
  inStream : Bool
  armed : Bool
  thread : WatchThread
  deriving DecidableEq, Repr

-- `disarm` is the call after the read and the one in the destructor, `leave` any
-- way out of the try block, and `timeout` and `wake` the two ends of wait_for.
-- When the wait runs out is left open.
inductive Act where
  | watch
  | handshake
  | request
  | disarm
  | upgrade
  | leave
  | join
  | close
  | timeout
  | wake
  | force
  deriving DecidableEq, Repr

def accepted (fd : Nat) (tls : Bool) : Session := ⟨fd,tls,.starting,false,false,.absent⟩

-- The handshake and the read leave the block by an exception only; the handler
-- also by a return.
def inBlock : Phase → Bool
  | .tlsHandshake | .requestRead | .handling => true
  | _ => false

inductive Turn : Session → Act → Session → Prop where
  | watch (pc : session.phase = .starting) : Turn session .watch { session with
      phase := if session.tls then .tlsHandshake else .requestRead
      inStream := session.tls
      armed := true
      thread := .waiting }
  | handshake (pc : session.phase = .tlsHandshake) :
      Turn session .handshake { session with phase := .requestRead }
  | request (pc : session.phase = .requestRead) :
      Turn session .request { session with phase := .disarming }
  | disarm (pc : session.phase = .disarming) (unlocked : session.thread ≠ .holding) :
      Turn session .disarm { session with phase := .handling, armed := false }
  | destroy (pc : session.phase = .leaving) (unlocked : session.thread ≠ .holding) :
      Turn session .disarm { session with phase := .joining, armed := false }
  | upgrade (pc : session.phase = .handling) : Turn session .upgrade { session with inStream := true }
  | leave (pc : inBlock session.phase = true) : Turn session .leave { session with phase := .leaving }
  | join (pc : session.phase = .joining) (exited : session.thread = .exited) :
      Turn session .join { session with phase := .closing }
  | close (pc : session.phase = .closing) : Turn session .close { session with phase := .returned }
  | timeout (waits : session.thread = .waiting) (armed : session.armed = true) :
      Turn session .timeout { session with armed := false, thread := .holding }
  | wake (waits : session.thread = .waiting) (disarmed : session.armed = false) :
      Turn session .wake { session with thread := .exited }
  | force (locked : session.thread = .holding) : Turn session .force { session with thread := .exited }

def closes (session : Session) : Act → Bool
  | .leave => session.inStream
  | .close => !session.inStream
  | _ => false

-- The connections in the order they were accepted, and the descriptor table: a
-- number that is not in use may be given to the next one.
structure State where
  owner : Nat → Option Nat
  sessions : List Session

inductive Action where
  | accept (fd : Nat) (tls : Bool)
  | session (position : Nat) (act : Act)
  deriving DecidableEq, Repr

def initial : State := ⟨fun _ => none,[]⟩

inductive Step : State → Action → State → Prop where
  | accept (free : s.owner fd = none) : Step s (.accept fd tls)
      ⟨Function.update s.owner fd (some s.sessions.length),s.sessions ++ [accepted fd tls]⟩
  | session (present : s.sessions[position]? = some session) (one : Turn session act next) :
      Step s (.session position act)
        ⟨if closes session act then Function.update s.owner session.fd none else s.owner,
          s.sessions.set position next⟩

abbrev Runs := Machine.Runs Step

def turn (session : Session) (act : Act) : Option Session :=
  match act,session.phase,session.thread with
  | .watch,.starting,_ => some { session with
      phase := if session.tls then .tlsHandshake else .requestRead
      inStream := session.tls
      armed := true
      thread := .waiting }
  | .handshake,.tlsHandshake,_ => some { session with phase := .requestRead }
  | .request,.requestRead,_ => some { session with phase := .disarming }
  | .disarm,.disarming,thread =>
    if thread = .holding then none else some { session with phase := .handling, armed := false }
  | .disarm,.leaving,thread =>
    if thread = .holding then none else some { session with phase := .joining, armed := false }
  | .upgrade,.handling,_ => some { session with inStream := true }
  | .leave,phase,_ => if inBlock phase then some { session with phase := .leaving } else none
  | .join,.joining,.exited => some { session with phase := .closing }
  | .close,.closing,_ => some { session with phase := .returned }
  | .timeout,_,.waiting =>
    if session.armed then some { session with armed := false, thread := .holding } else none
  | .wake,_,.waiting => if session.armed then none else some { session with thread := .exited }
  | .force,_,.holding => some { session with thread := .exited }
  | _,_,_ => none

theorem turn_related (ran : turn session act = some next) : Turn session act next := by
  unfold turn at ran
  split at ran
  · rename_i pc; cases ran; exact .watch pc
  · rename_i pc; cases ran; exact .handshake pc
  · rename_i pc; cases ran; exact .request pc
  · rename_i pc
    split at ran
    · cases ran
    · rename_i unlocked; cases ran; exact .disarm pc unlocked
  · rename_i pc
    split at ran
    · cases ran
    · rename_i unlocked; cases ran; exact .destroy pc unlocked
  · rename_i pc; cases ran; exact .upgrade pc
  · split at ran
    · rename_i pc; cases ran; exact .leave pc
    · cases ran
  · rename_i pc exited; cases ran; exact .join pc exited
  · rename_i pc; cases ran; exact .close pc
  · rename_i waits
    split at ran
    · rename_i armed; cases ran; exact .timeout waits armed
    · cases ran
  · rename_i waits
    split at ran
    · cases ran
    · rename_i disarmed; cases ran; exact .wake waits (by simpa using disarmed)
  · rename_i locked; cases ran; exact .force locked
  · cases ran

def advance (s : State) : Action → Option State
  | .accept fd tls =>
    if s.owner fd = none then
      some ⟨Function.update s.owner fd (some s.sessions.length),s.sessions ++ [accepted fd tls]⟩
    else none
  | .session position act =>
    match s.sessions[position]? with
    | none => none
    | some session =>
      match turn session act with
      | none => none
      | some next =>
        some ⟨if closes session act then Function.update s.owner session.fd none else s.owner,
          s.sessions.set position next⟩

theorem advance_sound (ran : advance s action = some next) : Step s action next := by
  unfold advance at ran
  split at ran
  · split at ran
    · rename_i free
      cases ran
      exact .accept free
    · cases ran
  · split at ran
    · cases ran
    · rename_i present
      split at ran
      · cases ran
      · rename_i moved
        cases ran
        exact .session present (turn_related moved)

def holds (session : Session) : Bool :=
  match session.phase with
  | .leaving | .joining | .closing => !session.inStream
  | .returned => false
  | _ => true

def settled : Phase → Bool
  | .starting | .handling | .joining | .closing | .returned => true
  | _ => false

def quiet (session : Session) : Prop := session.armed = false ∧ session.thread ≠ .holding

def Dismissed (session : Session) : Prop := session.phase ≠ .starting ∧ quiet session

structure Sane (session : Session) : Prop where
  silent : settled session.phase = true → quiet session
  wrapped : session.phase = .starting ∨ quiet session ∨ session.inStream = session.tls
  claimed : session.thread = .holding → session.armed = false

theorem accepted_sane (fd : Nat) (tls : Bool) : Sane (accepted fd tls) :=
  ⟨fun _ => ⟨rfl,nofun⟩,.inl rfl,nofun⟩

section Turns
variable {session next : Session} {act : Act} (one : Turn session act next)
include one

theorem turn_holds : next.fd = session.fd ∧
    holds next = (holds session && !closes session act) ∧
    (closes session act = true → holds session = true) := by
  refine ⟨by cases one <;> rfl,?_⟩
  cases one with
  | watch pc =>
    simp only [holds,pc,closes]
    cases session.tls <;> exact ⟨rfl,nofun⟩
  | leave pc =>
    have held : holds session = true := by
      unfold holds
      cases phase : session.phase <;> rw [phase] at pc <;> first | rfl | cases pc
    rw [held]
    exact ⟨rfl,fun _ => rfl⟩
  | close pc =>
    simp only [holds,pc,closes]
    cases session.inStream <;> exact ⟨rfl,id⟩
  | handshake pc | request pc | disarm pc | upgrade pc => exact ⟨by simp [holds,pc,closes],nofun⟩
  | destroy pc | join pc => exact ⟨by simp [holds,pc,closes],nofun⟩
  | timeout | wake | force => exact ⟨by simp [holds,closes],nofun⟩

theorem turn_sane (sane : Sane session) : Sane next := by
  obtain ⟨silent,wrapped,claimed⟩ := sane
  cases one with
  | watch =>
    refine ⟨?_,.inr (.inr rfl),nofun⟩
    cases session.tls <;> exact nofun
  | handshake pc | request pc =>
    exact ⟨nofun,.inr (wrapped.resolve_left (by rw [pc]; nofun)),claimed⟩
  | leave pc =>
    refine ⟨nofun,.inr (wrapped.resolve_left ?_),claimed⟩
    intro starting
    rw [starting] at pc
    cases pc
  | disarm pc unlocked | destroy pc unlocked =>
    exact ⟨fun _ => ⟨rfl,unlocked⟩,.inr (.inl ⟨rfl,unlocked⟩),fun _ => rfl⟩
  | upgrade pc | join pc | close pc =>
    have calm : quiet session := silent (by rw [pc]; rfl)
    exact ⟨fun _ => calm,.inr (.inl calm),claimed⟩
  | timeout waits armed =>
    have busy : ¬ quiet session := by
      intro calm
      rw [calm.1] at armed
      cases armed
    refine ⟨fun away => absurd (silent away) busy,?_,fun _ => rfl⟩
    rcases wrapped with starting | calm | inside
    · exact .inl starting
    · exact absurd calm busy
    · exact .inr (.inr inside)
  | wake waits disarmed => exact ⟨fun _ => ⟨disarmed,nofun⟩,.inr (.inl ⟨disarmed,nofun⟩),nofun⟩
  | force locked =>
    have disarmed := claimed locked
    exact ⟨fun _ => ⟨disarmed,nofun⟩,.inr (.inl ⟨disarmed,nofun⟩),nofun⟩

theorem turn_dismissed (dismissed : Dismissed session) : Dismissed next := by
  obtain ⟨begun,disarmed,unlocked⟩ := dismissed
  cases one with
  | watch pc => exact absurd pc begun
  | timeout waits armed =>
    rw [disarmed] at armed
    cases armed
  | force locked => exact absurd locked unlocked
  | wake => exact ⟨begun,disarmed,nofun⟩
  | disarm | destroy => exact ⟨nofun,rfl,unlocked⟩
  | upgrade => exact ⟨begun,disarmed,unlocked⟩
  | handshake | request | leave | join | close => exact ⟨nofun,disarmed,unlocked⟩

-- Both a call of disarm() and the call it is to prevent end the watchdog.
theorem turn_dismisses (sane : Sane session) (ends : act = .disarm ∨ act = .force) : Dismissed next := by
  obtain ⟨silent,_,claimed⟩ := sane
  cases one with
  | disarm pc unlocked | destroy pc unlocked => exact ⟨nofun,rfl,unlocked⟩
  | force locked =>
    refine ⟨?_,claimed locked,nofun⟩
    intro starting
    exact (silent (by rw [starting]; rfl)).2 locked
  | _ => rcases ends with impossible | impossible <;> cases impossible

end Turns

theorem force_holding (one : Turn session .force next) : session.thread = .holding := by
  cases one
  assumption

-- At the call the block has not been left with the stream, or it has just been
-- left and the destructor has not disarmed the watchdog yet.
theorem holding_holds (sane : Sane session) (locked : session.thread = .holding) :
    holds session = true ↔ ¬ (session.tls = true ∧ session.phase = .leaving) := by
  obtain ⟨silent,wrapped,_⟩ := sane
  have loud : ¬ quiet session := fun calm => calm.2 locked
  cases phase : session.phase with
  | leaving =>
    have inside : session.inStream = session.tls := by
      rcases wrapped with starting | calm | inside
      · rw [phase] at starting
        cases starting
      · exact absurd calm loud
      · exact inside
    simp [holds,phase,inside]
  | starting | handling | joining | closing | returned =>
    exact absurd (silent (by rw [phase]; rfl)) loud
  | tlsHandshake | requestRead | disarming => simp [holds,phase]

-- Every session is sane, and a number belongs to it in the table as long as it
-- has not closed it.
structure Sound (s : State) : Prop where
  sane : ∀ (position : Nat) session, s.sessions[position]? = some session → Sane session
  owned : ∀ (position : Nat) session, s.sessions[position]? = some session →
    (s.owner session.fd = some position ↔ holds session = true)

theorem initial_sound : Sound initial :=
  ⟨fun _ _ impossible => (by cases impossible),fun _ _ impossible => (by cases impossible)⟩

theorem accepted_cases {sessions : List Session} (present : (sessions ++ [new])[position]? = some session) :
    position < sessions.length ∧ sessions[position]? = some session ∨
      position = sessions.length ∧ session = new := by
  rw [List.getElem?_append] at present
  split at present
  · rename_i old
    exact .inl ⟨old,present⟩
  · rename_i beyond
    obtain ⟨bound,found⟩ := List.getElem?_eq_some_iff.mp present
    have last : position - sessions.length = 0 := Nat.lt_one_iff.mp bound
    simp only [last,List.getElem_cons_zero] at found
    exact .inr ⟨by omega,found.symm⟩

theorem turned_cases {sessions : List Session} (present : sessions[position]? = some session)
    (found : (sessions.set position next)[other]? = some seen) :
    other = position ∧ seen = next ∨ other ≠ position ∧ sessions[other]? = some seen := by
  by_cases same : other = position
  · subst same
    rw [List.getElem?_set_self (List.getElem?_eq_some_iff.mp present).1] at found
    exact .inl ⟨rfl,(Option.some.inj found).symm⟩
  · rw [List.getElem?_set_ne (Ne.symm same)] at found
    exact .inr ⟨same,found⟩

theorem accept_sound (sound : Sound s) (free : s.owner fd = none) (tls : Bool) :
    Sound ⟨Function.update s.owner fd (some s.sessions.length),s.sessions ++ [accepted fd tls]⟩ := by
  obtain ⟨sane,owned⟩ := sound
  constructor
  · intro position session present
    rcases accepted_cases present with ⟨_,old⟩ | ⟨_,rfl⟩
    · exact sane position session old
    · exact accepted_sane fd tls
  · intro position session present
    rcases accepted_cases present with ⟨below,old⟩ | ⟨rfl,rfl⟩
    · by_cases same : session.fd = fd
      · -- The number was free, so that its last holder has closed it.
        have before := owned position session old
        rw [same,free] at before
        have closed : holds session = false := by simpa using before
        simp only [same,Function.update_self,Option.some.injEq,closed]
        exact iff_of_false (by omega) nofun
      · simp only [Function.update_of_ne same]
        exact owned position session old
    · exact iff_of_true (Function.update_self ..) rfl

theorem turn_sound (sound : Sound s) (present : s.sessions[position]? = some session)
    (one : Turn session act next) :
    Sound ⟨if closes session act then Function.update s.owner session.fd none else s.owner,
      s.sessions.set position next⟩ := by
  obtain ⟨sane,owned⟩ := sound
  obtain ⟨sameFd,held,closing⟩ := turn_holds one
  constructor
  · intro other seen found
    rcases turned_cases present found with ⟨_,rfl⟩ | ⟨_,old⟩
    · exact turn_sane one (sane position session present)
    · exact sane other seen old
  · intro other seen found
    have own := owned position session present
    cases shuts : closes session act with
    | false =>
      rw [shuts,Bool.not_false,Bool.and_true] at held
      rcases turned_cases present found with ⟨rfl,rfl⟩ | ⟨_,old⟩
      · rw [sameFd,held]
        exact own
      · exact owned other seen old
    | true =>
      rw [shuts,Bool.not_true,Bool.and_false] at held
      rcases turned_cases present found with ⟨rfl,rfl⟩ | ⟨elsewhere,old⟩
      · simp only [if_true,sameFd,Function.update_self,held]
        exact iff_of_false nofun nofun
      · by_cases same : seen.fd = session.fd
        · -- Nobody else holds what this connection closes.
          have mine := own.mpr (closing shuts)
          have before := owned other seen old
          rw [same,mine] at before
          have closed : holds seen = false := by simpa [Ne.symm elsewhere] using before
          simp only [if_true,same,Function.update_self,closed]
          exact iff_of_false nofun nofun
        · simp only [if_true,Function.update_of_ne same]
          exact owned other seen old

theorem sound_preserved (sound : Sound s) (one : Step s action next) : Sound next := by
  cases one with
  | accept free => exact accept_sound sound free _
  | session present one => exact turn_sound sound present one

theorem runs_sound (path : Runs initial trace s) : Sound s :=
  path.invariant initial_sound (fun sound one => sound_preserved sound one)

def dismisses (position : Nat) (action : Action) : Bool :=
  decide (action = .session position .disarm) || decide (action = .session position .force)

section Watchdogs
variable {s next : State} {trace past : List (State × Action)} {action : Action} {position : Nat}

def Ended (trace : List (State × Action)) (s : State) : Prop :=
  ∀ position, (∃ entry ∈ trace, dismisses position entry.2 = true) →
    ∃ session, s.sessions[position]? = some session ∧ Dismissed session

theorem dismissed_kept (one : Step s action next)
    (kept : ∃ session, s.sessions[position]? = some session ∧ Dismissed session) :
    ∃ session, next.sessions[position]? = some session ∧ Dismissed session := by
  obtain ⟨session,present,dismissed⟩ := kept
  have below := (List.getElem?_eq_some_iff.mp present).1
  cases one with
  | accept => exact ⟨session,(List.getElem?_append_left below).trans present,dismissed⟩
  | @session moved current act after _ found one =>
    by_cases same : position = moved
    · subst same
      rw [present] at found
      cases found
      exact ⟨after,List.getElem?_set_self below,turn_dismissed one dismissed⟩
    · exact ⟨session,(List.getElem?_set_ne (Ne.symm same)).trans present,dismissed⟩

theorem dismissed_now (sound : Sound s) (one : Step s action next) (ends : dismisses position action = true) :
    ∃ session, next.sessions[position]? = some session ∧ Dismissed session := by
  cases one with
  | accept => cases ends
  | @session moved current act after _ found one =>
    obtain ⟨rfl,kind⟩ : moved = position ∧ (act = .disarm ∨ act = .force) := by
      simp only [dismisses,Bool.or_eq_true,decide_eq_true_iff,Action.session.injEq] at ends
      rcases ends with ⟨rfl,rfl⟩ | ⟨rfl,rfl⟩
      · exact ⟨rfl,.inl rfl⟩
      · exact ⟨rfl,.inr rfl⟩
    exact ⟨after,List.getElem?_set_self (List.getElem?_eq_some_iff.mp found).1,
      turn_dismisses one (sound.sane moved current found) kind⟩

theorem runs_ended (path : Runs initial trace s) : Ended trace s := by
  induction path with
  | nil =>
    intro position ended
    obtain ⟨_,impossible,_⟩ := ended
    cases impossible
  | @step trace middle action after prior one ih =>
    intro position ended
    obtain ⟨entry,present,ends⟩ := ended
    rcases List.mem_append.mp present with old | last
    · exact dismissed_kept one (ih position ⟨entry,old,ends⟩)
    · rw [List.mem_singleton.mp last] at ends
      exact dismissed_now (runs_sound prior) one ends

theorem force_first (prior : Runs initial past s) (one : Step s (.session position .force) next) :
    ∀ entry ∈ past, dismisses position entry.2 = false := by
  intro entry present
  rw [← Bool.not_eq_true]
  intro ends
  obtain ⟨session,found,dismissed⟩ := runs_ended prior position ⟨entry,present,ends⟩
  cases one with
  | session current turned =>
    rw [found] at current
    cases current
    exact dismissed.2.2 (force_holding turned)

structure Guarded (trace : List (State × Action)) : Prop where
  once : ∀ position, (trace.countP fun entry => decide (entry.2 = .session position .force)) ≤ 1
  disarmed : Machine.Justified (fun before entry => ∀ position, entry.2 = .session position .force →
    ∀ prior ∈ before, prior.2 ≠ .session position .disarm) trace
  owned : ∀ before position session, (before,.session position .force) ∈ trace →
    before.sessions[position]? = some session → before.owner session.fd = some position

-- The call does not come while the exception that has left the block of a TLS
-- session, and closed its descriptor there, is on its way to the destructor.
def sheltered (s : State) : Action → Bool
  | .session position .force =>
    match s.sessions[position]? with
    | some session => !(session.tls && decide (session.phase = .leaving))
    | none => true
  | _ => true

theorem runs_once (path : Runs initial trace s) (position : Nat) :
    (trace.countP fun entry => decide (entry.2 = .session position .force)) ≤ 1 := by
  induction path with
  | nil => exact Nat.zero_le _
  | @step trace middle action after prior one ih =>
    rw [List.countP_append,List.countP_singleton]
    split
    · rename_i calls
      have forced : action = .session position .force := of_decide_eq_true calls
      subst forced
      have none_before : (trace.countP fun entry => decide (entry.2 = .session position .force)) = 0 := by
        rw [List.countP_eq_zero]
        intro entry present called
        have calm := force_first prior one entry present
        rw [dismisses,called,Bool.or_true] at calm
        cases calm
      omega
    · exact ih

theorem runs_disarmed (path : Runs initial trace s) :
    Machine.Justified (fun before entry => ∀ position, entry.2 = .session position .force →
      ∀ prior ∈ before, prior.2 ≠ .session position .disarm) trace := by
  induction path with
  | nil => exact Machine.justified_nil
  | @step trace middle action after prior one ih =>
    rw [Machine.justified_append,Machine.justified_singleton]
    refine ⟨ih,?_⟩
    intro position forced entry present disarmed
    dsimp only at forced
    subst forced
    rw [List.append_nil] at present
    have calm := force_first prior one entry present
    simp [dismisses,disarmed] at calm

-- The number belongs to the connection at the call exactly when the call is
-- sheltered.
theorem owned_iff (sound : Sound s) (one : Step s (.session position .force) next)
    (present : s.sessions[position]? = some session) :
    s.owner session.fd = some position ↔ sheltered s (.session position .force) = true := by
  cases one with
  | session found turned =>
    rw [present] at found
    cases found
    rw [sound.owned position session present,
      holding_holds (sound.sane position session present) (force_holding turned)]
    simp only [sheltered,present]
    cases session.tls <;> simp

theorem watchdog_guarded_iff (path : Runs initial trace s) :
    Guarded trace ↔ ∀ entry ∈ trace, sheltered entry.1 entry.2 = true := by
  constructor
  · intro guarded entry present
    obtain ⟨before,action⟩ := entry
    obtain ⟨past,next,prior,_,one⟩ := path.member present
    dsimp only
    unfold sheltered
    split
    · rename_i position
      split
      · rename_i session found
        have owned := guarded.owned before position session present found
        have kept := (owned_iff (runs_sound prior) one found).mp owned
        simpa only [sheltered,found] using kept
      · rfl
    · rfl
  · intro permitted
    refine ⟨runs_once path,runs_disarmed path,?_⟩
    intro before position session present found
    obtain ⟨past,next,prior,_,one⟩ := path.member present
    exact (owned_iff (runs_sound prior) one found).mpr (permitted _ present)

end Watchdogs

-- A TLS client that stays silent: the watchdog ends its handshake, and the
-- number goes to a plain connection whose request arrives in time.
def silentClient : List Action :=
  [.accept 7 true,.session 0 .watch,.session 0 .timeout,.session 0 .force,.session 0 .leave,
    .accept 7 false,.session 0 .disarm,.session 0 .join,.session 0 .close,
    .session 1 .watch,.session 1 .request,.session 1 .disarm,.session 1 .leave,.session 1 .disarm,
    .session 1 .wake,.session 1 .join,.session 1 .close]

theorem watchdog_guarded_iff_silent_client : ∃ trace s, Runs initial trace s ∧
    trace.map Prod.snd = silentClient ∧ s.owner 7 = none ∧ Guarded trace := by
  obtain ⟨s,ran,closed⟩ : ∃ s, Machine.replay advance sheltered initial silentClient = some s ∧
      s.owner 7 = none := ⟨_,rfl,rfl⟩
  obtain ⟨trace,same,path,permitted⟩ := Machine.replay_sound advance_sound ran
  exact ⟨trace,s,path,same,closed,(watchdog_guarded_iff path).mpr permitted⟩

-- The handshake fails as the time runs out. The exception closes the number
-- before the watchdog is disarmed, and the next connection has it when the
-- watchdog shuts it down.
def failedHandshake : List Action :=
  [.accept 7 true,.session 0 .watch,.session 0 .leave,.accept 7 false,.session 0 .timeout]

theorem watchdog_shuts_foreign_descriptor : ∃ trace s next, Runs initial trace s ∧
    trace.map Prod.snd = failedHandshake ∧ s.owner 7 = some 1 ∧
    Step s (.session 0 .force) next ∧ ¬ Guarded (trace ++ [(s,.session 0 .force)]) := by
  obtain ⟨s,next,session,ran,foreign,present,fd,forced⟩ : ∃ s next session,
      Machine.replay advance (fun _ _ => true) initial failedHandshake = some s ∧ s.owner 7 = some 1 ∧
      s.sessions[0]? = some session ∧ session.fd = 7 ∧ advance s (.session 0 .force) = some next :=
    ⟨_,_,_,rfl,rfl,rfl,rfl,rfl⟩
  obtain ⟨trace,same,path,_⟩ := Machine.replay_sound advance_sound ran
  refine ⟨trace,s,next,path,same,foreign,advance_sound forced,?_⟩
  intro guarded
  have owned := guarded.owned s 0 session (by simp) present
  rw [fd,foreign] at owned
  cases owned

end JotaTranscriber.HandshakeWatchdog

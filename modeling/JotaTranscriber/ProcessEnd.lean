import JotaTranscriber.StreamingSession
import JotaTranscriber.GracefulShutdown

-- The end of the process: main's joins, the thread that refreshes the trusted
-- proxies, and the detached thread that ends them all after shutdown_timeout_sec.
namespace JotaTranscriber.ProcessEnd
open StreamingSession GracefulShutdown

-- `refreshing` is inside refresh(), whose lookups may take any time; `checking`
-- and `testing` are the conditions of the two loops, and `deciding` is the second
-- look at the flag.
inductive Refresher where
  | absent
  | refreshing
  | checking
  | testing (deadline : Instant)
  | sleeping (deadline wakes : Instant)
  | deciding
  | returned
  deriving DecidableEq, Repr

-- `launched` has not computed its deadline, and `exiting` is about to call
-- std::exit.
inductive Watchdog where
  | absent
  | launched
  | checking (deadline : Instant)
  | comparing (deadline : Instant)
  | sleeping (deadline wakes : Instant)
  | exiting
  | returned
  deriving DecidableEq, Repr

inductive Ending where
  | returned
  | forced
  deriving DecidableEq, Repr

structure State where
  server : GracefulShutdown.State
  refresher : Refresher
  watchdog : Watchdog
  stopTrustedRefresh : Bool
  allJoined : Bool
  clock : Instant
  ended : Option Ending

inductive Action where
  | wait (elapsed : Nat)
  | server (action : GracefulShutdown.Action)
  | refresher
  | launch
  | watchdog
  | exit
  | disarm
  | leave
  deriving DecidableEq, Repr

-- The thread is only there with trusted proxies configured.
def initial (proxies : Bool) (now : Instant) : State :=
  { server := GracefulShutdown.initial
    refresher := if proxies then .refreshing else .absent
    watchdog := .absent
    stopTrustedRefresh := false
    allJoined := false
    clock := now
    ended := none }

def Refresher.advance (refreshSec : CInt) (stop : Bool) (now : Instant) : Refresher → Option Refresher
  | .refreshing => some .checking
  | .checking => some (if stop then .returned else .testing (now + seconds refreshSec.val))
  | .testing deadline =>
    some (if !stop && decide (now < deadline) then .sleeping deadline (now + milliseconds 200) else .deciding)
  | .sleeping deadline wakes => if wakes ≤ now then some (.testing deadline) else none
  | .deciding => some (if stop then .checking else .refreshing)
  | .absent | .returned => none

def Watchdog.advance (timeoutSec : CInt) (allJoined : Bool) (now : Instant) : Watchdog → Option Watchdog
  | .launched => some (.checking (now + seconds timeoutSec.val))
  | .checking deadline => some (if allJoined then .returned else .comparing deadline)
  | .comparing deadline =>
    some (if deadline ≤ now then .exiting else .sleeping deadline (now + milliseconds 100))
  | .sleeping deadline wakes => if wakes ≤ now then some (.checking deadline) else none
  | .absent | .exiting | .returned => none

def gone : Refresher → Bool
  | .absent | .returned => true
  | _ => false

-- Main launches the watchdog before its joins, and joins the refresh thread
-- between the session threads and ioc.stop().
def permitted (s : State) : GracefulShutdown.Action → Bool
  | .joinSessions => decide (s.watchdog ≠ .absent)
  | .stop => gone s.refresher
  | _ => true

variable (refreshSec timeoutSec : CInt)

-- The flag of the refresh thread is the last thing that the signal handler sets.
-- No thread goes on behind the call of std::exit or the return of main.
inductive Move : State → Action → State → Prop where
  | wait : Move s (.wait elapsed) { s with clock := s.clock + elapsed }
  | server (one : GracefulShutdown.Step s.server action server) (allowed : permitted s action = true) :
      Move s (.server action) { s with
        server
        stopTrustedRefresh := s.stopTrustedRefresh || decide (action = .finishHandler) }
  | refresher (ran : s.refresher.advance refreshSec s.stopTrustedRefresh s.clock = some refresher) :
      Move s .refresher { s with refresher }
  | launch (pc : s.server.main = .joining) (absent : s.watchdog = .absent) :
      Move s .launch { s with watchdog := .launched }
  | watchdog (ran : s.watchdog.advance timeoutSec s.allJoined s.clock = some watchdog) :
      Move s .watchdog { s with watchdog }
  | exit (pc : s.watchdog = .exiting) : Move s .exit { s with ended := some .forced }
  | disarm (pc : s.server.main = .returned) : Move s .disarm { s with allJoined := true }
  | leave (joined : s.allJoined = true) : Move s .leave { s with ended := some .returned }

def Step (s : State) (action : Action) (next : State) : Prop :=
  s.ended = none ∧ Move refreshSec timeoutSec s action next

abbrev Runs := Machine.Runs (Step refreshSec timeoutSec)

def advance (s : State) (action : Action) : Option State :=
  if s.ended = none then
    match action with
    | .wait elapsed => some { s with clock := s.clock + elapsed }
    | .server action =>
      if permitted s action then
        (GracefulShutdown.advance s.server action).map fun server => { s with
          server
          stopTrustedRefresh := s.stopTrustedRefresh || decide (action = .finishHandler) }
      else none
    | .refresher =>
      (s.refresher.advance refreshSec s.stopTrustedRefresh s.clock).map fun refresher =>
        { s with refresher }
    | .launch =>
      if s.server.main = .joining ∧ s.watchdog = .absent then some { s with watchdog := .launched } else none
    | .watchdog =>
      (s.watchdog.advance timeoutSec s.allJoined s.clock).map fun watchdog => { s with watchdog }
    | .exit => if s.watchdog = .exiting then some { s with ended := some .forced } else none
    | .disarm => if s.server.main = .returned then some { s with allJoined := true } else none
    | .leave => if s.allJoined then some { s with ended := some .returned } else none
  else none

theorem advance_sound {s next : State} (ran : advance refreshSec timeoutSec s action = some next) :
    Step refreshSec timeoutSec s action next := by
  obtain ⟨live,ran⟩ := Option.ite_none_right_eq_some.mp ran
  refine ⟨live,?_⟩
  cases action with
  | wait => cases ran; exact .wait
  | server =>
    obtain ⟨allowed,ran⟩ := Option.ite_none_right_eq_some.mp ran
    obtain ⟨server,one,rfl⟩ := Option.map_eq_some_iff.mp ran
    exact .server (GracefulShutdown.advance_sound one) allowed
  | refresher =>
    obtain ⟨refresher,one,rfl⟩ := Option.map_eq_some_iff.mp ran
    exact .refresher one
  | launch =>
    obtain ⟨⟨pc,absent⟩,same⟩ := Option.ite_none_right_eq_some.mp ran
    cases same
    exact .launch pc absent
  | watchdog =>
    obtain ⟨watchdog,one,rfl⟩ := Option.map_eq_some_iff.mp ran
    exact .watchdog one
  | exit =>
    obtain ⟨pc,same⟩ := Option.ite_none_right_eq_some.mp ran
    cases same
    exact .exit pc
  | disarm =>
    obtain ⟨pc,same⟩ := Option.ite_none_right_eq_some.mp ran
    cases same
    exact .disarm pc
  | leave =>
    obtain ⟨joined,same⟩ := Option.ite_none_right_eq_some.mp ran
    cases same
    exact .leave joined

section Server
variable {s next : GracefulShutdown.State} {position : Nat}

structure Ordered (s : GracefulShutdown.State) : Prop where
  begun : s.io = .absent ↔ s.main = .starting
  waits : s.main = .starting ∨ s.main = .registering ∨ s.waiting = true
  joined : past s.main = true → ∀ session ∈ s.sessions, session = .finished
  halted : s.stopped = true ↔ s.main = .joiningIo ∨ s.main = .returned
  ended : s.main = .returned → s.io = .returned

theorem initial_ordered : Ordered GracefulShutdown.initial where
  begun := ⟨fun _ => rfl,fun _ => rfl⟩
  waits := .inl rfl
  joined := nofun
  halted := by simp [GracefulShutdown.initial]
  ended := nofun

theorem Ordered.handled (ordered : Ordered s) {io : IoThread} (here : s.io ≠ .absent)
    (there : io ≠ .absent) (before : s.io ≠ .returned) (acceptorOpen passed : Bool) (shut : List Nat) :
    Ordered { s with io, acceptorOpen, passed, shut } where
  begun := ⟨fun absent => absurd absent there,fun pc => absurd (ordered.begun.mpr pc) here⟩
  waits := ordered.waits
  joined := ordered.joined
  halted := ordered.halted
  ended := fun pc => absurd (ordered.ended pc) before

theorem Ordered.front (ordered : Ordered s) (here : s.waiting = true) (busy : s.main ≠ .starting)
    (running : s.main ≠ .joiningIo ∧ s.main ≠ .returned) {main : MainThread}
    (there : main ≠ .starting ∧ past main = false) (sessions : List SessionThread) :
    Ordered { s with main, sessions } where
  begun := ⟨fun absent => absurd (ordered.begun.mp absent) busy,fun pc => absurd pc there.1⟩
  waits := .inr (.inr here)
  joined := fun behind => by rw [there.2] at behind; cases behind
  halted := by
    constructor
    · intro stopped
      rcases ordered.halted.mp stopped with pc | pc
      · exact absurd pc running.1
      · exact absurd pc running.2
    · rintro (pc | pc)
      all_goals have behind := there.2; rw [show main = _ from pc] at behind; cases behind
  ended := fun pc => by
    have behind := there.2
    rw [show main = _ from pc] at behind
    cases behind

theorem Ordered.waiting (ordered : Ordered s) (underway : s.main ≠ .starting ∧ s.main ≠ .registering) :
    s.waiting = true := by
  rcases ordered.waits with pc | pc | waits
  · exact absurd pc underway.1
  · exact absurd pc underway.2
  · exact waits

theorem Ordered.unfinished (ordered : Ordered s) {session : SessionThread}
    (pc : s.sessions[position]? = some session) (busy : session ≠ .finished) : past s.main = false := by
  rw [← Bool.not_eq_true]
  intro behind
  exact busy (ordered.joined behind session (List.mem_of_getElem? pc))

theorem ordered_preserved (ordered : Ordered s) (one : GracefulShutdown.Step s action next) :
    Ordered next := by
  cases one with
  | launchIo pc absent =>
    have live : s.stopped = false := by
      rw [← Bool.not_eq_true,ordered.halted,pc]
      nofun
    exact {
      begun := ⟨nofun,nofun⟩
      waits := .inr (.inl rfl)
      joined := nofun
      halted := by simp [live]
      ended := nofun }
  | asyncWait pc =>
    have launched : s.io ≠ .absent := fun absent => by
      rw [ordered.begun.mp absent] at pc
      cases pc
    have live : s.stopped = false := by
      rw [← Bool.not_eq_true,ordered.halted,pc]
      nofun
    exact {
      begun := ⟨fun absent => absurd absent launched,nofun⟩
      waits := .inr (.inr rfl)
      joined := nofun
      halted := by simp [live]
      ended := nofun }
  | check pc =>
    refine ordered.front (ordered.waiting (by simp [pc])) (by simp [pc]) (by simp [pc]) ?_ s.sessions
    cases s.acceptorOpen <;> exact ⟨nofun,rfl⟩
  | @acceptFails _ leaves pc =>
    refine ordered.front (ordered.waiting (by simp [pc])) (by simp [pc]) (by simp [pc]) ?_ s.sessions
    cases leaves <;> exact ⟨nofun,rfl⟩
  | accept pc | turnAway pc | spawn pc =>
    exact ordered.front (ordered.waiting (by simp [pc])) (by simp [pc]) (by simp [pc]) (by exact ⟨nofun,rfl⟩) _
  | joinSessions pc finished =>
    have waits := ordered.waiting (by simp [pc])
    have live : s.stopped = false := by
      rw [← Bool.not_eq_true,ordered.halted,pc]
      nofun
    exact {
      begun := ⟨fun absent => absurd (ordered.begun.mp absent) (by rw [pc]; nofun),nofun⟩
      waits := .inr (.inr waits)
      joined := fun _ => finished
      halted := by simp [live]
      ended := nofun }
  | stop pc =>
    have waits := ordered.waiting (by simp [pc])
    exact {
      begun := ⟨fun absent => absurd (ordered.begun.mp absent) (by rw [pc]; nofun),nofun⟩
      waits := .inr (.inr waits)
      joined := fun _ => ordered.joined (by rw [pc]; rfl)
      halted := ⟨fun _ => .inl rfl,fun _ => rfl⟩
      ended := nofun }
  | joinIo pc ended =>
    have waits := ordered.waiting (by simp [pc])
    exact {
      begun := ⟨fun absent => absurd (ordered.begun.mp absent) (by rw [pc]; nofun),nofun⟩
      waits := .inr (.inr waits)
      joined := fun _ => ordered.joined (by rw [pc]; rfl)
      halted := ⟨fun _ => .inr rfl,fun _ => ordered.halted.mpr (.inl pc)⟩
      ended := fun _ => ended }
  | ioRun pc =>
    refine ordered.handled (by simp [pc]) ?_ (by simp [pc]) s.acceptorOpen s.passed s.shut
    split <;> nofun
  | ioStops pc | deliver pc | closeAcceptor pc | lock pc | shutdown pc | unlock pc | finishHandler pc =>
    exact ordered.handled (by simp [pc]) (by nofun) (by simp [pc]) _ _ _
  | signal => exact ⟨ordered.begun,ordered.waits,ordered.joined,ordered.halted,ordered.ended⟩
  | register pc | leave pc | unregister pc =>
    have front := ordered.unfinished pc nofun
    exact { ordered with joined := fun behind => by rw [front] at behind; cases behind }

theorem main_step (one : GracefulShutdown.Step s action next) :
    next.main = s.main ∨ past s.main = false ∧ past next.main = false ∨
      action = .joinSessions ∧ s.main = .joining ∧ next.main = .stopping ∨
      action = .stop ∧ s.main = .stopping ∧ next.main = .joiningIo ∨
      action = .joinIo ∧ s.main = .joiningIo ∧ next.main = .returned := by
  cases one with
  | launchIo pc | asyncWait pc | accept pc | turnAway pc | spawn pc =>
    exact .inr (.inl ⟨by rw [pc]; rfl,rfl⟩)
  | check pc =>
    refine .inr (.inl ⟨by rw [pc]; rfl,?_⟩)
    cases s.acceptorOpen <;> rfl
  | @acceptFails _ leaves pc =>
    refine .inr (.inl ⟨by rw [pc]; rfl,?_⟩)
    cases leaves <;> rfl
  | joinSessions pc => exact .inr (.inr (.inl ⟨rfl,pc,rfl⟩))
  | stop pc => exact .inr (.inr (.inr (.inl ⟨rfl,pc,rfl⟩)))
  | joinIo pc => exact .inr (.inr (.inr (.inr ⟨rfl,pc,rfl⟩)))
  | _ => exact .inl rfl

end Server

structure Sound (s : State) : Prop where
  ordered : Ordered s.server
  watched : past s.server.main = true → s.watchdog ≠ .absent
  refreshed : s.server.main = .joiningIo ∨ s.server.main = .returned → gone s.refresher = true
  joined : s.allJoined = true → s.server.main = .returned
  dismissed : s.watchdog = .returned → s.allJoined = true
  left : s.ended = some .returned → s.allJoined = true

variable {s next : State} {action : Action}

theorem initial_sound (proxies : Bool) (now : Instant) : Sound (initial proxies now) where
  ordered := initial_ordered
  watched := nofun
  refreshed := by simp [initial,GracefulShutdown.initial]
  joined := nofun
  dismissed := nofun
  left := nofun

theorem gone_advance (ended : gone refresher = true) (stop : Bool) (now : Instant) :
    refresher.advance refreshSec stop now = none := by
  cases refresher <;> first | rfl | cases ended

theorem watchdog_advance {watchdog after : Watchdog}
    (ran : watchdog.advance timeoutSec allJoined now = some after) :
    watchdog ≠ .absent ∧ after ≠ .absent ∧ (after = .returned → allJoined = true) := by
  cases watchdog with
  | absent | exiting | returned => cases ran
  | launched => cases ran; exact ⟨nofun,nofun,nofun⟩
  | checking =>
    cases ran
    cases allJoined <;> exact ⟨nofun,nofun,by simp⟩
  | comparing =>
    simp only [Watchdog.advance] at ran
    split at ran <;> cases ran <;> exact ⟨nofun,nofun,nofun⟩
  | sleeping =>
    simp only [Watchdog.advance] at ran
    split at ran
    · cases ran; exact ⟨nofun,nofun,nofun⟩
    · cases ran

theorem server_sound {call : GracefulShutdown.Action} (sound : Sound s) (live : s.ended = none)
    (one : GracefulShutdown.Step s.server call server) (allowed : permitted s call = true) (stop : Bool) :
    Sound { s with server, stopTrustedRefresh := stop } where
  ordered := ordered_preserved sound.ordered one
  watched := by
    intro behind
    rcases main_step one with same | ⟨_,front⟩ | ⟨rfl,_,_⟩ | ⟨_,pc,_⟩ | ⟨_,pc,_⟩
    · exact sound.watched (same ▸ behind)
    · rw [front] at behind; cases behind
    · exact of_decide_eq_true allowed
    · exact sound.watched (by rw [pc]; rfl)
    · exact sound.watched (by rw [pc]; rfl)
  refreshed := by
    intro pc
    rcases main_step one with same | ⟨_,front⟩ | ⟨_,_,other⟩ | ⟨rfl,_,_⟩ | ⟨_,before,_⟩
    · exact sound.refreshed (same ▸ pc)
    · rcases pc with pc | pc <;> rw [show server.main = _ from pc] at front <;> cases front
    · rcases pc with pc | pc <;> rw [show server.main = _ from pc] at other <;> cases other
    · exact allowed
    · exact sound.refreshed (.inl before)
  joined := by
    intro all
    have pc := sound.joined all
    rcases main_step one with same | ⟨front,_⟩ | ⟨_,other,_⟩ | ⟨_,other,_⟩ | ⟨_,_,done⟩
    · exact same.trans pc
    · rw [pc] at front; cases front
    · rw [pc] at other; cases other
    · rw [pc] at other; cases other
    · exact done
  dismissed := sound.dismissed
  left := fun ended => by rw [show s.ended = _ from ended] at live; cases live

theorem sound_preserved (sound : Sound s) (one : Step refreshSec timeoutSec s action next) : Sound next := by
  obtain ⟨live,move⟩ := one
  cases move with
  | wait => exact ⟨sound.ordered,sound.watched,sound.refreshed,sound.joined,sound.dismissed,sound.left⟩
  | server one allowed => exact server_sound sound live one allowed _
  | refresher ran =>
    refine { sound with refreshed := fun pc => ?_ }
    rw [gone_advance refreshSec (sound.refreshed pc)] at ran
    cases ran
  | launch => exact { sound with watched := fun _ => nofun, dismissed := nofun }
  | watchdog ran =>
    obtain ⟨_,present,joined⟩ := watchdog_advance timeoutSec ran
    exact { sound with watched := fun _ => present, dismissed := joined }
  | exit => exact { sound with left := nofun }
  | disarm pc =>
    exact { sound with joined := fun _ => pc, dismissed := fun _ => rfl, left := fun _ => rfl }
  | leave joined => exact { sound with left := fun _ => joined }

theorem runs_sound (path : Runs refreshSec timeoutSec (initial proxies now) trace s) : Sound s :=
  path.invariant (initial_sound proxies now) fun sound one => sound_preserved refreshSec timeoutSec sound one

def Returns (s : State) : Prop :=
  ∃ later after, Runs refreshSec timeoutSec s later after ∧ after.ended = some .returned

structure Running (s : State) : Prop where
  sound : Sound s
  live : s.ended = none

section Joins
variable {refreshSec timeoutSec} (running : Running s)
include running

theorem returns_move (move : Move refreshSec timeoutSec s action next) (live : next.ended = none)
    (rest : Running next → Returns refreshSec timeoutSec next) : Returns refreshSec timeoutSec s := by
  have one : Step refreshSec timeoutSec s action next := ⟨running.live,move⟩
  obtain ⟨later,after,path,ended⟩ := rest ⟨sound_preserved refreshSec timeoutSec running.sound one,live⟩
  exact ⟨_,after,(Machine.Runs.single one).append path,ended⟩

theorem returns_server {call : GracefulShutdown.Action} (one : GracefulShutdown.Step s.server call server)
    (allowed : permitted s call = true)
    (rest : Running { s with
        server
        stopTrustedRefresh := s.stopTrustedRefresh || decide (call = .finishHandler) } →
      Returns refreshSec timeoutSec { s with
        server
        stopTrustedRefresh := s.stopTrustedRefresh || decide (call = .finishHandler) }) :
    Returns refreshSec timeoutSec s :=
  returns_move running (.server one allowed) running.live rest

theorem returns_returned (pc : s.server.main = .returned) : Returns refreshSec timeoutSec s :=
  returns_move running (.disarm pc) running.live fun running =>
    ⟨_,_,Machine.Runs.single ⟨running.live,.leave rfl⟩,rfl⟩

theorem returns_finishing (pc : s.server.io = .finishing)
    (rest : ∀ {next}, Running next → next.server.main = s.server.main → next.refresher = s.refresher →
      next.server.io = .returned → next.stopTrustedRefresh = true → Returns refreshSec timeoutSec next) :
    Returns refreshSec timeoutSec s :=
  returns_server running (.finishHandler pc) rfl fun running => rest running rfl rfl rfl (by simp)

theorem returns_passing (visits : List Nat) (pc : s.server.io = .passing visits)
    (rest : ∀ {next}, Running next → next.server.main = s.server.main → next.refresher = s.refresher →
      next.server.io = .returned → next.stopTrustedRefresh = true → Returns refreshSec timeoutSec next) :
    Returns refreshSec timeoutSec s := by
  induction visits generalizing s with
  | nil => exact returns_server running (.unlock pc) rfl fun running => returns_finishing running rfl rest
  | cons position visits ih =>
    exact returns_server running (.shutdown pc) rfl fun running => ih running rfl rest

def handling : IoThread → Bool
  | .closingAcceptor | .locking | .passing _ | .finishing => true
  | _ => false

theorem returns_handling (pc : handling s.server.io = true)
    (rest : ∀ {next}, Running next → next.server.main = s.server.main → next.refresher = s.refresher →
      next.server.io = .returned → next.stopTrustedRefresh = true → Returns refreshSec timeoutSec next) :
    Returns refreshSec timeoutSec s := by
  have locks {s : State} (running : Running s) (pc : s.server.io = .locking)
      (rest : ∀ {next}, Running next → next.server.main = s.server.main → next.refresher = s.refresher →
        next.server.io = .returned → next.stopTrustedRefresh = true → Returns refreshSec timeoutSec next) :
      Returns refreshSec timeoutSec s :=
    returns_server running (.lock pc (List.Perm.refl s.server.tracker)) rfl fun running =>
      returns_passing running _ rfl rest
  cases io : s.server.io with
  | closingAcceptor =>
    exact returns_server running (.closeAcceptor io) rfl fun running => locks running rfl rest
  | locking => exact locks running io rest
  | passing => exact returns_passing running _ io rest
  | finishing => exact returns_finishing running io rest
  | absent | launched | running | returned => rw [io] at pc; cases pc

theorem returns_joiningIo (pc : s.server.main = .joiningIo) : Returns refreshSec timeoutSec s := by
  have joins {s : State} (running : Running s) (pc : s.server.main = .joiningIo)
      (ended : s.server.io = .returned) : Returns refreshSec timeoutSec s :=
    returns_server running (.joinIo pc ended) rfl fun running => returns_returned running rfl
  have ordered := running.sound.ordered
  have halted : s.server.stopped = true := ordered.halted.mpr (.inl pc)
  cases io : s.server.io with
  | absent =>
    rw [ordered.begun.mp io] at pc
    cases pc
  | launched =>
    exact returns_server running (.ioRun io) rfl fun running => joins running pc (by simp [halted])
  | running => exact returns_server running (.ioStops io halted) rfl fun running => joins running pc rfl
  | closingAcceptor | locking | passing | finishing =>
    exact returns_handling running (by rw [io]; rfl) fun running same _ ended _ =>
      joins running (same.trans pc) ended
  | returned => exact joins running pc io

theorem returns_stopping (pc : s.server.main = .stopping) (ended : gone s.refresher = true) :
    Returns refreshSec timeoutSec s :=
  returns_server running (.stop pc) ended fun running => returns_joiningIo running rfl

theorem returns_unfinished (front rest : List SessionThread) (split : s.server.sessions = front ++ rest)
    (finished : ∀ session ∈ front, session = .finished) (pc : s.server.main = .joining)
    (free : passing s.server = false) (watched : s.watchdog ≠ .absent) (ended : gone s.refresher = true) :
    Returns refreshSec timeoutSec s := by
  induction rest generalizing s front with
  | nil =>
    rw [List.append_nil] at split
    exact returns_server running (.joinSessions pc (split ▸ finished)) (decide_eq_true watched)
      fun running => returns_stopping running rfl ended
  | cons session rest ih =>
    have here : s.server.sessions[front.length]? = some session := by rw [split]; simp
    have after : s.server.sessions.set front.length .finished = (front ++ [.finished]) ++ rest := by
      rw [split]
      simp
    have all : ∀ session ∈ front ++ [SessionThread.finished], session = .finished :=
      List.forall_mem_append.mpr ⟨finished,List.forall_mem_singleton.mpr rfl⟩
    cases session with
    | finished => exact ih running (front ++ [.finished]) (by rw [split]; simp) all pc free watched ended
    | opening =>
      exact returns_server running (.leave here) rfl fun running =>
        ih running _ after all pc free watched ended
    | serving =>
      exact returns_server running (.unregister here free) rfl fun running =>
        ih running _ after all pc free watched ended

def joins (main : MainThread) : Prop :=
  main = .joining ∨ main = .stopping

theorem returns_gone (at_join : joins s.server.main) (free : passing s.server = false)
    (ended : gone s.refresher = true) : Returns refreshSec timeoutSec s := by
  rcases at_join with pc | pc
  · by_cases absent : s.watchdog = .absent
    · exact returns_move running (.launch pc absent) running.live fun running =>
        returns_unfinished running [] _ rfl (List.forall_mem_nil _) pc free nofun ended
    · exact returns_unfinished running [] _ rfl (List.forall_mem_nil _) pc free absent ended
  · exact returns_stopping running pc ended

theorem returns_refresher (after : Refresher)
    (ran : s.refresher.advance refreshSec s.stopTrustedRefresh s.clock = some after)
    (rest : Running { s with refresher := after } → Returns refreshSec timeoutSec { s with refresher := after }) :
    Returns refreshSec timeoutSec s :=
  returns_move running (.refresher ran) running.live rest

theorem returns_told (at_join : joins s.server.main) (free : passing s.server = false)
    (told : s.stopTrustedRefresh = true) : Returns refreshSec timeoutSec s := by
  have leaves {s : State} (running : Running s) (at_join : joins s.server.main)
      (free : passing s.server = false) (told : s.stopTrustedRefresh = true) (pc : s.refresher = .checking) :
      Returns refreshSec timeoutSec s :=
    returns_refresher running .returned (by simp [Refresher.advance,pc,told]) fun running =>
      returns_gone running at_join free rfl
  have decides {s : State} (running : Running s) (at_join : joins s.server.main)
      (free : passing s.server = false) (told : s.stopTrustedRefresh = true) (pc : s.refresher = .deciding) :
      Returns refreshSec timeoutSec s :=
    returns_refresher running .checking (by simp [Refresher.advance,pc,told]) fun running =>
      leaves running at_join free told rfl
  have tests {s : State} {deadline : Instant} (running : Running s) (at_join : joins s.server.main)
      (free : passing s.server = false) (told : s.stopTrustedRefresh = true)
      (pc : s.refresher = .testing deadline) : Returns refreshSec timeoutSec s :=
    returns_refresher running .deciding (by simp [Refresher.advance,pc,told]) fun running =>
      decides running at_join free told rfl
  cases pc : s.refresher with
  | absent | returned => exact returns_gone running at_join free (by rw [pc]; rfl)
  | refreshing =>
    exact returns_refresher running .checking (by rw [pc]; rfl) fun running =>
      leaves running at_join free told rfl
  | checking => exact leaves running at_join free told pc
  | testing => exact tests running at_join free told pc
  | sleeping deadline wakes =>
    have due : wakes ≤ s.clock + (wakes - s.clock).toNat :=
      Int.le_add_of_sub_left_le (Int.self_le_toNat _)
    have slept : Move refreshSec timeoutSec s (.wait (wakes - s.clock).toNat)
        { s with clock := s.clock + (wakes - s.clock).toNat } := .wait
    refine returns_move running slept running.live fun running => ?_
    have woken : s.refresher.advance refreshSec s.stopTrustedRefresh (s.clock + (wakes - s.clock).toNat) =
        some (.testing deadline) := by
      rw [pc]
      exact if_pos due
    exact returns_refresher running (.testing deadline) woken fun running => tests running at_join free told rfl
  | deciding => exact decides running at_join free told pc

-- No refresh thread is left, or it has been told to stop, or the handler that
-- will tell it can still run.
def saved (s : State) : Bool :=
  gone s.refresher || s.stopTrustedRefresh || decide (s.server.io ≠ .returned)

theorem returns_handled (at_join : joins s.server.main) (pc : handling s.server.io = true) :
    Returns refreshSec timeoutSec s :=
  returns_handling running pc fun running main _ io told =>
    returns_told running (by rwa [main]) (by simp [passing,io]) told

-- A signal may still come while the io thread waits for one.
theorem returns_signalled (at_join : joins s.server.main) (live : s.server.stopped = false)
    (waiting : s.server.waiting = true) (pc : s.server.io = .running) : Returns refreshSec timeoutSec s :=
  returns_server running (.signal waiting) rfl fun running =>
    returns_server running (.deliver pc live rfl) rfl fun running => returns_handled running at_join rfl

theorem returns_joins (at_join : joins s.server.main) (kept : saved s = true) :
    Returns refreshSec timeoutSec s := by
  have ordered := running.sound.ordered
  have live : s.server.stopped = false := by
    rw [← Bool.not_eq_true,ordered.halted]
    rcases at_join with pc | pc <;> rw [pc] <;> nofun
  have waiting : s.server.waiting = true :=
    ordered.waiting (by rcases at_join with pc | pc <;> rw [pc] <;> exact ⟨nofun,nofun⟩)
  cases io : s.server.io with
  | absent =>
    have early := ordered.begun.mp io
    rcases at_join with pc | pc <;> rw [pc] at early <;> cases early
  | launched =>
    exact returns_server running (.ioRun io) rfl fun running =>
      returns_signalled running at_join live waiting (by simp [waiting,live])
  | running => exact returns_signalled running at_join live waiting io
  | closingAcceptor | locking | passing | finishing =>
    exact returns_handled running at_join (by rw [io]; rfl)
  | returned =>
    have free : passing s.server = false := by simp [passing,io]
    simp only [saved,Bool.or_eq_true,io,ne_eq,not_true_eq_false,decide_false,Bool.false_eq_true,or_false]
      at kept
    rcases kept with ended | told
    · exact returns_gone running at_join free ended
    · exact returns_told running at_join free told

-- accept() may fail at any time with an error that ends the loop.
theorem returns_accepting (pc : s.server.main = .accepting) (kept : saved s = true) :
    Returns refreshSec timeoutSec s := by
  have fails : GracefulShutdown.Step s.server (.acceptFails true) { s.server with main := .joining } :=
    .acceptFails pc
  exact returns_server running fails rfl fun running =>
    returns_joins running (.inl rfl) (by simpa [saved] using kept)

theorem returns_checking (pc : s.server.main = .checking) (kept : saved s = true) :
    Returns refreshSec timeoutSec s := by
  refine returns_server running (.check pc) rfl fun running => ?_
  have still {server : GracefulShutdown.State} (same : server.io = s.server.io) :
      saved { s with server, stopTrustedRefresh := s.stopTrustedRefresh || false } = true := by
    simpa [saved,same] using kept
  rcases Bool.eq_false_or_eq_true s.server.acceptorOpen with isOpen | isOpen
  · exact returns_accepting running (by simp [isOpen]) (still rfl)
  · exact returns_joins running (.inl (by simp [isOpen])) (still rfl)

theorem returns_registering (pc : s.server.main = .registering) (kept : saved s = true) :
    Returns refreshSec timeoutSec s :=
  returns_server running (.asyncWait pc) rfl fun running =>
    returns_checking running rfl (by simpa [saved] using kept)

theorem returns_kept (kept : saved s = true) : Returns refreshSec timeoutSec s := by
  cases pc : s.server.main with
  | starting =>
    exact returns_server running (.launchIo pc (running.sound.ordered.begun.mpr pc)) rfl fun running =>
      returns_registering running rfl (by simp [saved])
  | registering => exact returns_registering running pc kept
  | checking => exact returns_checking running pc kept
  | accepting => exact returns_accepting running pc kept
  | accepted =>
    exact returns_server running (.turnAway pc) rfl fun running =>
      returns_checking running rfl (by simpa [saved] using kept)
  | joining => exact returns_joins running (.inl pc) kept
  | stopping => exact returns_joins running (.inr pc) kept
  | joiningIo => exact returns_joiningIo running pc
  | returned => exact returns_returned running pc

end Joins

theorem returned_stays {s next : GracefulShutdown.State} {call : GracefulShutdown.Action}
    (ended : s.io = .returned) (one : GracefulShutdown.Step s call next) :
    next.io = .returned ∧ call ≠ .finishHandler := by
  cases one with
  | launchIo pc absent => rw [absent] at ended; cases ended
  | ioRun pc | ioStops pc | deliver pc | closeAcceptor pc | lock pc | shutdown pc | unlock pc
  | finishHandler pc => rw [pc] at ended; cases ended
  | _ => exact ⟨ended,nofun⟩

theorem refreshing_on (busy : gone refresher = false) (ran : refresher.advance refreshSec false now = some after) :
    gone after = false := by
  cases refresher with
  | absent | returned => cases busy
  | refreshing | checking | deciding => cases ran; rfl
  | testing =>
    simp only [Refresher.advance] at ran
    split at ran <;> cases ran <;> rfl
  | sleeping =>
    simp only [Refresher.advance] at ran
    split at ran <;> cases ran
    rfl

theorem lost_preserved (lost : saved s = false) (one : Step refreshSec timeoutSec s action next) :
    saved next = false := by
  obtain ⟨live,move⟩ := one
  cases move with
  | server one =>
    simp only [saved,Bool.or_eq_false_iff,decide_eq_false_iff_not,ne_eq,not_not] at lost
    obtain ⟨⟨busy,untold⟩,ended⟩ := lost
    obtain ⟨still,other⟩ := returned_stays ended one
    simp [saved,busy,untold,still,other]
  | refresher ran =>
    simp only [saved,Bool.or_eq_false_iff] at lost
    obtain ⟨⟨busy,untold⟩,ended⟩ := lost
    rw [untold] at ran
    simp only [saved,Bool.or_eq_false_iff]
    exact ⟨⟨refreshing_on refreshSec busy ran,untold⟩,ended⟩
  | wait | launch | watchdog | exit | disarm | leave => exact lost

-- The process can still end by main's return, all threads joined, exactly if
-- the refresh thread is over or will learn that it is to stop.
theorem returns_iff (path : Runs refreshSec timeoutSec (initial proxies now) trace s) (live : s.ended = none) :
    (∃ later after, Runs refreshSec timeoutSec s later after ∧ after.ended = some .returned) ↔
      saved s = true := by
  constructor
  · rintro ⟨later,after,run,ended⟩
    rw [← Bool.not_eq_false]
    intro lost
    have still := run.invariant (I := fun s => saved s = false) lost (lost_preserved refreshSec timeoutSec)
    have sound := runs_sound refreshSec timeoutSec (path.append run)
    have nobody := sound.refreshed (.inr (sound.joined (sound.left ended)))
    simp [saved,nobody] at still
  · exact returns_kept ⟨runs_sound refreshSec timeoutSec path,live⟩

-- The io thread has found nothing to wait for, and the signal handler never runs.
def unheard : List Action :=
  [.server .launchIo,.server .ioRun,.server .asyncWait,.server .check,.server (.acceptFails true),.launch]

theorem returns_iff_unheard : ∃ trace s, Runs ⟨60,by decide⟩ ⟨30,by decide⟩ (initial true 0) trace s ∧
    trace.map Prod.snd = unheard ∧ s.watchdog = .launched ∧
    ¬ ∃ later after, Runs ⟨60,by decide⟩ ⟨30,by decide⟩ s later after ∧ after.ended = some .returned := by
  obtain ⟨s,ran,live,launched,lost⟩ : ∃ s, Machine.replay (advance ⟨60,by decide⟩ ⟨30,by decide⟩)
      (fun _ _ => true) (initial true 0) unheard = some s ∧ s.ended = none ∧ s.watchdog = .launched ∧
      saved s = false := ⟨_,rfl,rfl,rfl,rfl⟩
  obtain ⟨trace,same,path,_⟩ := Machine.replay_sound (advance_sound _ _) ran
  refine ⟨trace,s,path,same,launched,fun returns => ?_⟩
  rw [(returns_iff _ _ path live).mp returns] at lost
  cases lost

end JotaTranscriber.ProcessEnd

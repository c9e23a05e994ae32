import JotaTranscriber.ProcessEnd

-- How long the process can outlast its accept loop.
namespace JotaTranscriber.ShutdownTimeout
open StreamingSession ProcessEnd

-- Neither the watchdog nor main behind its last join is kept waiting: time passes
-- only in the watchdog's sleep.
def prompt (s : State) : Action → Bool
  | .wait elapsed =>
    match s.watchdog with
    | .absent => true
    | .sleeping _ wakes => decide (s.clock + elapsed ≤ wakes)
    | _ => decide (elapsed = 0)
  | _ => true

-- The watchdog by itself, and main's return.
def own : Action → Bool
  | .wait _ | .watchdog | .exit | .leave => true
  | _ => false

variable (refreshSec timeoutSec : CInt)

-- The watchdog looks at the clock every 100 ms.
def limit (start : Instant) : Instant :=
  max start (start + seconds timeoutSec.val + milliseconds 100)

def Waits (start : Instant) (s : State) : Prop :=
  match s.watchdog with
  | .absent => False
  | .launched => start ≤ s.clock
  | .checking deadline | .comparing deadline | .sleeping deadline _ =>
    start + seconds timeoutSec.val ≤ deadline
  | .exiting => start + seconds timeoutSec.val ≤ s.clock
  | .returned => True

structure Patient (start : Instant) (s : State) : Prop where
  waits : Waits timeoutSec start s
  forced : s.ended = some .forced → start + seconds timeoutSec.val ≤ s.clock

def Punctual (start : Instant) (s : State) : Prop :=
  match s.watchdog with
  | .absent => False
  | .launched => s.clock = start
  | .checking deadline | .comparing deadline =>
    deadline = start + seconds timeoutSec.val ∧ s.clock ≤ limit timeoutSec start
  | .sleeping deadline wakes =>
    deadline = start + seconds timeoutSec.val ∧ s.clock ≤ wakes ∧ wakes ≤ limit timeoutSec start
  | .exiting | .returned => s.clock ≤ limit timeoutSec start

variable {refreshSec timeoutSec} {s next : State} {action : Action} {start : Instant}

theorem Waits.later (waits : Waits timeoutSec start s) (same : next.watchdog = s.watchdog)
    (later : s.clock ≤ next.clock) : Waits timeoutSec start next := by
  unfold Waits at waits ⊢
  rw [same]
  cases pc : s.watchdog with
  | launched | exiting =>
    simp only [pc] at waits ⊢
    exact Int.le_trans waits later
  | absent => simp only [pc] at waits
  | checking | comparing | sleeping => simpa only [pc] using waits
  | returned => trivial

theorem watchdog_waits (waits : Waits timeoutSec start s)
    (ran : s.watchdog.advance timeoutSec s.allJoined s.clock = some watchdog) :
    Waits timeoutSec start { s with watchdog } := by
  unfold Waits at waits ⊢
  cases pc : s.watchdog with
  | absent | exiting | returned => rw [pc] at ran; cases ran
  | launched =>
    simp only [pc] at waits ran
    cases ran
    exact Int.add_le_add_right waits _
  | checking deadline =>
    simp only [pc] at waits ran
    cases joined : s.allJoined <;> rw [joined] at ran <;> cases ran
    · exact waits
    · trivial
  | comparing deadline =>
    simp only [pc,Watchdog.advance] at waits ran
    split at ran <;> cases ran
    · exact Int.le_trans waits ‹_›
    · exact waits
  | sleeping deadline wakes =>
    simp only [pc,Watchdog.advance] at waits ran
    split at ran <;> cases ran
    exact waits

theorem patient_preserved (patient : Patient timeoutSec start s)
    (one : Step refreshSec timeoutSec s action next) : Patient timeoutSec start next := by
  obtain ⟨waits,_⟩ := patient
  obtain ⟨live,move⟩ := one
  have unforced (ended : s.ended = some .forced) : start + seconds timeoutSec.val ≤ s.clock := by
    rw [live] at ended
    cases ended
  cases move with
  | wait =>
    have later : s.clock ≤ s.clock + (‹Nat› : Int) := Int.le_add_of_nonneg_right (Int.natCast_nonneg _)
    exact ⟨waits.later rfl later,fun ended => Int.le_trans (unforced ended) later⟩
  | server | refresher | disarm => exact ⟨waits.later rfl (Int.le_refl _),unforced⟩
  | launch pc absent =>
    simp only [Waits,absent] at waits
  | watchdog ran => exact ⟨watchdog_waits waits ran,unforced⟩
  | exit pc =>
    simp only [Waits,pc] at waits
    exact ⟨by simpa [Waits,pc] using waits,fun _ => waits⟩
  | leave => exact ⟨waits.later rfl (Int.le_refl _),nofun⟩

theorem punctual_clock (punctual : Punctual timeoutSec start s) : s.clock ≤ limit timeoutSec start := by
  unfold Punctual at punctual
  cases pc : s.watchdog with
  | absent => simp [pc] at punctual
  | launched =>
    simp only [pc] at punctual
    rw [punctual]
    exact Int.le_max_left _ _
  | checking | comparing => simp only [pc] at punctual; exact punctual.2
  | sleeping => simp only [pc] at punctual; exact Int.le_trans punctual.2.1 punctual.2.2
  | exiting | returned => simpa [pc] using punctual

theorem Punctual.still (punctual : Punctual timeoutSec start s) (same : next.watchdog = s.watchdog)
    (clock : next.clock = s.clock) : Punctual timeoutSec start next := by
  unfold Punctual at punctual ⊢
  rwa [same,clock]

theorem watchdog_punctual (punctual : Punctual timeoutSec start s)
    (ran : s.watchdog.advance timeoutSec s.allJoined s.clock = some watchdog) :
    Punctual timeoutSec start { s with watchdog } := by
  have timely := punctual_clock punctual
  unfold Punctual at punctual ⊢
  cases pc : s.watchdog with
  | absent | exiting | returned => rw [pc] at ran; cases ran
  | launched =>
    simp only [pc] at punctual ran
    cases ran
    exact ⟨by rw [punctual],timely⟩
  | checking deadline =>
    simp only [pc] at punctual ran
    cases joined : s.allJoined <;> rw [joined] at ran <;> cases ran
    · exact punctual
    · exact timely
  | comparing deadline =>
    simp only [pc,Watchdog.advance] at punctual ran
    split at ran <;> cases ran
    · exact timely
    · -- A sleep begins before the deadline.
      rename_i early
      have before : s.clock ≤ deadline := Int.le_of_lt (Int.not_le.mp early)
      have soon : s.clock ≤ s.clock + milliseconds 100 := Int.le_add_of_nonneg_right (by decide)
      refine ⟨punctual.1,soon,Int.le_trans ?_ (Int.le_max_right _ _)⟩
      rw [← punctual.1]
      exact Int.add_le_add_right before _
  | sleeping deadline wakes =>
    simp only [pc,Watchdog.advance] at punctual ran
    split at ran <;> cases ran
    exact ⟨punctual.1,timely⟩

theorem punctual_preserved (punctual : Punctual timeoutSec start s) (timely : prompt s action = true)
    (one : Step refreshSec timeoutSec s action next) : Punctual timeoutSec start next := by
  obtain ⟨live,move⟩ := one
  cases move with
  | @wait _ elapsed =>
    unfold Punctual at punctual
    unfold prompt at timely
    cases pc : s.watchdog with
    | absent => simp only [pc] at punctual
    | sleeping =>
      simp only [pc] at punctual timely
      simp only [Punctual]
      exact ⟨punctual.1,of_decide_eq_true timely,punctual.2.2⟩
    | launched | checking | comparing | exiting | returned =>
      simp only [pc,decide_eq_true_eq] at punctual timely
      simpa [Punctual,pc,timely] using punctual
  | server | refresher | disarm | exit | leave => exact punctual.still rfl rfl
  | launch pc absent =>
    simp only [Punctual,absent] at punctual
  | watchdog ran => exact watchdog_punctual punctual ran

theorem launch_taken (path : Runs refreshSec timeoutSec (initial proxies now) trace s)
    (present : s.watchdog ≠ .absent) : ∃ before, (before,.launch) ∈ trace := by
  refine path.history (I := fun past s => s.watchdog ≠ .absent → ∃ before, (before,Action.launch) ∈ past)
    (C := fun _ _ => True) (fun _ _ => trivial) (fun impossible => absurd rfl impossible) ?_ present
  intro past s action next _ known _ one here
  have grows (before : s.watchdog ≠ .absent) : ∃ before, (before,Action.launch) ∈ past ++ [(s,action)] :=
    (known before).imp fun _ old => List.mem_append_left _ old
  cases one.2 with
  | launch => exact ⟨s,List.mem_append_right _ (List.mem_singleton_self _)⟩
  | watchdog ran => exact grows (watchdog_advance timeoutSec ran).1
  | wait | server | refresher | exit | disarm | leave => exact grows here

theorem launch_patient (path : Runs refreshSec timeoutSec (initial proxies now) trace s)
    (entry : (before,.launch) ∈ trace) : Patient timeoutSec before.clock s := by
  obtain ⟨earlier,later,position⟩ := List.append_of_mem entry
  obtain ⟨next,⟨live,move⟩,rest⟩ := path.rest position
  cases move
  exact rest.invariant ⟨Int.le_refl _,fun ended => by rw [show before.ended = _ from ended] at live; cases live⟩
    patient_preserved

theorem launch_punctual (path : Runs refreshSec timeoutSec (initial proxies now) trace s)
    (entry : (before,.launch) ∈ trace) (timely : ∀ entry ∈ trace, prompt entry.1 entry.2 = true) :
    Punctual timeoutSec before.clock s := by
  obtain ⟨earlier,later,rfl⟩ := List.append_of_mem entry
  obtain ⟨next,⟨live,move⟩,rest⟩ := path.rest rfl
  cases move
  exact rest.guarded (C := fun s action => prompt s action = true)
    (fun entry present => timely entry (List.mem_append_right _ (List.mem_cons_of_mem _ present)))
    rfl punctual_preserved

-- The process ends, and nothing but the watchdog and main's return has to happen.
def Ends (refreshSec timeoutSec : CInt) (s : State) : Prop :=
  ∃ later after, Runs refreshSec timeoutSec s later after ∧
    (∀ entry ∈ later, own entry.2 = true ∧ prompt entry.1 entry.2 = true) ∧ after.ended ≠ none

theorem ends_step (live : s.ended = none) (move : Move refreshSec timeoutSec s action next)
    (ours : own action = true) (timely : prompt s action = true) (rest : Ends refreshSec timeoutSec next) :
    Ends refreshSec timeoutSec s := by
  obtain ⟨later,after,path,others,ended⟩ := rest
  have one : Step refreshSec timeoutSec s action next := ⟨live,move⟩
  refine ⟨_,after,(Machine.Runs.single one).append path,?_,ended⟩
  exact List.forall_mem_cons.mpr ⟨⟨ours,timely⟩,others⟩

theorem ends_ended (ended : s.ended ≠ none) : Ends refreshSec timeoutSec s :=
  ⟨[],s,.nil,List.forall_mem_nil _,ended⟩

theorem ends_joined (live : s.ended = none) (joined : s.allJoined = true) : Ends refreshSec timeoutSec s :=
  ends_step live (.leave joined) rfl rfl (ends_ended nofun)

theorem ends_watchdog (live : s.ended = none) (after : Watchdog)
    (ran : s.watchdog.advance timeoutSec s.allJoined s.clock = some after)
    (rest : Ends refreshSec timeoutSec { s with watchdog := after }) : Ends refreshSec timeoutSec s :=
  ends_step live (.watchdog ran) rfl rfl rest

theorem ends_exiting (live : s.ended = none) (pc : s.watchdog = .exiting) : Ends refreshSec timeoutSec s :=
  ends_step live (.exit pc) rfl rfl (ends_ended nofun)

theorem ends_checking (live : s.ended = none) (pc : s.watchdog = .checking deadline)
    (rest : Ends refreshSec timeoutSec { s with watchdog := .comparing deadline }) :
    Ends refreshSec timeoutSec s := by
  cases joined : s.allJoined with
  | true => exact ends_joined live joined
  | false => exact ends_watchdog live (.comparing deadline) (by rw [pc,joined]; rfl) rest

-- By the rounds of 100 ms that are left to the deadline.
theorem ends_comparing (rounds : Nat) (live : s.ended = none) (pc : s.watchdog = .comparing deadline)
    (left : deadline ≤ s.clock + rounds * milliseconds 100) : Ends refreshSec timeoutSec s := by
  have exits {s : State} (live : s.ended = none) (pc : s.watchdog = .comparing deadline)
      (due : deadline ≤ s.clock) : Ends refreshSec timeoutSec s :=
    ends_watchdog live .exiting (by rw [pc]; exact congrArg some (if_pos due)) (ends_exiting live rfl)
  induction rounds generalizing s with
  | zero => exact exits live pc (by simpa using left)
  | succ rounds ih =>
    by_cases due : deadline ≤ s.clock
    · exact exits live pc due
    · have sleeps : s.watchdog.advance timeoutSec s.allJoined s.clock =
          some (.sleeping deadline (s.clock + milliseconds 100)) := by
        rw [pc]
        exact congrArg some (if_neg due)
      refine ends_watchdog live _ sleeps ?_
      have slept : Move refreshSec timeoutSec { s with watchdog := .sleeping deadline (s.clock + milliseconds 100) }
          (.wait (milliseconds 100).toNat) _ := .wait
      refine ends_step live slept rfl (decide_eq_true (Int.le_refl _)) ?_
      refine ends_watchdog live (.checking deadline) (if_pos (Int.le_refl _)) ?_
      refine ends_checking live rfl (ih live rfl ?_)
      have shorter : s.clock + ((rounds + 1 : Nat) : Int) * milliseconds 100 =
          s.clock + milliseconds 100 + rounds * milliseconds 100 := by
        rw [Int.natCast_succ,Int.add_mul,Int.one_mul,Int.add_assoc,Int.add_comm (_ * _)]
      exact shorter ▸ left

theorem rounds_left (deadline clock : Int) :
    deadline ≤ clock + (deadline - clock).toNat * milliseconds 100 := by
  unfold milliseconds
  omega

theorem elapsed_until {clock wakes : Int} (below : clock < wakes) : clock + (wakes - clock).toNat = wakes := by
  omega

theorem ends_checked (live : s.ended = none) (pc : s.watchdog = .checking deadline) :
    Ends refreshSec timeoutSec s :=
  ends_checking live pc (ends_comparing _ live rfl (rounds_left deadline s.clock))

theorem ends_launched (sound : Sound s) (present : s.watchdog ≠ .absent) (live : s.ended = none) :
    Ends refreshSec timeoutSec s := by
  cases pc : s.watchdog with
  | absent => exact absurd pc present
  | launched =>
    exact ends_watchdog live (.checking (s.clock + seconds timeoutSec.val)) (by rw [pc]; rfl)
      (ends_checked live rfl)
  | checking => exact ends_checked live pc
  | comparing deadline =>
    exact ends_comparing _ live pc (rounds_left deadline s.clock)
  | sleeping deadline wakes =>
    have wakens {s : State} (live : s.ended = none) (pc : s.watchdog = .sleeping deadline wakes)
        (awake : wakes ≤ s.clock) : Ends refreshSec timeoutSec s :=
      ends_watchdog live (.checking deadline) (by rw [pc]; exact if_pos awake) (ends_checked live rfl)
    by_cases awake : wakes ≤ s.clock
    · exact wakens live pc awake
    · have exactly : s.clock + (wakes - s.clock).toNat = wakes := elapsed_until (Int.not_le.mp awake)
      have timely : prompt s (.wait (wakes - s.clock).toNat) = true := by
        simp only [prompt,pc]
        exact decide_eq_true (Int.le_of_eq exactly)
      exact ends_step live .wait rfl timely (wakens live pc (Int.le_of_eq exactly.symm))
  | exiting => exact ends_exiting live pc
  | returned => exact ends_joined live (sound.dismissed pc)

structure Bounded (refreshSec timeoutSec : CInt) (trace : List (State × Action)) (s : State) : Prop where
  returned : s.ended = some .returned →
    (∀ session ∈ s.server.sessions, session = .finished) ∧ s.server.io = .returned ∧ gone s.refresher = true
  forced : s.ended = some .forced →
    ∃ before, (before,.launch) ∈ trace ∧ before.clock + seconds timeoutSec.val ≤ s.clock
  limited : ∀ before, (before,.launch) ∈ trace → (∀ entry ∈ trace, prompt entry.1 entry.2 = true) →
    s.clock ≤ limit timeoutSec before.clock
  ends : s.watchdog ≠ .absent → s.ended = none → Ends refreshSec timeoutSec s

theorem forced_launched (path : Runs refreshSec timeoutSec (initial proxies now) trace s) :
    s.ended = some .forced → s.watchdog ≠ .absent := by
  refine path.invariant (I := fun s => s.ended = some .forced → s.watchdog ≠ .absent) nofun ?_
  intro s action next _ one
  obtain ⟨live,move⟩ := one
  cases move with
  | exit pc =>
    intro _ absent
    rw [show s.watchdog = _ from absent] at pc
    cases pc
  | leave => nofun
  | wait | server | refresher | launch | watchdog | disarm =>
    intro ended
    rw [show s.ended = _ from ended] at live
    cases live

-- In every run the process ends by main's return only with every thread joined,
-- by the watchdog only when shutdown_timeout_sec is over, and no later than its
-- next look at the clock; it is never stuck.
theorem shutdown_bounded (path : Runs refreshSec timeoutSec (initial proxies now) trace s) :
    Bounded refreshSec timeoutSec trace s where
  returned := by
    intro ended
    have sound := runs_sound refreshSec timeoutSec path
    have pc := sound.joined (sound.left ended)
    exact ⟨sound.ordered.joined (by rw [pc]; rfl),sound.ordered.ended pc,sound.refreshed (.inr pc)⟩
  forced := by
    intro ended
    obtain ⟨before,entry⟩ := launch_taken path (forced_launched path ended)
    exact ⟨before,entry,(launch_patient path entry).forced ended⟩
  limited := fun _ entry timely => punctual_clock (launch_punctual path entry timely)
  ends := fun present live => ends_launched (runs_sound refreshSec timeoutSec path) present live

-- A session that does not end, and a refresh that does not return.
def stalled : List Action :=
  [.server .launchIo,.server .asyncWait,.server .ioRun,.server .check,.server .accept,.server .spawn,
    .server (.register 0),.server .check,.server (.acceptFails true),.launch,.watchdog,.watchdog,.watchdog,
    .wait 100000000,.watchdog]

theorem shutdown_bounded_stalled : ∃ trace s,
    Runs ⟨60,by decide⟩ ⟨30,by decide⟩ (initial true 0) trace s ∧ trace.map Prod.snd = stalled ∧
      s.server.sessions = [.serving] ∧ s.watchdog = .checking 30000000000 ∧
      Bounded ⟨60,by decide⟩ ⟨30,by decide⟩ trace s := by
  obtain ⟨s,ran,serving,checking⟩ : ∃ s, Machine.replay (advance ⟨60,by decide⟩ ⟨30,by decide⟩)
      (fun _ _ => true) (initial true 0) stalled = some s ∧ s.server.sessions = [.serving] ∧
      s.watchdog = .checking 30000000000 := ⟨_,rfl,rfl,rfl⟩
  obtain ⟨trace,same,path,_⟩ := Machine.replay_sound (advance_sound _ _) ran
  exact ⟨trace,s,path,same,serving,checking,shutdown_bounded path⟩

end JotaTranscriber.ShutdownTimeout

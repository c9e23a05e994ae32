import JotaTranscriber.SessionRuns
import JotaTranscriber.HandleTranscribe

namespace JotaTranscriber.AuthGate
open SessionMachine StreamingSession

-- The receive thread is outside handleConfig past its check and outside
-- handleEnd.
def outside : Receiver → Bool
  | .acquiring | .configuring _ | .joining | .finalizing => false
  | _ => true

structure Untouched (s : State) : Prop where
  engine : s.session.engine = none
  configured : s.session.configured = false
  modelAcquired : s.session.modelAcquired = false
  receiver : outside s.receiver = true
  flusher : idle s.flusher = true
  sent : ∀ message ∈ sentMessages s.log, message.isTranscription = false
  unsent : ∀ message ∈ unsent s.receiver, message.isTranscription = false

def AcceptedConfig (params : SessionParams) (action : Action) : Prop :=
  ∃ payload view, action = .text payload view ∧ Authorized params payload view

theorem initial_untouched (now : Instant) : Untouched (initial now) :=
  ⟨rfl,rfl,rfl,rfl,rfl,List.forall_mem_nil _,List.forall_mem_nil _⟩

theorem untouched_session (untouched : Untouched s) (move : Move params s action next) :
    next.session.engine = none ∧ next.session.configured = false ∧
      next.session.modelAcquired = false := by
  have locked (ctx : Nat) : s.receiver ≠ .configuring ctx := by
    intro pc
    have closed := untouched.receiver
    rw [pc] at closed
    cases closed
  rcases session_step params move with frame | ⟨_,_,ctx,pc⟩ | ⟨_,_,ctx,pc⟩ | ⟨released,_⟩
  · exact ⟨frame.engine_none untouched.engine,frame.configured.trans untouched.configured,
      frame.modelAcquired.trans untouched.modelAcquired⟩
  · exact absurd pc (locked ctx)
  · exact absurd pc (locked ctx)
  · have nothing : s.session.releaseModel.1 = s.session := by
      simp [releaseModel,untouched.modelAcquired]
    rw [released,nothing]
    exact ⟨untouched.engine,untouched.configured,untouched.modelAcquired⟩

theorem outside_of_answering (answers : answering receiver = true) : outside receiver = true := by
  cases receiver <;> first | rfl | cases answers

theorem outside_of_leaving (leaves : leaving receiver = true) : outside receiver = true := by
  cases receiver <;> first | rfl | cases leaves

theorem untouched_receiver (untouched : Untouched s) (move : Move params s action next) :
    outside next.receiver = true ∨ AcceptedConfig params action := by
  have closed := untouched.receiver
  rcases receiver_step params move with
    same | answers | leaves | ⟨_,accepted⟩ | ⟨_,ready⟩ | ⟨pc,_⟩ | ⟨pc,_⟩
  · rw [same]; exact .inl closed
  · exact .inl (outside_of_answering answers)
  · exact .inl (outside_of_leaving leaves)
  · exact .inr accepted
  · rw [untouched.configured] at ready; cases ready
  · rw [pc] at closed; cases closed
  · rw [pc] at closed; cases closed

theorem untouched_flusher (untouched : Untouched s) (move : Move params s action next) :
    idle next.flusher = true := by
  have resting := untouched.flusher
  cases move with
  | cycle pc ran =>
    rcases FlushLoop.cycle_cases params s.session s.clock _ _ with ⟨quiet,_⟩ | ⟨_,present,_⟩
    · rw [quiet] at ran; cases ran; rfl
    · rw [FlushLoop.watchdog_engine,untouched.engine] at present; cases present
  | flushSend pc => rw [pc] at resting; cases resting
  | relock pc => rw [pc] at resting; cases resting
  | accept | wake | exit | tryLockFails => rfl
  | _ => exact resting

theorem untouched_sent (untouched : Untouched s) (move : Move params s action next) :
    ∀ message ∈ sentMessages next.log, message.isTranscription = false := by
  refine sent_step params untouched.sent untouched.unsent ?_ move
  intro message continuation pc
  have resting := untouched.flusher
  rw [pc] at resting
  cases resting

theorem untouched_preserved (untouched : Untouched s) (move : Move params s action next) :
    Untouched next ∨ AcceptedConfig params action := by
  rcases untouched_receiver untouched move with closed | accepted
  · obtain ⟨engine,configured,modelAcquired⟩ := untouched_session untouched move
    refine .inl ⟨engine,configured,modelAcquired,closed,untouched_flusher untouched move,
      untouched_sent untouched move,?_⟩
    intro message present
    rcases unsent_step params move present with old | plain | ⟨slot,outcome,rfl⟩
    · exact untouched.unsent message old
    · exact plain
    · have pc := untouched.receiver
      cases move with
      | finalPass current => rw [current] at pc; cases pc
  · exact .inr accepted

theorem runs_admitted (path : Runs params (initial now) trace s) :
    Untouched s ∨ ∃ entry ∈ trace, AcceptedConfig params entry.2 :=
  path.history (I := fun trace s => Untouched s ∨ ∃ entry ∈ trace, AcceptedConfig params entry.2)
    (C := fun _ _ => True) (fun _ _ => trivial) (.inl (initial_untouched now))
    (fun {past s action next} _ valid _ one => by
      rcases valid with untouched | ⟨entry,present,accepted⟩
      · exact (untouched_preserved untouched one.2).imp_right fun accepted =>
          ⟨(s,action),by simp,accepted⟩
      · exact .inr ⟨entry,List.mem_append_left _ present,accepted⟩)

def Served (s : State) : Prop :=
  s.session.configured = true ∨ s.session.modelAcquired = true ∨ s.session.engine ≠ none ∨
    s.session.bufferSize ≠ 0 ∨ ∃ message ∈ sentMessages s.log, message.isTranscription = true

theorem untouched_not_served (untouched : Untouched s) : ¬ Served s := by
  rintro (configured | held | present | buffered | ⟨message,sent,shown⟩)
  · rw [untouched.configured] at configured; cases configured
  · rw [untouched.modelAcquired] at held; cases held
  · exact present untouched.engine
  · exact buffered (by simp [bufferSize,untouched.engine])
  · rw [untouched.sent message sent] at shown; cases shown

-- Both entry points: a session that serves was sent a config with a token that
-- was validated, and a request is worked on only if its bearer token was.
theorem auth_gates_all_work (enabled : params.authManager.isAuthEnabled = true)
    (path : Runs params (initial now) trace s) (request : HttpRequest) (config : ServerConfig)
    (auth : Option AuthManager) (world : HttpWorld) :
    (Served s → ∃ entry ∈ trace, ∃ payload view message token, entry.2 = .text payload view ∧
      params.parseJson payload = .ok message ∧
      message.field? "type" = some (.string (bytes "config")) ∧
      message.field? "token" = some (.string token) ∧
      ({ params.authManager with cache := view.cache }.validate token view.exchange).2 = true) ∧
    ((∃ effect ∈ (HandleTranscribe.handle request config auth world).effects, effect.isWork = true) →
      (auth = none → HandleTranscribe.authConfigured config = false) ∧
      ∀ manager, auth = some manager → manager.isAuthEnabled = true →
        (manager.validate (HandleTranscribe.bearerToken request) world.exchange).2 = true) := by
  constructor
  · intro served
    rcases runs_admitted path with untouched | ⟨entry,present,payload,view,taken,message,parsed,type,valid⟩
    · exact absurd served (untouched_not_served untouched)
    · obtain ⟨token,carried,accepted⟩ := valid enabled
      exact ⟨entry,present,payload,view,message,token,taken,parsed,type,carried,accepted⟩
  · rintro ⟨effect,present,work⟩
    exact HandleTranscribe.authorize_ok (HandleTranscribe.handle_work present work)

def tokenPayload : Text := bytes "\x7b\"type\":\"config\",\"token\":\"secret\"\x7d"

def staticAuth : AuthManager := AuthManager.create ⟨[],300,bytes "secret"⟩

def tokenParams : SessionParams := { defaultParams with
  authManager := staticAuth
  parseJson := fun payload =>
    if payload = tokenPayload then
      .ok (.object [("type",.string (bytes "config")),("token",.string (bytes "secret"))])
    else .error (.parseError []) }

def uploadRequest : HttpRequest where
  authorization := bytes "Bearer secret"
  contentType := bytes "multipart/form-data; boundary=B"
  body := bytes ("--B\r\nContent-Disposition: form-data; name=\"file\"\r\n\r\nRIFF\r\n" ++
    "--B\r\nContent-Disposition: form-data; name=\"model\"\r\n\r\nsmall\r\n--B--\r\n")

def uploadConfig : ServerConfig := ⟨bytes "secret",[],25 * 1024 * 1024,600,[],400⟩

def uploadWorld : HttpWorld where
  exchange := ⟨0,0,.denied⟩
  decode := fun _ => .ok [0,0]
  stof := fun _ => none
  vad := ⟨true,some []⟩
  loadModel := .ok ()
  slot := true
  initState := true
  whisper := .decoded []
  dump := fun _ => some (bytes "\x7b\"text\":\"\"\x7d")
  send := fun _ => true
  id := []
  createdAt := []

theorem auth_gates_all_work_token : ∃ trace s, Runs tokenParams (initial 0) trace s ∧
    s.session.configured = true ∧
    .decode ∈ (HandleTranscribe.handle uploadRequest uploadConfig (some staticAuth) uploadWorld).effects ∧
    (∃ entry ∈ trace, ∃ payload view message token, entry.2 = .text payload view ∧
      tokenParams.parseJson payload = .ok message ∧
      message.field? "type" = some (.string (bytes "config")) ∧
      message.field? "token" = some (.string token) ∧
      ({ tokenParams.authManager with cache := view.cache }.validate token view.exchange).2 = true) ∧
    (staticAuth.validate (HandleTranscribe.bearerToken uploadRequest) uploadWorld.exchange).2 = true := by
  obtain ⟨s,ran,configured⟩ : ∃ s, run tokenParams (initial 0)
      [.accept,.text tokenPayload emptyView,.acquire 0,.install] = some s ∧
      s.session.configured = true := ⟨_,rfl,rfl⟩
  obtain ⟨trace,_,path⟩ := run_sound tokenParams ran
  have decoded : .decode ∈
      (HandleTranscribe.handle uploadRequest uploadConfig (some staticAuth) uploadWorld).effects := by
    decide +kernel
  obtain ⟨session,http⟩ := auth_gates_all_work (by rfl) path uploadRequest uploadConfig
    (some staticAuth) uploadWorld
  exact ⟨trace,s,path,configured,decoded,session (.inl configured),
    (http ⟨_,decoded,rfl⟩).2 staticAuth rfl rfl⟩

end JotaTranscriber.AuthGate

import JotaTranscriber.ConnectionAccounting
import JotaTranscriber.InferenceSlots
import JotaTranscriber.ModelUse
import JotaTranscriber.Exposition

namespace JotaTranscriber
open HandleTranscribe (answer)

inductive HttpVerb where
  | get
  | post
  | other (code : Nat)
  deriving DecidableEq, Repr

abbrev HttpHandler := HttpRequest → ServerConfig → Option AuthManager → HttpWorld → Handler Unit

structure Route where
  method : HttpVerb
  path : Text
  handler : HttpHandler

structure HttpRouter where
  routes : List Route

namespace HttpRouter

def add (router : HttpRouter) (method : HttpVerb) (path : Text) (handler : HttpHandler) : HttpRouter :=
  ⟨router.routes ++ [⟨method,path,handler⟩]⟩

-- none: no route matches. The target is compared whole, its query included.
def dispatch (router : HttpRouter) (method : HttpVerb) (target : Text) (request : HttpRequest)
    (config : ServerConfig) (auth : Option AuthManager) (world : HttpWorld) : Option (Handler Unit) :=
  (router.routes.find? fun route => route.method == method && target == route.path).map
    fun route => route.handler request config auth world

end HttpRouter

def gaugePair (first : Text) (n : Int) (second : Text) (m : Int) : Text :=
  first ++ decimalInt n ++ bytes "\n" ++ second ++ decimalInt m ++ bytes "\n"

def InferenceLimiter.getMetrics (limiter : InferenceLimiter) : Text :=
  gaugePair (bytes "transcription_active_inferences ") limiter.activeCount
    (bytes "transcription_max_inferences ") limiter.maxConcurrent.val

def ModelCache.getMetrics (cache : ModelCache) : Text :=
  gaugePair (bytes "transcription_model_loaded ") (if cache.ctx.isSome then 1 else 0)
    (bytes "transcription_model_ref_count ") cache.refCount

def ConnectionLimiter.getMetrics (limiter : ConnectionLimiter) : Text :=
  gaugePair (bytes "transcription_active_connections ") limiter.total
    (bytes "transcription_max_connections ") limiter.maxTotal

-- The singletons and main()'s limiter, each as it is when a handler locks it.
structure Readings where
  inference : InferenceLimiter
  cache : ModelCache
  connections : ConnectionLimiter

namespace HandleHealth

def handle (world : HttpWorld) : Handler Unit :=
  answer world ⟨.ok,bytes "application/json",bytes "\x7b\"status\": \"ok\"\x7d"⟩

end HandleHealth

namespace HandleReady

def handle (inference : InferenceLimiter) (world : HttpWorld) : Handler Unit :=
  let busy := !inference.hasCapacity
  answer world ⟨if busy then .serviceUnavailable else .ok,bytes "application/json",
    if busy then bytes "\x7b\"status\": \"busy\"\x7d" else bytes "\x7b\"status\": \"ready\"\x7d"⟩

end HandleReady

namespace HandleMetrics

def body (readings : Readings) : Text :=
  bytes "# HELP transcription_active_inferences Number of concurrent inferences\n" ++
  bytes "# TYPE transcription_active_inferences gauge\n" ++
  readings.inference.getMetrics ++
  bytes "# HELP transcription_model_loaded Whether the model is currently in memory (1=yes, 0=no)\n" ++
  bytes "# TYPE transcription_model_loaded gauge\n" ++
  readings.cache.getMetrics ++
  bytes "# HELP transcription_active_connections Number of active WebSocket connections\n" ++
  bytes "# TYPE transcription_active_connections gauge\n" ++
  readings.connections.getMetrics

def handle (readings : Readings) (world : HttpWorld) : Handler Unit :=
  answer world ⟨.ok,bytes "text/plain; version=0.0.4",body readings⟩

end HandleMetrics

def buildRouter (readings : Readings) : HttpRouter :=
  HttpRouter.mk []
    |>.add .get (bytes "/health") (fun _ _ _ world => HandleHealth.handle world)
    |>.add .get (bytes "/ready") (fun _ _ _ world => HandleReady.handle readings.inference world)
    |>.add .get (bytes "/metrics") (fun _ _ _ world => HandleMetrics.handle readings world)
    |>.add .post (bytes "/v1/audio/transcriptions") HandleTranscribe.handle

namespace Monitoring
open Decimal Exposition

-- What a scraper is to see of one component: two announcements, two values.
def family (help type first second : Text) (n m : Int) : List Line :=
  [.comment help,.comment type,.sample first (decimal n),.sample second (decimal m)]

def inferenceLines (limiter : InferenceLimiter) : List Line :=
  family (bytes " HELP transcription_active_inferences Number of concurrent inferences")
    (bytes " TYPE transcription_active_inferences gauge")
    (bytes "transcription_active_inferences") (bytes "transcription_max_inferences")
    limiter.activeCount limiter.maxConcurrent.val

def cacheLines (cache : ModelCache) : List Line :=
  family (bytes " HELP transcription_model_loaded Whether the model is currently in memory (1=yes, 0=no)")
    (bytes " TYPE transcription_model_loaded gauge")
    (bytes "transcription_model_loaded") (bytes "transcription_model_ref_count")
    (if cache.ctx.isSome then 1 else 0) cache.refCount

def connectionLines (limiter : ConnectionLimiter) : List Line :=
  family (bytes " HELP transcription_active_connections Number of active WebSocket connections")
    (bytes " TYPE transcription_active_connections gauge")
    (bytes "transcription_active_connections") (bytes "transcription_max_connections")
    limiter.total limiter.maxTotal

def lines (readings : Readings) : List Line :=
  inferenceLines readings.inference ++ cacheLines readings.cache ++ connectionLines readings.connections

theorem family_spell (helped : helpText = mark :: help ++ [newline])
    (typed : typeText = mark :: type ++ [newline])
    (named : firstText = first ++ [blank]) (named' : secondText = second ++ [blank]) (n m : Int) :
    helpText ++ typeText ++ gaugePair firstText n secondText m = spell (family help type first second n m) := by
  subst helped typed named named'
  simp only [gaugePair,family,spell,Line.spell,List.flatMap_cons,List.flatMap_nil,List.append_assoc,
    List.cons_append,List.nil_append,List.append_nil]
  rfl

theorem inference_spell (limiter : InferenceLimiter) :
    bytes "# HELP transcription_active_inferences Number of concurrent inferences\n" ++
      bytes "# TYPE transcription_active_inferences gauge\n" ++ limiter.getMetrics =
    spell (inferenceLines limiter) :=
  family_spell (by decide) (by decide) (by decide) (by decide) _ _

theorem cache_spell (cache : ModelCache) :
    bytes "# HELP transcription_model_loaded Whether the model is currently in memory (1=yes, 0=no)\n" ++
      bytes "# TYPE transcription_model_loaded gauge\n" ++ cache.getMetrics =
    spell (cacheLines cache) :=
  family_spell (by decide) (by decide) (by decide) (by decide) _ _

theorem connection_spell (limiter : ConnectionLimiter) :
    bytes "# HELP transcription_active_connections Number of active WebSocket connections\n" ++
      bytes "# TYPE transcription_active_connections gauge\n" ++ limiter.getMetrics =
    spell (connectionLines limiter) :=
  family_spell (by decide) (by decide) (by decide) (by decide) _ _

theorem body_spell (readings : Readings) : HandleMetrics.body readings = spell (lines readings) := by
  rw [lines,spell_append,spell_append,← inference_spell,← cache_spell,← connection_spell]
  simp only [HandleMetrics.body,List.append_assoc]

theorem family_plain {help type first second : Text} (n m : Int)
    (comments : newline ∉ help ∧ newline ∉ type)
    (names : ∀ name ∈ [first,second], name.head? ≠ some mark ∧ blank ∉ name ∧ newline ∉ name) :
    ∀ line ∈ family help type first second n m, line.Plain := by
  intro line present
  simp only [family,List.mem_cons,List.not_mem_nil,or_false] at present
  rcases present with rfl | rfl | rfl | rfl
  · exact comments.1
  · exact comments.2
  · obtain ⟨unmarked,unbroken,ended⟩ := names first (by simp)
    exact ⟨unmarked,unbroken,ended,decimal_plain n⟩
  · obtain ⟨unmarked,unbroken,ended⟩ := names second (by simp)
    exact ⟨unmarked,unbroken,ended,decimal_plain m⟩

theorem lines_plain (readings : Readings) : ∀ line ∈ lines readings, line.Plain := by
  intro line present
  rcases List.mem_append.mp present with earlier | third
  · rcases List.mem_append.mp earlier with first | second
    · exact family_plain _ _ (by decide) (by decide) line first
    · exact family_plain _ _ (by decide) (by decide) line second
  · exact family_plain _ _ (by decide) (by decide) line third

theorem samples_lines (readings : Readings) :
    samples (HandleMetrics.body readings) =
      [(bytes "transcription_active_inferences",some readings.inference.activeCount),
        (bytes "transcription_max_inferences",some readings.inference.maxConcurrent.val),
        (bytes "transcription_model_loaded",some (if readings.cache.ctx.isSome then 1 else 0)),
        (bytes "transcription_model_ref_count",some readings.cache.refCount),
        (bytes "transcription_active_connections",some readings.connections.total),
        (bytes "transcription_max_connections",some readings.connections.maxTotal)] := by
  rw [samples,body_spell,read_spell (lines_plain readings)]
  simp only [lines,inferenceLines,cacheLines,connectionLines,family,List.cons_append,List.nil_append,
    List.filterMap_cons,List.filterMap_nil,number?_decimal]

theorem dispatch_cases (readings : Readings) (method : HttpVerb) (target : Text)
    (routed : (buildRouter readings).dispatch method target request config auth world = some handled) :
    (method = .get ∧ target = bytes "/health" ∧ handled = HandleHealth.handle world) ∨
    (method = .get ∧ target = bytes "/ready" ∧ handled = HandleReady.handle readings.inference world) ∨
    (method = .get ∧ target = bytes "/metrics" ∧ handled = HandleMetrics.handle readings world) ∨
    (method = .post ∧ target = bytes "/v1/audio/transcriptions" ∧
      handled = HandleTranscribe.handle request config auth world) := by
  obtain ⟨route,found,rfl⟩ := Option.map_eq_some_iff.mp routed
  have matching := List.find?_some found
  simp only [Bool.and_eq_true,beq_iff_eq] at matching
  obtain ⟨rfl,rfl⟩ := matching
  have present := List.mem_of_find?_eq_some found
  simp only [buildRouter,HttpRouter.add,List.nil_append,List.cons_append,List.mem_cons,
    List.not_mem_nil,or_false] at present
  rcases present with rfl | rfl | rfl | rfl
  · exact .inl ⟨rfl,rfl,rfl⟩
  · exact .inr (.inl ⟨rfl,rfl,rfl⟩)
  · exact .inr (.inr (.inl ⟨rfl,rfl,rfl⟩))
  · exact .inr (.inr (.inr ⟨rfl,rfl,rfl⟩))

theorem answer_sends (world : HttpWorld) (response : HttpResponse) :
    ∀ effect ∈ (answer world response : Handler Unit).effects, effect = .send response :=
  fun _ present => List.mem_singleton.mp present

-- Whatever does more than answer came in by the one route that checks the token.
theorem dispatch_guarded (readings : Readings)
    (routed : (buildRouter readings).dispatch method target request config auth world = some handled)
    (works : ∃ effect ∈ handled.effects, ∀ response, effect ≠ .send response) :
    method = .post ∧ target = bytes "/v1/audio/transcriptions" ∧
      handled = HandleTranscribe.handle request config auth world := by
  obtain ⟨effect,present,other⟩ := works
  rcases dispatch_cases readings method target routed with
    ⟨_,_,rfl⟩ | ⟨_,_,rfl⟩ | ⟨_,_,rfl⟩ | transcribed
  · exact absurd (answer_sends world _ effect present) (other _)
  · exact absurd (answer_sends world _ effect present) (other _)
  · exact absurd (answer_sends world _ effect present) (other _)
  · exact transcribed

theorem ready_iff (capacity : Bool) :
    (if !capacity then HttpStatus.serviceUnavailable else .ok) = .ok ↔ capacity = true := by
  cases capacity <;> decide

-- The three are read one after the other, so each has moved on by itself.
def observe (slots : InferenceSlots.State) (model : ModelUse.State) (door : AcceptLoop.State) : Readings :=
  ⟨slots.guards.limiter,model.cache.cache,door.limiter⟩

-- A monitor reads off what the threads really hold, a load balancer whether a
-- guard made now would get a slot, and neither route does anything but answer.
theorem monitored
    (slotPath : InferenceSlots.Runs settings (InferenceSlots.initial limit now) slotTrace slots)
    (modelPath : ModelUse.Runs params path (ModelUse.initial ttlSeconds start clocks) modelTrace model)
    (doorPath : AcceptLoop.Runs (AcceptLoop.initial maxTotal maxPerIp) doorTrace door)
    (request : HttpRequest) (config : ServerConfig) (auth : Option AuthManager) (world : HttpWorld) :
    let ask := fun method target =>
      (buildRouter (observe slots model door)).dispatch method target request config auth world
    (∃ body,
      ask .get (bytes "/metrics") = some (answer world ⟨.ok,bytes "text/plain; version=0.0.4",body⟩) ∧
      samples body =
        [(bytes "transcription_active_inferences",some (slots.guards.granted : Int)),
          (bytes "transcription_max_inferences",some slots.guards.limiter.maxConcurrent.val),
          (bytes "transcription_model_loaded",some (if model.cache.cache.ctx.isSome then 1 else 0)),
          (bytes "transcription_model_ref_count",some (model.book.length : Int)),
          (bytes "transcription_active_connections",some ((ConnectionAccounting.live door).length : Int)),
          (bytes "transcription_max_connections",some (maxTotal : Int))] ∧
      (model.book ≠ [] → model.cache.cache.ctx.isSome = true) ∧ (ConnectionAccounting.live door).length ≤ maxTotal) ∧
    (∃ status body, ask .get (bytes "/ready") = some (answer world ⟨status,bytes "application/json",body⟩) ∧
      (status = .ok ↔ (slots.guards.granted : Int) < slots.guards.limiter.maxConcurrent.val) ∧
      (status = .ok ↔ slots.guards.limiter.tryAcquire.2 = true)) ∧
    ∀ method target handled, ask method target = some handled →
      (∃ effect ∈ handled.effects, ∀ response, effect ≠ .send response) →
        method = .post ∧ target = bytes "/v1/audio/transcriptions" ∧
          handled = HandleTranscribe.handle request config auth world := by
  have sound := InferenceSlots.runs_sound settings slotPath
  have valid := ModelUse.runs_valid modelPath
  have accounted := ConnectionAccounting.runs_accounted doorPath
  have counted : slots.guards.limiter.activeCount = slots.guards.granted := sound.counted
  have total : door.limiter.total = (ConnectionAccounting.live door).length :=
    accounted.counts.total.trans (List.length_map _)
  have most : door.limiter.maxTotal = maxTotal := accounted.maxTotal
  refine ⟨⟨_,rfl,?_,?_,?_⟩,⟨_,_,rfl,?_,?_⟩,?_⟩
  · rw [samples_lines]
    simp only [observe,counted,valid.refCount,total,most]
    rfl
  · intro held
    obtain ⟨⟨owner,ctx⟩,booked⟩ := List.exists_mem_of_ne_nil _ held
    rw [(valid.usable booked).1]
    rfl
  · rw [← total,← most]
    exact accounted.counts.bounded
  · rw [← counted]
    exact (ready_iff _).trans decide_eq_true_iff
  · rw [InferenceLimiter.tryAcquire]
    refine (ready_iff _).trans ?_
    split <;> simp_all [observe]
  · intro method target handled routed works
    exact dispatch_guarded _ routed works

-- One inference, one session on the model, one connection: a limit of one slot
-- leaves nothing for a second.
theorem monitored_busy : ∃ slots model door,
    (∃ trace, InferenceSlots.Runs (fun _ => SessionMachine.defaultParams)
      (InferenceSlots.initial ⟨1,by decide⟩ fun _ => 0) trace slots) ∧
    (∃ trace, ModelUse.Runs (fun _ => SessionMachine.defaultParams) (bytes "model.bin")
      (ModelUse.initial 300 0 fun _ => 0) trace model) ∧
    (∃ trace, AcceptLoop.Runs (AcceptLoop.initial 8 1) trace door) ∧
    ∀ request config auth world,
      (∃ body, (buildRouter (observe slots model door)).dispatch .get (bytes "/metrics")
          request config auth world = some (answer world ⟨.ok,bytes "text/plain; version=0.0.4",body⟩) ∧
        (samples body).map Prod.snd = [some 1,some 1,some 1,some 1,some 1,some 8]) ∧
      ∃ body, (buildRouter (observe slots model door)).dispatch .get (bytes "/ready")
        request config auth world = some (answer world ⟨.serviceUnavailable,bytes "application/json",body⟩) := by
  let start := InferenceSlots.initial ⟨1,by decide⟩ fun _ => 0
  let called : InferenceSlots.State := { start with
    pending := Function.update start.pending (.direct 0) InferenceSlots.directWork }
  let granted : InferenceSlots.State := { called with
    guards := ⟨start.guards.limiter.claim,start.guards.live.insert (.direct 0) true⟩
    pending := Function.update called.pending (.direct 0) [.infer,.destroy] }
  have first : InferenceSlots.Step (fun _ => SessionMachine.defaultParams) start (.direct 0) called :=
    .direct rfl
  have second : InferenceSlots.Step (fun _ => SessionMachine.defaultParams) called (.work (.direct 0)) granted :=
    .construct rfl (.construct (AList.notMem_empty _) rfl) (AList.lookup_insert _)
  have slotPath : InferenceSlots.Runs (fun _ => SessionMachine.defaultParams) start _ granted :=
    .step (.step .nil first) second
  obtain ⟨model,opened,booked,loaded⟩ : ∃ model, Machine.replay
      (ModelUse.advance (fun _ => SessionMachine.defaultParams) (bytes "model.bin")) (fun _ _ => true)
      (ModelUse.initial 300 0 fun _ => 0) ModelUse.openSchedule = some model ∧ model.book.length = 1 ∧
      model.cache.cache.ctx.isSome = true := ⟨_,rfl,rfl,rfl⟩
  obtain ⟨modelTrace,_,modelPath,_⟩ := Machine.replay_sound (ModelUse.advance_sound _ _) opened
  obtain ⟨door,admitted,single⟩ : ∃ door, AcceptLoop.run (AcceptLoop.initial 8 1)
      [.check,.accept .connected,.remoteEndpoint (some AcceptLoop.localhost),.isTrusted false,.tryAcquire] =
        some door ∧ (ConnectionAccounting.live door).length = 1 := ⟨_,rfl,rfl⟩
  obtain ⟨doorTrace,_,doorPath⟩ := AcceptLoop.run_sound admitted
  refine ⟨granted,model,door,⟨_,slotPath⟩,⟨_,modelPath⟩,⟨_,doorPath⟩,?_⟩
  intro request config auth world
  obtain ⟨⟨text,scraped,read,_⟩,_⟩ :=
    monitored slotPath modelPath doorPath request config auth world
  refine ⟨⟨text,scraped,?_⟩,⟨_,rfl⟩⟩
  rw [read,booked,single,loaded]
  rfl

end Monitoring
end JotaTranscriber

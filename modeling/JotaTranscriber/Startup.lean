import JotaTranscriber.Assignments
import JotaTranscriber.Decimal
import JotaTranscriber.DotEnv
import JotaTranscriber.ConnectionLimiter
import JotaTranscriber.HandleTranscribe
import JotaTranscriber.InferenceLimiter
import JotaTranscriber.ModelCache
import JotaTranscriber.TrustedProxyResolver

-- How main() comes by its configuration.
namespace JotaTranscriber.Startup
open Assignments DotEnv
open Decimal (isDigit magnitude)

inductive Kind where
  | text
  | ushort
  | int
  | size
  | float

abbrev Kind.Value : Kind → Type
  | .text => Text
  | .ushort => UInt16
  | .int => CInt
  | .size => UInt64
  | .float => Float32

inductive Field where
  | modelPath
  | bindAddress
  | port
  | certPath
  | keyPath
  | maxConnections
  | maxConnectionsPerIp
  | trustedProxyHosts
  | trustedProxyRefreshSec
  | sessionTimeoutSec
  | handshakeTimeoutSec
  | authToken
  | authApiUrl
  | authApiSecret
  | authCacheTtl
  | authApiTimeout
  | whisperBeamSize
  | whisperThreads
  | maxConcurrentInference
  | modelCacheTtl
  | whisperInitialPrompt
  | whisperTemperature
  | whisperTemperatureInc
  | whisperNoSpeechThold
  | whisperLogprobThold
  | flushMinNewAudioMs
  | vadModelPath
  | vadThreshold
  | vadMinSpeechMs
  | vadMinSilenceMs
  | vadMaxSpeechS
  | vadSpeechPadMs
  | vadSamplesOverlap
  | shutdownTimeoutSec
  | maxUploadBytes
  | maxAudioDurationSec
  | whisperTemperatureIncHttp
  deriving DecidableEq, Repr

abbrev Field.kind : Field → Kind
  | .modelPath | .bindAddress | .certPath | .keyPath | .trustedProxyHosts | .authToken | .authApiUrl
  | .authApiSecret | .whisperInitialPrompt | .vadModelPath => .text
  | .port => .ushort
  | .maxConnections | .maxConnectionsPerIp | .maxUploadBytes => .size
  | .whisperTemperature | .whisperTemperatureInc | .whisperNoSpeechThold | .whisperLogprobThold
  | .vadThreshold | .vadMaxSpeechS | .vadSamplesOverlap | .whisperTemperatureIncHttp => .float
  | .trustedProxyRefreshSec | .sessionTimeoutSec | .handshakeTimeoutSec | .authCacheTtl | .authApiTimeout
  | .whisperBeamSize | .whisperThreads | .maxConcurrentInference | .modelCacheTtl | .flushMinNewAudioMs
  | .vadMinSpeechMs | .vadMinSilenceMs | .vadSpeechPadMs | .shutdownTimeoutSec | .maxAudioDurationSec => .int

abbrev ServerConfig := (field : Field) → field.kind.Value

def cint (n : Fin (2^31)) : CInt := ⟨n,by omega⟩

-- ServerConfig{}.
def defaults : ServerConfig
  | .modelPath => bytes "third_party/whisper.cpp/models/ggml-small.bin"
  | .bindAddress => bytes "0.0.0.0"
  | .port => (9001 : UInt16)
  | .certPath => []
  | .keyPath => []
  | .maxConnections => (8 : UInt64)
  | .maxConnectionsPerIp => (2 : UInt64)
  | .trustedProxyHosts => []
  | .trustedProxyRefreshSec => cint 30
  | .sessionTimeoutSec => cint 30
  | .handshakeTimeoutSec => cint 10
  | .authToken => []
  | .authApiUrl => []
  | .authApiSecret => []
  | .authCacheTtl => cint 300
  | .authApiTimeout => cint 5
  | .whisperBeamSize => cint 1
  | .whisperThreads => cint 4
  | .maxConcurrentInference => cint 4
  | .modelCacheTtl => cint 300
  | .whisperInitialPrompt => []
  | .whisperTemperature => (0.0 : Float32)
  | .whisperTemperatureInc => (0.0 : Float32)
  | .whisperNoSpeechThold => (0.3 : Float32)
  | .whisperLogprobThold => (-0.7 : Float32)
  | .flushMinNewAudioMs => cint 500
  | .vadModelPath => bytes "third_party/whisper.cpp/models/ggml-silero-v5.1.2.bin"
  | .vadThreshold => (0.5 : Float32)
  | .vadMinSpeechMs => cint 250
  | .vadMinSilenceMs => cint 2000
  | .vadMaxSpeechS => Float32.ofBits 0x7f7fffff
  | .vadSpeechPadMs => cint 400
  | .vadSamplesOverlap => (0.1 : Float32)
  | .shutdownTimeoutSec => cint 10
  | .maxUploadBytes => (25 * 1024 * 1024 : UInt64)
  | .maxAudioDurationSec => cint 600
  | .whisperTemperatureIncHttp => (0.2 : Float32)

def isSpace (byte : UInt8) : Bool := byte = 32 || (9 ≤ byte && byte ≤ 13)

-- The sign and the digits strtol and strtoul read: what follows them is not
-- looked at, and without a digit the caller throws.
def numeral (text : Text) : Option (Bool × Nat) :=
  let text := text.dropWhile isSpace
  let (negative,text) :=
    match text with
    | 45 :: rest => (true,rest)
    | 43 :: rest => (false,rest)
    | _ => (false,text)
  let digits := text.takeWhile isDigit
  if digits.isEmpty then none else some (negative,magnitude digits)

def stoi (text : Text) : Option CInt :=
  match numeral text with
  | none => none
  | some (negative,n) =>
    let value : Int := if negative then -n else n
    if fits : -2^31 ≤ value ∧ value < 2^31 then some ⟨value,fits⟩ else none

-- stoul and stoull. A minus sign negates in the unsigned type.
def stoul (text : Text) : Option UInt64 :=
  match numeral text with
  | none => none
  | some (negative,n) =>
    if n < 2^64 then some (if negative then -(UInt64.ofNat n) else UInt64.ofNat n) else none

-- none: the conversion throws. What number std::stof makes of a text nothing
-- here turns on: it is read once, stored, and handed to whisper.
variable (stof : Text → Option Float32)

def convert : (kind : Kind) → Text → Option kind.Value
  | .text,text => some text
  | .ushort,text => (stoul text).map UInt64.toUInt16
  | .int,text => stoi text
  | .size,text => stoul text
  | .float,text => stof text

def read (field : Field) (text : Text) : Option field.kind.Value := convert stof field.kind text

-- The variables configFromEnv looks at, in its order.
def envVars : List (Text × Field) :=
  [(bytes "MODEL_PATH",.modelPath),
    (bytes "BIND_ADDRESS",.bindAddress),
    (bytes "PORT",.port),
    (bytes "AUTH_TOKEN",.authToken),
    (bytes "AUTH_API_URL",.authApiUrl),
    (bytes "AUTH_API_SECRET",.authApiSecret),
    (bytes "AUTH_CACHE_TTL",.authCacheTtl),
    (bytes "AUTH_API_TIMEOUT",.authApiTimeout),
    (bytes "TLS_CERT",.certPath),
    (bytes "TLS_KEY",.keyPath),
    (bytes "MAX_CONNECTIONS",.maxConnections),
    (bytes "MAX_CONNECTIONS_PER_IP",.maxConnectionsPerIp),
    (bytes "TRUSTED_PROXY_HOSTS",.trustedProxyHosts),
    (bytes "TRUSTED_PROXY_REFRESH_SEC",.trustedProxyRefreshSec),
    (bytes "WHISPER_BEAM_SIZE",.whisperBeamSize),
    (bytes "WHISPER_THREADS",.whisperThreads),
    (bytes "MAX_CONCURRENT_INFERENCE",.maxConcurrentInference),
    (bytes "MODEL_CACHE_TTL",.modelCacheTtl),
    (bytes "WHISPER_INITIAL_PROMPT",.whisperInitialPrompt),
    (bytes "SESSION_TIMEOUT_SEC",.sessionTimeoutSec),
    (bytes "HANDSHAKE_TIMEOUT_SEC",.handshakeTimeoutSec),
    (bytes "WHISPER_TEMPERATURE",.whisperTemperature),
    (bytes "WHISPER_TEMPERATURE_INC",.whisperTemperatureInc),
    (bytes "WHISPER_TEMPERATURE_INC_HTTP",.whisperTemperatureIncHttp),
    (bytes "WHISPER_NO_SPEECH_THOLD",.whisperNoSpeechThold),
    (bytes "WHISPER_LOGPROB_THOLD",.whisperLogprobThold),
    (bytes "FLUSH_MIN_NEW_AUDIO_MS",.flushMinNewAudioMs),
    (bytes "SHUTDOWN_TIMEOUT_SEC",.shutdownTimeoutSec),
    (bytes "MAX_UPLOAD_BYTES",.maxUploadBytes),
    (bytes "MAX_AUDIO_DURATION_SEC",.maxAudioDurationSec)]

def env (environ : Environment) (var : Text) : Text := (environ var).getD []

def configFromEnv (environ : Environment) : Option ServerConfig :=
  envVars.foldlM (fun config entry =>
    let v := env environ entry.1
    if !v.isEmpty then assign (read stof) config (entry.2,v) else some config) defaults

-- The options of parseArgs that assign a member, in the order of its tests. The
-- last two stand behind the test for a path, which no option passes.
def options : List (Text × Field) :=
  [(bytes "--model",.modelPath),
    (bytes "--bind",.bindAddress),
    (bytes "--port",.port),
    (bytes "--auth-token",.authToken),
    (bytes "--auth-api-url",.authApiUrl),
    (bytes "--auth-api-secret",.authApiSecret),
    (bytes "--auth-cache-ttl",.authCacheTtl),
    (bytes "--auth-api-timeout",.authApiTimeout),
    (bytes "--cert",.certPath),
    (bytes "--key",.keyPath),
    (bytes "--max-connections",.maxConnections),
    (bytes "--max-connections-per-ip",.maxConnectionsPerIp),
    (bytes "--trusted-proxy-hosts",.trustedProxyHosts),
    (bytes "--trusted-proxy-refresh-sec",.trustedProxyRefreshSec),
    (bytes "--whisper-beam-size",.whisperBeamSize),
    (bytes "--whisper-threads",.whisperThreads),
    (bytes "--max-concurrent-inference",.maxConcurrentInference),
    (bytes "--model-cache-ttl",.modelCacheTtl),
    (bytes "--whisper-initial-prompt",.whisperInitialPrompt),
    (bytes "--session-timeout-sec",.sessionTimeoutSec),
    (bytes "--handshake-timeout-sec",.handshakeTimeoutSec),
    (bytes "--shutdown-timeout-sec",.shutdownTimeoutSec),
    (bytes "--whisper-temperature",.whisperTemperature),
    (bytes "--whisper-temperature-inc",.whisperTemperatureInc),
    (bytes "--whisper-temperature-inc-http",.whisperTemperatureIncHttp),
    (bytes "--whisper-no-speech-thold",.whisperNoSpeechThold),
    (bytes "--whisper-logprob-thold",.whisperLogprobThold),
    (bytes "--flush-min-new-audio-ms",.flushMinNewAudioMs),
    (bytes "--vad-model",.vadModelPath),
    (bytes "--vad-threshold",.vadThreshold),
    (bytes "--vad-min-speech-ms",.vadMinSpeechMs),
    (bytes "--vad-min-silence-ms",.vadMinSilenceMs),
    (bytes "--vad-max-speech-s",.vadMaxSpeechS),
    (bytes "--vad-speech-pad-ms",.vadSpeechPadMs),
    (bytes "--vad-samples-overlap",.vadSamplesOverlap),
    (bytes "--max-upload-bytes",.maxUploadBytes),
    (bytes "--max-audio-duration-sec",.maxAudioDurationSec)]

def helpOption : Text := bytes "--help"
def envFileOption : Text := bytes "--env-file"
def threadSafeOption : Text := bytes "--thread-safe"
def dashes : Text := bytes "--"

inductive Exit where
  | help
  | unknown (arg : Text)
  | fatal
  deriving DecidableEq, Repr

def Exit.code : Exit → Nat
  | .help => 0
  | .unknown _ | .fatal => 1

-- An argument that takes no value, or none that is there to take.
def parseSingle (config : ServerConfig) (arg : Text) : Except Exit ServerConfig :=
  if arg = threadSafeOption then .ok config
  else if ¬ dashes <+: arg ∧ config .modelPath = defaults .modelPath then
    .ok (Function.update config .modelPath arg)
  else .error (.unknown arg)

-- The loop of parseArgs. A conversion that throws ends main().
def parseLoop : ServerConfig → List Text → Except Exit ServerConfig
  | config,[] => .ok config
  | config,[arg] => if arg = helpOption then .error .help else parseSingle config arg
  | config,arg :: value :: rest =>
    if arg = helpOption then .error .help
    else if arg = envFileOption then parseLoop config rest
    else
      match options.lookup arg with
      | some field =>
        match assign (read stof) config (field,value) with
        | some config => parseLoop config rest
        | none => .error .fatal
      | none =>
        match parseSingle config arg with
        | .ok config => parseLoop config (value :: rest)
        | .error exit => .error exit

def parseArgs (environ : Environment) (args : List Text) : Except Exit ServerConfig :=
  match configFromEnv stof environ with
  | some config => parseLoop stof config args
  | none => .error .fatal

def extractEnvFile : List Text → Text
  | arg :: value :: rest => if arg = envFileOption then value else extractEnvFile (value :: rest)
  | _ => bytes ".env"

-- main() up to its first line of output. `files` opens a file and reads it.
def start (files : Text → Option Text) (environ : Environment) (args : List Text) :
    Except Exit ServerConfig :=
  parseArgs stof (loadDotEnv environ (files (extractEnvFile args))) args

-- What a command line says, argument by argument.
inductive Item where
  | option (flag : Text) (field : Field) (value : Text) (known : options.lookup flag = some field)
  | envFile (path : Text)
  | threadSafe
  | model (path : Text) (plain : ¬ dashes <+: path)

def Item.spell : Item → List Text
  | .option flag _ value _ => [flag,value]
  | .envFile path => [envFileOption,path]
  | .threadSafe => [threadSafeOption]
  | .model path _ => [path]

def Item.setting? : Item → Option (Field × Text)
  | .option _ field value _ => some (field,value)
  | .model path _ => some (.modelPath,path)
  | _ => none

def settings (items : List Item) : List (Field × Text) := items.filterMap Item.setting?

def variableSetting (environ : Environment) (entry : Text × Field) : Option (Field × Text) :=
  let v := env environ entry.1
  if !v.isEmpty then some (entry.2,v) else none

def variableSettings (environ : Environment) : List (Field × Text) :=
  envVars.filterMap (variableSetting environ)

-- A path without an option is the model's, as long as the model is still the
-- default one.
def Accepted (log : List (Field × Text)) (items : List Item) : Prop :=
  ∀ before path plain after, items = before ++ .model path plain :: after →
    ∀ given, latest (log ++ settings before) .modelPath = some given → given = defaults .modelPath

theorem configFromEnv_eq (environ : Environment) :
    configFromEnv stof environ = assignAll (read stof) defaults (variableSettings environ) := by
  unfold configFromEnv variableSettings
  generalize defaults = config
  induction envVars generalizing config with
  | nil => rfl
  | cons entry rest ih =>
    rw [List.foldlM_cons,List.filterMap_cons,variableSetting]
    cases filled : !(env environ entry.1).isEmpty with
    | false =>
      simp only [filled,Bool.false_eq_true,if_false]
      exact ih config
    | true =>
      simp only [filled,if_true]
      rw [assignAll,List.foldlM_cons]
      exact congrArg _ (funext fun config => ih config)

theorem option_shape (known : options.lookup flag = some field) :
    dashes <+: flag ∧ flag ≠ helpOption ∧ flag ≠ envFileOption := by
  have all : ∀ entry ∈ options, dashes <+: entry.1 ∧ entry.1 ≠ helpOption ∧ entry.1 ≠ envFileOption := by
    decide
  obtain ⟨front,back,split,_⟩ := List.lookup_eq_some_iff.mp known
  exact all (flag,field) (split ▸ List.mem_append_right front List.mem_cons_self)

theorem plain_unknown (plain : ¬ dashes <+: arg) :
    arg ≠ helpOption ∧ arg ≠ envFileOption ∧ arg ≠ threadSafeOption ∧ options.lookup arg = none := by
  refine ⟨?_,?_,?_,Option.eq_none_iff_forall_ne_some.mpr fun field known => plain (option_shape known).1⟩
  all_goals
    rintro rfl
    exact plain (by decide)

theorem parseLoop_single (unhelpful : arg ≠ helpOption) (path : arg ≠ envFileOption)
    (unknown : options.lookup arg = none) (config : ServerConfig) (rest : List Text) :
    parseLoop stof config (arg :: rest) =
      match parseSingle config arg with
      | .ok config => parseLoop stof config rest
      | .error exit => .error exit := by
  cases rest with
  | nil =>
    rw [parseLoop,if_neg unhelpful]
    cases parseSingle config arg <;> rfl
  | cons value rest =>
    rw [parseLoop,if_neg unhelpful,if_neg path]
    simp only [unknown]

theorem parseLoop_option (known : options.lookup flag = some field) (config : ServerConfig)
    (value : Text) (rest : List Text) :
    parseLoop stof config (flag :: value :: rest) =
      match assign (read stof) config (field,value) with
      | some config => parseLoop stof config rest
      | none => .error .fatal := by
  obtain ⟨_,unhelpful,path⟩ := option_shape known
  rw [parseLoop,if_neg unhelpful,if_neg path]
  simp only [known]

theorem parseLoop_envFile (config : ServerConfig) (path : Text) (rest : List Text) :
    parseLoop stof config (envFileOption :: path :: rest) = parseLoop stof config rest := by
  rw [parseLoop,if_neg (by decide),if_pos rfl]

theorem parseLoop_threadSafe (config : ServerConfig) (rest : List Text) :
    parseLoop stof config (threadSafeOption :: rest) = parseLoop stof config rest := by
  rw [parseLoop_single stof (by decide) (by decide) (by decide),parseSingle,if_pos rfl]

theorem parseLoop_model (plain : ¬ dashes <+: path) (config : ServerConfig) (rest : List Text) :
    parseLoop stof config (path :: rest) =
      if config .modelPath = defaults .modelPath then
        parseLoop stof (Function.update config .modelPath path) rest
      else .error (.unknown path) := by
  obtain ⟨unhelpful,own,safe,unknown⟩ := plain_unknown plain
  rw [parseLoop_single stof unhelpful own unknown,parseSingle,if_neg safe]
  by_cases same : config .modelPath = defaults .modelPath
  · rw [if_pos ⟨plain,same⟩,if_pos same]
  · rw [if_neg (fun both => same both.2),if_neg same]

def Item.step (config : ServerConfig) : Item → Except Exit ServerConfig
  | .option _ field value _ =>
    match assign (read stof) config (field,value) with
    | some config => .ok config
    | none => .error .fatal
  | .envFile _ | .threadSafe => .ok config
  | .model path _ =>
    if config .modelPath = defaults .modelPath then .ok (Function.update config .modelPath path)
    else .error (.unknown path)

theorem parseLoop_item (config : ServerConfig) (item : Item) (rest : List Text) :
    parseLoop stof config (item.spell ++ rest) = (item.step stof config).bind (parseLoop stof · rest) := by
  cases item with
  | option flag field value known =>
    rw [Item.spell,List.cons_append,List.cons_append,List.nil_append,parseLoop_option stof known,Item.step]
    cases assign (read stof) config (field,value) <;> rfl
  | envFile path => exact parseLoop_envFile stof config path rest
  | threadSafe => exact parseLoop_threadSafe stof config rest
  | model path plain =>
    rw [Item.spell,List.singleton_append,parseLoop_model stof plain,Item.step]
    split <;> rfl

theorem parseSingle_item (ran : parseSingle config arg = .ok next) : ∃ item : Item, item.spell = [arg] := by
  unfold parseSingle at ran
  split at ran
  · rename_i same
    exact ⟨.threadSafe,congrArg (fun arg => [arg]) same.symm⟩
  · split at ran
    · rename_i taken
      exact ⟨.model arg taken.1,rfl⟩
    · cases ran

theorem parseLoop_starts (ran : parseLoop stof config (arg :: rest) = .ok after) :
    ∃ item : Item, ∃ later, arg :: rest = item.spell ++ later ∧ later.length < (arg :: rest).length := by
  have alone {config next : ServerConfig} (ran : parseSingle config arg = .ok next) :
      ∃ item : Item, ∃ later, arg :: rest = item.spell ++ later ∧ later.length < (arg :: rest).length := by
    obtain ⟨item,spelled⟩ := parseSingle_item ran
    exact ⟨item,rest,by rw [spelled]; rfl,Nat.lt_succ_self _⟩
  cases rest with
  | nil =>
    rw [parseLoop] at ran
    split at ran
    · cases ran
    · exact alone ran
  | cons value rest =>
    rw [parseLoop] at ran
    split at ran
    · cases ran
    · split at ran
      · rename_i same
        exact ⟨.envFile value,rest,by rw [same]; rfl,Nat.lt_succ_of_lt (Nat.lt_succ_self _)⟩
      · split at ran
        · rename_i field known
          exact ⟨.option arg field value known,rest,rfl,Nat.lt_succ_of_lt (Nat.lt_succ_self _)⟩
        · split at ran
          · rename_i next single
            exact alone single
          · cases ran

theorem modelPath_latest (written : assignAll (read stof) defaults log = some config) :
    config .modelPath = (latest log .modelPath).getD (defaults .modelPath) := by
  have holds := (((assignAll_iff log).mp written).2 .modelPath).total fun _ => rfl
  rwa [Option.map_id'] at holds

theorem step_iff (written : assignAll (read stof) defaults log = some config) (item : Item) :
    item.step stof config = .ok next ↔
      (∀ path plain, item = .model path plain → ∀ given, latest log .modelPath = some given →
        given = defaults .modelPath) ∧
      assignAll (read stof) defaults (log ++ settings [item]) = some next := by
  have path := modelPath_latest stof written
  have still : (∀ given, latest log .modelPath = some given → given = defaults .modelPath) ↔
      config .modelPath = defaults .modelPath := by
    rw [path]
    cases latest log .modelPath with
    | none => simp
    | some given => simp
  rw [assignAll_append,written,Option.bind_some]
  cases item with
  | option flag field value known =>
    rw [show settings [.option flag field value known] = [(field,value)] from rfl,assignAll_singleton,Item.step]
    cases assign (read stof) config (field,value) <;> simp
  | envFile path =>
    rw [show assignAll (read stof) config (settings [.envFile path]) = some config from rfl,Item.step]
    simp
  | threadSafe =>
    rw [show assignAll (read stof) config (settings [.threadSafe]) = some config from rfl,Item.step]
    simp
  | model path plain =>
    have assigned : assign (read stof) config (.modelPath,path) =
        some (Function.update config .modelPath path) := rfl
    rw [show settings [.model path plain] = [(.modelPath,path)] from rfl,assignAll_singleton,assigned,Item.step]
    by_cases same : config .modelPath = defaults .modelPath
    · simp [still,same]
    · rw [if_neg same]
      constructor
      · intro impossible; cases impossible
      · rintro ⟨free,_⟩
        exact absurd (still.mp (free path plain rfl)) same

theorem accepted_cons (item : Item) (items : List Item) (log : List (Field × Text)) :
    Accepted log (item :: items) ↔
      (∀ path plain, item = .model path plain → ∀ given, latest log .modelPath = some given →
        given = defaults .modelPath) ∧
      Accepted (log ++ settings [item]) items := by
  constructor
  · intro accepted
    refine ⟨?_,?_⟩
    · rintro path plain rfl given last
      exact accepted [] path plain items rfl given (by rwa [settings,List.filterMap_nil,List.append_nil])
    · rintro before path plain after rfl given last
      refine accepted (item :: before) path plain after rfl given ?_
      rwa [List.append_assoc,settings,settings,← List.filterMap_append] at last
  · rintro ⟨first,rest⟩ before path plain after split given last
    cases before with
    | nil =>
      cases split
      rw [settings,List.filterMap_nil,List.append_nil] at last
      exact first path plain rfl given last
    | cons head before =>
      cases split
      refine rest before path plain after rfl given ?_
      rwa [List.append_assoc,settings,settings,← List.filterMap_append]

theorem parseLoop_sound (written : assignAll (read stof) defaults log = some config)
    (ran : parseLoop stof config args = .ok after) :
    ∃ items : List Item, args = items.flatMap Item.spell ∧ Accepted log items ∧
      assignAll (read stof) defaults (log ++ settings items) = some after := by
  induction shrinks : args.length using Nat.strong_induction_on generalizing args config log with
  | _ size ih =>
    cases args with
    | nil =>
      cases ran
      refine ⟨[],rfl,?_,by rwa [settings,List.filterMap_nil,List.append_nil]⟩
      intro before path plain after split
      simp at split
    | cons arg rest =>
      obtain ⟨item,later,spelled,shorter⟩ := parseLoop_starts stof ran
      rw [spelled,parseLoop_item] at ran
      cases moved : item.step stof config with
      | error exit =>
        rw [moved] at ran
        cases ran
      | ok next =>
        rw [moved] at ran
        obtain ⟨free,stepped⟩ := (step_iff stof written item).mp moved
        obtain ⟨items,rfl,accepted,done⟩ := ih later.length (shrinks ▸ shorter) stepped ran rfl
        refine ⟨item :: items,spelled,(accepted_cons item items log).mpr ⟨free,accepted⟩,?_⟩
        rwa [List.append_assoc,settings,settings,← List.filterMap_append] at done

theorem parseLoop_complete (written : assignAll (read stof) defaults log = some config)
    (items : List Item) (accepted : Accepted log items)
    (done : assignAll (read stof) defaults (log ++ settings items) = some after) :
    parseLoop stof config (items.flatMap Item.spell) = .ok after := by
  induction items generalizing config log with
  | nil =>
    rw [settings,List.filterMap_nil,List.append_nil,written] at done
    cases done
    rfl
  | cons item rest ih =>
    obtain ⟨free,accepted⟩ := (accepted_cons item rest log).mp accepted
    have split : log ++ settings (item :: rest) = (log ++ settings [item]) ++ settings rest := by
      rw [List.append_assoc,settings,settings,settings,← List.filterMap_append]
      rfl
    rw [split] at done
    obtain ⟨next,stepped,_⟩ := Option.bind_eq_some_iff.mp ((assignAll_append _ _).symm.trans done)
    have moved := (step_iff stof written item).mpr ⟨free,stepped⟩
    rw [List.flatMap_cons,parseLoop_item,moved]
    exact ih stepped accepted done

-- The variable of a member, if it has one: the VAD options have none.
def variableOf (field : Field) : Option Text := (envVars.find? (·.2 = field)).map Prod.fst

theorem variableSetting_own (set : variableSetting environ entry = some found) : found.1 = entry.2 := by
  simp only [variableSetting] at set
  split at set
  · cases set; rfl
  · cases set

theorem variableSetting_value (environ : Environment) (entry : Text × Field) :
    (variableSetting environ entry).map Prod.snd = (environ entry.1).filter (!·.isEmpty) := by
  cases found : environ entry.1 with
  | none => simp [variableSetting,env,found]
  | some text =>
    cases text with
    | nil =>
      simp [variableSetting,env,found]
      rfl
    | cons byte rest =>
      simp [variableSetting,env,found]
      rfl

theorem latest_filterMap (environ : Environment) (vars : List (Text × Field))
    (distinct : (vars.map Prod.snd).Nodup) (field : Field) :
    latest (vars.filterMap (variableSetting environ)) field =
      ((vars.find? (·.2 = field)).map Prod.fst).bind fun var => (environ var).filter (!·.isEmpty) := by
  induction vars with
  | nil => rfl
  | cons entry rest ih =>
    obtain ⟨absent,distinct⟩ := List.nodup_cons.mp distinct
    have cons : (entry :: rest).filterMap (variableSetting environ) =
        (variableSetting environ entry).toList ++ rest.filterMap (variableSetting environ) := by
      rw [List.filterMap_cons]
      cases variableSetting environ entry <;> rfl
    rw [cons,latest_append]
    by_cases same : entry.2 = field
    · have later : latest (rest.filterMap (variableSetting environ)) field = none := by
        refine latest_none fun found present equal => absent ?_
        obtain ⟨source,listed,set⟩ := List.mem_filterMap.mp present
        exact List.mem_map.mpr ⟨source,listed,(variableSetting_own set).symm.trans (equal.trans same.symm)⟩
      rw [List.find?_cons_of_pos (by simpa using same),Option.map_some,Option.bind_some,
        ← variableSetting_value,later,Option.none_or]
      cases set : variableSetting environ entry with
      | none => rfl
      | some found => simp [latest_cons,(variableSetting_own set).trans same]
    · have other : latest (variableSetting environ entry).toList field = none := by
        refine latest_none fun found present equal => same ?_
        exact (variableSetting_own (Option.mem_toList.mp present)).symm.trans equal
      rw [List.find?_cons_of_neg (by simpa using same),other,Option.or_none,ih distinct]

-- What is said of a member: on the command line, else in the environment, else
-- in the .env file. A variable that is empty says nothing.
def layered (environ : Environment) (dotEnv : List (Text × Text)) (items : List Item) (field : Field) :
    Option Text :=
  (latest (settings items) field).or
    ((variableOf field).bind fun var => ((environ var).or (dotEnv.lookup var)).filter (!·.isEmpty))

-- The server starts with a configuration exactly when the command line reads as
-- a list of options, of which a bare path names no second model, and every text
-- given for a member, overridden or not, converts; each member is then what is
-- said of it last, or its default.
theorem start_iff (files : Text → Option Text) (environ : Environment) (args : List Text)
    (config : ServerConfig) :
    start stof files environ args = .ok config ↔
      ∃ items : List Item, args = items.flatMap Item.spell ∧
        let file := files (extractEnvFile args)
        let given := variableSettings (loadDotEnv environ file)
        Accepted given items ∧
        (∀ entry ∈ given ++ settings items, (read stof entry.1 entry.2).isSome) ∧
        ∀ field, Holds (read stof) defaults config field
          (layered environ (assignments file) items field) := by
  generalize wanted : files (extractEnvFile args) = file
  have said (items : List Item) (field : Field) :
      latest (variableSettings (loadDotEnv environ file) ++ settings items) field =
        layered environ (assignments file) items field := by
    rw [latest_append,variableSettings,latest_filterMap _ _ (by decide),layered,variableOf]
    simp only [loadDotEnv_eq]
  have meant (items : List Item) :
      assignAll (read stof) defaults (variableSettings (loadDotEnv environ file) ++ settings items) = some config ↔
        (∀ entry ∈ variableSettings (loadDotEnv environ file) ++ settings items,
          (read stof entry.1 entry.2).isSome) ∧
        ∀ field, Holds (read stof) defaults config field (layered environ (assignments file) items field) := by
    simp only [assignAll_iff,said]
  rw [start,parseArgs,configFromEnv_eq,wanted]
  simp only [← meant]
  cases written : assignAll (read stof) defaults (variableSettings (loadDotEnv environ file)) with
  | none =>
    constructor
    · intro impossible; cases impossible
    · rintro ⟨items,_,_,done⟩
      rw [assignAll_append,written] at done
      cases done
  | some before =>
    constructor
    · exact parseLoop_sound stof written
    · rintro ⟨items,rfl,accepted,done⟩
      exact parseLoop_complete stof written items accepted done

-- What main() makes of the configuration before the first connection.
def authConfig (config : ServerConfig) : ApiAuthConfig where
  apiBaseUrl := config .authApiUrl
  cacheTtlSeconds := (config .authCacheTtl).val
  staticToken := config .authToken

def httpConfig (config : ServerConfig) : JotaTranscriber.ServerConfig where
  authToken := config .authToken
  authApiUrl := config .authApiUrl
  maxUploadBytes := (config .maxUploadBytes).toNat
  maxAudioDurationSec := (config .maxAudioDurationSec).val
  vadModelPath := config .vadModelPath
  vadSpeechPadMs := (config .vadSpeechPadMs).val

structure Services where
  modelCache : ModelCache
  inferenceLimiter : InferenceLimiter
  limiter : ConnectionLimiter
  trustedResolver : TrustedProxyResolver
  authManager : AuthManager

def services (config : ServerConfig) : Services where
  modelCache := ModelCache.empty.configure (config .modelCacheTtl).val
  inferenceLimiter := InferenceLimiter.create.setMaxConcurrency (config .maxConcurrentInference)
  limiter := .create (config .maxConnections).toNat (config .maxConnectionsPerIp).toNat
  trustedResolver := .create (config .trustedProxyHosts)
  authManager := .create (authConfig config)

theorem authConfigured_httpConfig (config : ServerConfig) :
    HandleTranscribe.authConfigured (httpConfig config) = (services config).authManager.isAuthEnabled :=
  Bool.or_comm _ _

-- A manager lets every token in only when it was given neither a token nor a URL.
theorem create_open (config : ApiAuthConfig) :
    (∀ token exchange, ((AuthManager.create config).validate token exchange).2 = true) ↔
      config.apiBaseUrl = [] ∧ config.staticToken = [] := by
  constructor
  · intro accepts
    have unset : config.staticToken = [] := by
      by_contra given
      have other := accepts (config.staticToken ++ [0]) ⟨0,0,.denied⟩
      have enabled : (AuthManager.create config).authEnabled = true := by simp [AuthManager.create,given]
      have static : (AuthManager.create config).staticToken = config.staticToken := rfl
      rw [AuthManager.validate,if_neg (by simp [enabled]),if_pos (by simp [static,given]),static,
        AuthManager.constantTimeEqual_iff] at other
      exact absurd other (by simp)
    refine ⟨?_,unset⟩
    by_contra given
    have refused := accepts [] ⟨0,0,.denied⟩
    simp [AuthManager.validate,AuthManager.create,given,unset,AuthCache.get] at refused
  · rintro ⟨url,token⟩ _ _
    simp [AuthManager.validate,AuthManager.create,url,token]

-- Authentication is off exactly when the last word on both the token and the
-- URL of the API is nothing.
theorem open_iff (ran : start stof files environ args = .ok config) :
    ∃ items : List Item, args = items.flatMap Item.spell ∧
      ((∀ token exchange, ((services config).authManager.validate token exchange).2 = true) ↔
        ∀ field ∈ [Field.authApiUrl,.authToken],
          (layered environ (assignments (files (extractEnvFile args))) items field).getD [] = []) := by
  obtain ⟨items,spelled,_,_,holds⟩ := (start_iff stof files environ args config).mp ran
  refine ⟨items,spelled,?_⟩
  have url := (holds .authApiUrl).total fun _ => rfl
  have token := (holds .authToken).total fun _ => rfl
  rw [Option.map_id'] at url token
  rw [services,create_open,authConfig,url,token]
  simp [defaults]

theorem open_iff_token : ∃ config,
    start (fun _ => none) (fun _ => none) (fun _ => none) [bytes "--auth-token",bytes "secret"] = .ok config ∧
    ∃ items : List Item, [bytes "--auth-token",bytes "secret"] = items.flatMap Item.spell ∧
      ((∀ token exchange, ((services config).authManager.validate token exchange).2 = true) ↔
        ∀ field ∈ [Field.authApiUrl,.authToken],
          (layered (fun _ => none) (assignments none) items field).getD [] = []) := by
  have ran : start (fun _ => none) (fun _ => none) (fun _ => none) [bytes "--auth-token",bytes "secret"] =
      .ok (Function.update defaults .authToken (bytes "secret")) := rfl
  exact ⟨_,ran,open_iff (fun _ => none) ran⟩

end JotaTranscriber.Startup

import JotaTranscriber.SessionMachine
import JotaTranscriber.Saturation
import JotaTranscriber.FinalMessage
import JotaTranscriber.SessionRuns
import JotaTranscriber.ModelReferences
import JotaTranscriber.MultipartParser
import JotaTranscriber.AuthGate
import JotaTranscriber.Transcript
import JotaTranscriber.EngineLifetime
import JotaTranscriber.InferenceFailures
import JotaTranscriber.FlowControl
import JotaTranscriber.CacheLifetime
import JotaTranscriber.CacheTtl
import JotaTranscriber.ConnectionLimiter
import JotaTranscriber.AcceptLoop
import JotaTranscriber.ConnectionAccounting
import JotaTranscriber.ApiAuthClient
import JotaTranscriber.AuthValidation
import JotaTranscriber.ConcurrentAudio
import JotaTranscriber.ConfigEpochs
import JotaTranscriber.DropAccounting
import JotaTranscriber.InferenceLimiter
import JotaTranscriber.InferenceSlots
import JotaTranscriber.SlowReader
import JotaTranscriber.StreamCalls
import JotaTranscriber.SessionHandler
import JotaTranscriber.GatedTimeline
import JotaTranscriber.MultipartRoundTrip
import JotaTranscriber.SingleAnswer
import JotaTranscriber.PathSwitching
import JotaTranscriber.SessionThreads
import JotaTranscriber.HandshakeWatchdog
import JotaTranscriber.GracefulShutdown
import JotaTranscriber.AuthPrecedence
import JotaTranscriber.LastKnown
import JotaTranscriber.TrustedProxyResolver
import JotaTranscriber.Utf8
import JotaTranscriber.EngineBuffer
import JotaTranscriber.DecoderWindow
import JotaTranscriber.CommitAccounting
import JotaTranscriber.NewAudio
import JotaTranscriber.ControlFrames
import JotaTranscriber.ConfigAtomicity
import JotaTranscriber.RateWindow
import JotaTranscriber.DispositionParams
import JotaTranscriber.BoundaryParameter
import JotaTranscriber.AudioDecoder
import JotaTranscriber.DecodedFrames
import JotaTranscriber.NormalisedChunks
import JotaTranscriber.LimiterEntries
import JotaTranscriber.MemorySource
import JotaTranscriber.Simulation
import JotaTranscriber.WireProtocol
import JotaTranscriber.EffectTriples
import JotaTranscriber.RequestOrder
import JotaTranscriber.ModelUse
import JotaTranscriber.ConditionVariable
import JotaTranscriber.InferenceWaiters
import JotaTranscriber.Teardown
import JotaTranscriber.ResponseReport
import JotaTranscriber.AuthUrl
import JotaTranscriber.AuthLog
import JotaTranscriber.Startup
import JotaTranscriber.IdleUnload
import JotaTranscriber.IdleWatchdog
import JotaTranscriber.ShutdownTimeout
import JotaTranscriber.LanguageLock
import JotaTranscriber.Monitoring

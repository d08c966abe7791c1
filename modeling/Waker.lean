import Waker.WakeState
import Waker.RunWake
import Waker.RunWakeTrace
import Waker.RunWakeOrder
import Waker.RunWakeReports
import Waker.Text
import Waker.Substring
import Waker.Trimming
import Waker.Lines
import Waker.Utf8
import Waker.Hexadecimal
import Waker.Decimal
import Waker.WireGuardProfile
import Waker.Latest
import Waker.ProfileLines
import Waker.ProfileAcceptance
import Waker.StandardDecoder
import Waker.SinglePeer
import Waker.MalformedFields
import Waker.SlotMap
import Waker.SmolStack
import Waker.SmolReference
import Waker.SmolEngine
import Waker.EngineStart
import Waker.EngineSockets
import Waker.Loopback
import Waker.StepSystem
import Waker.ReportingThread
import Waker.ThreadPool
import Waker.ThreadWakeup
import Waker.ThreadOutcome
import Waker.WorkerThreads
import Waker.WakerApp
import Waker.AppSystem
import Waker.AppInvariant
import Waker.SystemInvariant
import Waker.SystemSteps
import Waker.TunnelOverlap
import Waker.RepaintSlot
import Waker.RepaintWakeup
import Waker.AttemptHistory
import Waker.Diagnostics
import Waker.CredentialLines
import Waker.SecretIndependence
import Waker.LogTail
import Waker.MacAddress
import Waker.ExpirySchedule
import Waker.FileSettings
import Waker.ProfileRendering
import Waker.RenderedLines
import Waker.ProfileRecovery
import Waker.GuardedLog
import Waker.RunWakeRule
import Waker.PatternSearch
import Waker.Utf8Text
import Waker.HttpHead
import Waker.Ipv4Text
import Waker.FritzHosts
import Waker.AddressText
import Waker.LabFritz
import Waker.LabExchange
import Waker.WireGuardBackend
import Waker.TunnelOwnership
import Waker.Utf16Offsets
import Waker.AndroidIme
import Waker.TextInputEcho
import Waker.TextInputRouting
import Waker.TouchBracket
import Waker.AndroidGpu
import Waker.TextureUpdates
import Waker.ProbeDeadline
import Waker.TcpConnection
import Waker.HttpExchange
import Waker.EchoReplies
import Waker.ScriptedNetwork
import Waker.EndpointResolution
import Waker.SplitLists
import Waker.Whitespace
import Waker.TruncatedResponse
import Waker.AtomicUpdate
import Waker.AttemptIds
import Waker.EphemeralPorts
import Waker.PercentEncoding
import Waker.TextDataUri
import Waker.StatusLine
import Waker.PollingLoop
import Waker.EngineLoops
import Waker.EngineTermination
import Waker.RequestServer
import Waker.RequestRecord
import Waker.RequestTurns
import Waker.FifoChannel
import Waker.OneshotChannel
import Waker.TunnelCalls
import Waker.TunnelCommands
import Waker.RouterRequests
import Waker.LabWake
import Waker.WakeDuration
import Waker.PacketQueues
import Waker.Configuration
import Waker.CheckRecord
import Waker.Screen
import Waker.WakeScreen
import Waker.Transducer
import Waker.DrainInput
import Waker.InputTranslation
import Waker.AndroidMainLoop
import Waker.SoftKeyboard
import Waker.DiagnosticsBundle
import Waker.WindowSurface
import Waker.WindowedLoop
import Waker.FailureHeading
import Waker.LogSubscriber
import Waker.PersistentLog
import Waker.WatchChannel
import Waker.AbortableTask
import Waker.TunnelTasks
import Waker.TunnelShutdown

import Mathlib.Data.List.Basic

namespace Waker

/-!
# Wake targets, failures, and states

The data model of the wake crate: addresses, the target of a wake attempt, the
stages at which an attempt can fail, and the states reported to the user
interface.  Durations and clock readings are natural numbers of nanoseconds.
-/

/-- A span of time in nanoseconds. -/
abbrev Duration := Nat

/-- A reading of a monotone or system clock in nanoseconds. -/
abbrev Instant := Nat

namespace Duration

/-- A whole number of milliseconds. -/
def fromMillis (millis : Nat) : Duration :=
  millis * 1000000

/-- A whole number of seconds. -/
def fromSecs (secs : Nat) : Duration :=
  secs * 1000000000

/-- A whole number of minutes. -/
def fromMins (mins : Nat) : Duration :=
  fromSecs (mins * 60)

/-- The whole milliseconds contained in a duration. -/
def asMillis (duration : Duration) : Nat :=
  duration / 1000000

/-- The whole seconds contained in a duration. -/
def asSecs (duration : Duration) : Nat :=
  duration / 1000000000

end Duration

namespace Instant

/-- Time passed since an earlier reading, zero when the clock went backwards. -/
def durationSince (later earlier : Instant) : Duration :=
  later - earlier

end Instant

/-- An IPv4 address by its four octets. -/
structure Ipv4Addr where
  a : UInt8
  b : UInt8
  c : UInt8
  d : UInt8
  deriving Repr, DecidableEq

/-- A MAC address is a sequence of exactly six octets. -/
structure MacAddress where
  octets : Vector UInt8 6
  deriving Repr, DecidableEq

/-- The host to wake and the timing of its readiness probes. -/
structure WakeTarget where
  mac : MacAddress
  probeTimeout : Duration
  probeInterval : Duration
  deriving Repr, DecidableEq

namespace WakeTarget

/-- The default timing: probe every 250 ms for one minute. -/
def new (mac : MacAddress) : WakeTarget where
  mac := mac
  probeTimeout := Duration.fromMins 1
  probeInterval := Duration.fromMillis 250

end WakeTarget

/-- The step of a wake attempt in which it failed. -/
inductive WakeFailureStage where
  | configuration
  | connect
  | resolveTarget
  | wakeRequest
  | probe
  | timeout
  | runtime
  deriving Repr, DecidableEq

namespace WakeFailureStage

/-- The sentence shown to the user for each stage. -/
def userMessage : WakeFailureStage → String
  | .configuration => "Configuration is invalid"
  | .connect => "Could not connect to FRITZ!Box"
  | .resolveTarget => "Could not resolve the PC address"
  | .wakeRequest => "FRITZ!Box did not accept the wake request"
  | .probe => "Could not check whether the PC is awake"
  | .timeout => "PC did not wake in time"
  | .runtime => "Waker could not start the wake operation"

/-- The stage name written to the diagnostic log. -/
def logName : WakeFailureStage → String
  | .configuration => "configuration"
  | .connect => "connect"
  | .resolveTarget => "resolve_target"
  | .wakeRequest => "wake_request"
  | .probe => "probe"
  | .timeout => "timeout"
  | .runtime => "runtime"

/-- Different stages are never shown to the user with the same sentence. -/
theorem userMessage_injective
    {first second : WakeFailureStage}
    (same : first.userMessage = second.userMessage) :
    first = second := by
  cases first <;> cases second <;>
    first
      | rfl
      | exact absurd same (by decide)

/-- Different stages are never logged under the same name. -/
theorem logName_injective
    {first second : WakeFailureStage}
    (same : first.logName = second.logName) :
    first = second := by
  cases first <;> cases second <;>
    first
      | rfl
      | exact absurd same (by decide)

end WakeFailureStage

/-- A failed wake attempt: its stage and the technical detail. -/
structure WakeFailure where
  stage : WakeFailureStage
  detail : String
  deriving Repr, DecidableEq

namespace WakeFailure

/-- The sentence shown to the user for a failure. -/
def userMessage (failure : WakeFailure) : String :=
  failure.stage.userMessage

/-- The failure as one line of text. -/
def display (failure : WakeFailure) : String :=
  failure.userMessage ++ ": " ++ failure.detail

end WakeFailure

/-- What the user interface knows about a wake attempt. -/
inductive WakeState where
  | idle
  | connecting
  | resolvingPc
  | waking
  | waitingForPc (attempt : Nat)
  | awake
  | failed (failure : WakeFailure)
  deriving Repr, DecidableEq

namespace WakeState

/-- The label of a wake state. -/
def label : WakeState → String
  | .idle => "Ready"
  | .connecting => "Connecting…"
  | .resolvingPc => "Finding PC…"
  | .waking => "Sending wake request…"
  | .waitingForPc attempt => s!"Waiting for PC… ({attempt})"
  | .awake => "PC awake"
  | .failed failure => "Wake failed: " ++ failure.userMessage

/-- States after which a wake attempt is over. -/
def isTerminal : WakeState → Bool
  | .awake | .failed _ => true
  | _ => false

/-- States in which a wake attempt is still running. -/
def isProgress : WakeState → Bool
  | .connecting | .resolvingPc | .waking | .waitingForPc _ => true
  | _ => false

/-- No state is both running and over. -/
theorem not_isTerminal_of_isProgress
    {state : WakeState}
    (progress : state.isProgress = true) :
    state.isTerminal = false := by
  cases state <;> simp_all [isProgress, isTerminal]

end WakeState

/-- The error of a backend call, displayed as its message. -/
structure WakeBackendError where
  message : String
  deriving Repr, DecidableEq

end Waker

import AkuSupervisor.Application.Health

namespace AkuSupervisor

/-- Exit status of a launcher; a process killed by a signal has no code. -/
structure ExitStatus where
  code : Option Int
  deriving DecidableEq

def ExitStatus.success (self : ExitStatus) : Bool := self.code=some 0

/-- Read-only identity metadata for one process currently owned by a service. -/
structure ProcessIdentity where
  pid : Nat
  name : Option String
  deriving DecidableEq

/-- Fully resolved process launch request produced from validated configuration. -/
structure LaunchSpec where
  executable : String
  args : List String
  cwd : String
  environment : List (String × String)
  stdoutLog : Option String
  stderrLog : Option String
  deriving DecidableEq

/-- Platform-neutral outcome of stopping one owned process tree. -/
structure TreeStopReport where
  ownedPidsBefore : List Nat
  ownedPidsAfter : List Nat
  gracefulSignalSent : Bool
  gracefulSignalError : Option String
  forced : Bool
  deriving DecidableEq

/-- Whether the platform has confirmed that the owned tree is empty. -/
def TreeStopReport.isComplete (self : TreeStopReport) : Bool := self.ownedPidsAfter.isEmpty

inductive NetworkFamily where
  | v4
  | v6
  deriving DecidableEq

/-- Read-only evidence that a process currently has a local TCP endpoint. -/
structure PortOccupant where
  pid : Nat
  family : NetworkFamily
  deriving DecidableEq

/-- Current read-only diagnostic result for one declared TCP port. -/
structure PortDiagnostic where
  port : UInt16
  occupants : List PortOccupant
  deriving DecidableEq

def PortDiagnostic.isAvailable (self : PortDiagnostic) : Bool := self.occupants.isEmpty

/-- What the process, port and health adapters and the clock answer to the calls that one
operation makes while it works on one service. `P` is an owned process tree, `E` and `Q` are the
adapters' process and port errors. A call that an operation can make several times takes the
number of the attempt, so that its answers may differ. -/
structure Platform (P E Q : Type) where
  preflightLaunch : String → LaunchSpec → Except E Unit
  spawn : String → LaunchSpec → Except E P
  rootPid : P → Nat
  ownedPids : Nat → P → Except E (List Nat)
  ownedProcesses : P → Except E (List ProcessIdentity)
  tryWait : P → Except E (Option ExitStatus)
  stop : P → Nat → Except E TreeStopReport
  inspectTcpPort : Nat → UInt16 → Except Q PortDiagnostic
  /-- The probe of a check, by wait loop, attempt, check and timeout. -/
  probe : Nat → Nat → HealthCheckSpec → Nat → TransportHealth
  /-- Time that passes in one attempt of a wait loop, before and after its probe. -/
  lag : Nat → Nat → Nat × Nat
  /-- The monotone clock, read when a start is recorded and when an exit is judged. -/
  now : Nat
  unixMilliseconds : Nat

/-- The calls that act on process trees, and the clock reading kept for a successful start.
Every operation of the model logs these, oldest first, with the answer it got. -/
inductive TreeCall (P E : Type) where
  | spawn (serviceId : String) (launch : LaunchSpec) (answer : Except E P)
  | stop (process : P) (grace : Nat) (answer : Except E TreeStopReport)
  | tryWait (process : P) (answer : Except E (Option ExitStatus))
  | recordStarted (serviceId : String) (now : Nat)

end AkuSupervisor

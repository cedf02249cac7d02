import AkuSupervisor.Domain.Control
import AkuSupervisor.Domain.Lifecycle
import AkuSupervisor.Application.PlatformPorts

namespace AkuSupervisor

/-- Bounded automatic restart policy mapped from validated configuration. -/
inductive ServiceRestartPolicy where
  | manual
  | onFailure
  deriving DecidableEq

structure SupervisionState where
  desiredState : DesiredState
  startedAtUnixMs : Option Nat
  startedAt : Option Nat
  lastExitCode : Option Int
  lastExitAtUnixMs : Option Nat
  restartCount : Nat
  automaticRestartsInEpisode : Nat
  restartAfterTermination : Bool
  lastOwnedPids : List Nat
  deriving DecidableEq

namespace SupervisionState

def new : SupervisionState := ⟨.stopped,none,none,none,none,0,0,false,[]⟩

def requestRunning (self : SupervisionState) (actor : Actor) : SupervisionState :=
  { self with
    desiredState := .running
    restartAfterTermination := false
    automaticRestartsInEpisode :=
      if actor≠.recovery then 0 else self.automaticRestartsInEpisode }

def requestStopped (self : SupervisionState) : SupervisionState :=
  { self with
    desiredState := .stopped
    startedAt := none
    startedAtUnixMs := none
    automaticRestartsInEpisode := 0
    restartAfterTermination := false
    lastOwnedPids := [] }

/-- `u32::saturating_add`. -/
def saturatingSucc (n : Nat) : Nat := min (n+1) (UInt32.size-1)

def recordStarted (self : SupervisionState) (now : Nat) (unixMilliseconds : Nat)
    (action : LifecycleAction) : SupervisionState :=
  { self with
    startedAt := some now
    startedAtUnixMs := some unixMilliseconds
    lastOwnedPids := []
    restartAfterTermination := false
    restartCount :=
      if action=.restart then saturatingSucc self.restartCount else self.restartCount }

def deferRestartAfterTermination (self : SupervisionState) : SupervisionState :=
  { self with restartAfterTermination := true }

/-- Whether the process that exits now had run for at least the stability window. -/
def ranStable (self : SupervisionState) (window now : Nat) : Bool :=
  match self.startedAt with
  | some started => window≤now-started
  | none => false

/-- The failure episode's restarts as an exit at `now` finds them. -/
def episodeAt (self : SupervisionState) (window now : Nat) : Nat :=
  if self.ranStable window now then 0 else self.automaticRestartsInEpisode

/-- A restart was deferred to this exit and nothing took the intent back. -/
def deferredRestartPlanned (self : SupervisionState) (hold : OperatorHold) : Bool :=
  self.restartAfterTermination && self.desiredState=.running && hold≠.stopped

def automaticRestartPlanned (self : SupervisionState) (status : ExitStatus)
    (policy : ServiceRestartPolicy) (hold : OperatorHold) (window now : Nat) : Bool :=
  !self.deferredRestartPlanned hold && policy=.onFailure && !status.success &&
    self.desiredState=.running && hold≠.stopped && self.episodeAt window now=0

/-- Records an exit and says whether an automatic and whether a deferred restart is planned. -/
def recordExit (self : SupervisionState) (status : ExitStatus) (policy : ServiceRestartPolicy)
    (hold : OperatorHold) (window now : Nat) (unixMilliseconds : Nat) :
    (Bool × Bool) × SupervisionState :=
  let automatic := self.automaticRestartPlanned status policy hold window now
  let deferred := self.deferredRestartPlanned hold
  ((automatic,deferred),
    { self with
      startedAt := none
      startedAtUnixMs := none
      lastExitCode := status.code
      lastExitAtUnixMs := some unixMilliseconds
      restartAfterTermination := false
      automaticRestartsInEpisode := if automatic then 1 else self.episodeAt window now })

end SupervisionState

end AkuSupervisor

import Mathlib.Tactic.Common

namespace AkuSupervisor

/-- Observable state of one registered service. -/
inductive LifecycleState where
  | stopped
  | starting
  | running
  | stopping
  | terminationPending
  | unhealthy
  | failed
  deriving DecidableEq

/-- Operator-requested steady state. -/
inductive DesiredState where
  | running
  | stopped
  deriving DecidableEq

@[simp] theorem DesiredState.ne_stopped (state : DesiredState) :
    ¬state=.stopped ↔ state=.running := by
  cases state <;> simp

/-- An attempted lifecycle transition that is not legal. -/
structure TransitionError where
  previous : LifecycleState
  requested : LifecycleState
  deriving DecidableEq

namespace LifecycleState

def canTransitionTo : LifecycleState → LifecycleState → Bool
  | .stopped,.starting | .failed,.starting => true
  | .failed,.stopped | .failed,.stopping => true
  | .starting,.running | .starting,.unhealthy | .starting,.failed | .starting,.stopping => true
  | .running,.stopping | .running,.unhealthy | .running,.failed => true
  | .unhealthy,.running | .unhealthy,.stopping | .unhealthy,.failed => true
  | .stopping,.stopped | .stopping,.terminationPending | .stopping,.failed => true
  | .terminationPending,.stopping | .terminationPending,.stopped
  | .terminationPending,.failed => true
  | _,_ => false

/-- Validates one direct lifecycle transition. -/
def transitionTo (self next : LifecycleState) : Except TransitionError LifecycleState :=
  if self.canTransitionTo next then .ok next else .error ⟨self,next⟩

/-- The name the derived debug formatter of the source prints. -/
def debugName : LifecycleState → String
  | .stopped => "Stopped"
  | .starting => "Starting"
  | .running => "Running"
  | .stopping => "Stopping"
  | .terminationPending => "TerminationPending"
  | .unhealthy => "Unhealthy"
  | .failed => "Failed"

end LifecycleState

def TransitionError.display (error : TransitionError) : String :=
  s!"illegal lifecycle transition from {error.previous.debugName} to {error.requested.debugName}"

end AkuSupervisor

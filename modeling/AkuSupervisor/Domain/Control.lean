import Mathlib.Tactic.Common

namespace AkuSupervisor

/-- Authenticated principal category used for policy and audit. -/
inductive Actor where
  | userCli
  | userUi
  | agent
  | codex
  | recovery
  deriving DecidableEq

namespace Actor

def isUser : Actor → Bool
  | .userCli | .userUi => true
  | _ => false

def isAgent : Actor → Bool
  | .agent | .codex => true
  | _ => false

/-- The type and the ID under which an actor is serialized. -/
def identity : Actor → String × String
  | .userCli => ("user","cli")
  | .userUi => ("user","ui")
  | .agent => ("agent","generic")
  | .codex => ("agent","codex")
  | .recovery => ("recovery","supervisor")

theorem ne_recovery_of_isUser (actor : Actor) (h : actor.isUser=true) : actor≠.recovery := by
  cases actor <;> simp_all [isUser]

end Actor

/-- Typed lifecycle mutation. -/
inductive LifecycleAction where
  | start
  | stop
  | restart
  deriving DecidableEq

/-- Explicit operator override that agents cannot clear. -/
inductive OperatorHold where
  | none
  | running
  | stopped
  deriving DecidableEq

/-- The characters of the Unicode White_Space property, which trimming removes. -/
def isWhitespace (c : Char) : Bool :=
  let n := c.toNat
  (9≤n && n≤13) || n==0x20 || n==0x85 || n==0xA0 || n==0x1680 || (0x2000≤n && n≤0x200A) ||
    n==0x2028 || n==0x2029 || n==0x202F || n==0x205F || n==0x3000

def trimChars (cs : List Char) : List Char :=
  ((cs.dropWhile isWhitespace).reverse.dropWhile isWhitespace).reverse

/-- Reason validation failure. -/
inductive ReasonError where
  | empty
  | tooLong (actual maximum : Nat)
  deriving DecidableEq

def ReasonError.display : ReasonError → String
  | .empty => "lifecycle reason must not be empty"
  | .tooLong actual maximum => s!"lifecycle reason is {actual} bytes; maximum is {maximum}"

def Reason.maxBytes : Nat := 500

/-- Validated human-readable reason: not blank, and at most `Reason.maxBytes` bytes long. -/
structure Reason where
  text : String
  nonempty : text≠""
  bounded : text.utf8ByteSize≤Reason.maxBytes
  deriving DecidableEq

/-- Creates a trimmed, bounded lifecycle reason. -/
def Reason.new (value : String) : Except ReasonError Reason :=
  let trimmed := String.ofList (trimChars value.toList)
  if empty : trimmed="" then .error .empty
  else if long : Reason.maxBytes<trimmed.utf8ByteSize then
    .error (.tooLong trimmed.utf8ByteSize Reason.maxBytes)
  else .ok ⟨trimmed,empty,Nat.le_of_not_lt long⟩

/-- Authorization failure for a typed lifecycle action. -/
inductive AuthorizationError where
  | operatorHoldStopped
  | agentStartDisabled
  | recoveryDesiredStateStopped
  deriving DecidableEq

def AuthorizationError.display : AuthorizationError → String
  | .operatorHoldStopped => "a user stop hold blocks agent and recovery start actions"
  | .agentStartDisabled => "agent start and restart actions are disabled"
  | .recoveryDesiredStateStopped =>
    "automatic recovery is suppressed because the desired state is stopped"

/-- Per-service authority policy. -/
structure ControlPolicy where
  operatorHold : OperatorHold
  agentStartAllowed : Bool
  deriving DecidableEq

namespace ControlPolicy

def default : ControlPolicy := ⟨.none,true⟩

/-- Checks whether an authenticated principal may perform an action. -/
def authorize (self : ControlPolicy) (actor : Actor) (action : LifecycleAction) :
    Except AuthorizationError Unit :=
  if action=.start ∨ action=.restart then
    if self.operatorHold=.stopped ∧ actor.isUser=false then .error .operatorHoldStopped
    else if actor.isAgent=true ∧ self.agentStartAllowed=false then .error .agentStartDisabled
    else .ok ()
  else .ok ()

/-- Applies an authorized user action to the durable operator override. -/
def applyUserAction (self : ControlPolicy) (actor : Actor) (action : LifecycleAction) :
    ControlPolicy :=
  if actor.isUser=false then self
  else
    { self with
      operatorHold := match action with
        | .start | .restart => .none
        | .stop => .stopped }

theorem authorize_stop (self : ControlPolicy) (actor : Actor) :
    self.authorize actor .stop=.ok () := by
  simp [authorize]

theorem authorize_user (self : ControlPolicy) (actor : Actor) (action : LifecycleAction)
    (h : actor.isUser=true) : self.authorize actor action=.ok () := by
  cases actor <;> simp_all [authorize,Actor.isUser,Actor.isAgent]

/-- The hold rejects every other principal before any other rule is looked at. -/
theorem authorize_held (self : ControlPolicy) (actor : Actor) (action : LifecycleAction)
    (hold : self.operatorHold=.stopped) (other : actor.isUser=false)
    (launch : action=.start ∨ action=.restart) :
    self.authorize actor action=.error .operatorHoldStopped := by
  simp [authorize,hold,other,launch]

theorem applyUserAction_other (self : ControlPolicy) (actor : Actor) (action : LifecycleAction)
    (h : actor.isUser=false) : self.applyUserAction actor action=self := by
  simp [applyUserAction,h]

theorem applyUserAction_user (self : ControlPolicy) (actor : Actor) (action : LifecycleAction)
    (h : actor.isUser=true) :
    (self.applyUserAction actor action).operatorHold=
      (match action with | .start | .restart => .none | .stop => .stopped) := by
  simp [applyUserAction,h]

end ControlPolicy

end AkuSupervisor

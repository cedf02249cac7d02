import AkuSupervisor.Domain.Control

namespace AkuSupervisor

inductive CooperativeActionStatus where
  | completed
  | failed
  deriving DecidableEq

inductive CooperativeActionStage where
  | requested
  | relayCreated
  | delivered
  | accepted
  | heartbeatObserved
  | completed
  | failed
  deriving DecidableEq

/-- What a running action reports about itself. -/
structure CooperativeActionProgress where
  stage : CooperativeActionStage
  relayActionId : Option String
  expectedBuildId : Option String
  observedBuildId : Option String
  message : String
  deriving DecidableEq

structure CooperativeActionOutcome where
  target : String
  action : String
  status : CooperativeActionStatus
  relayActionId : Option String
  previousBuildId : Option String
  expectedBuildId : Option String
  observedBuildId : Option String
  message : String
  deriving DecidableEq

structure CooperativeActionError where
  category : String
  message : String
  relayActionId : Option String
  observedBuildId : Option String
  deriving DecidableEq

def CooperativeActionError.new (category message : String) : CooperativeActionError :=
  ⟨category,message,none,none⟩

def CooperativeActionError.withContext (error : CooperativeActionError)
    (relayActionId observedBuildId : Option String) : CooperativeActionError :=
  { error with relayActionId,observedBuildId }

end AkuSupervisor

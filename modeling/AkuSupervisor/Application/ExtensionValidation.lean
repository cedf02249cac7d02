import AkuSupervisor.Application.Json

namespace AkuSupervisor

def requiredAuditStages : List String :=
  ["requested","relay_created","delivered","accepted","heartbeat_observed","completed"]

structure ExtensionValidationCheck where
  id : String
  passed : Bool
  expected : JsonValue
  actual : JsonValue
  deriving DecidableEq

structure ExtensionValidationReport where
  schemaVersion : Nat
  command : String
  status : String
  exitCode : Nat
  requestId : String
  actor : JsonValue
  checks : List ExtensionValidationCheck
  operation : JsonValue
  deriving DecidableEq

def ExtensionValidationReport.passed (report : ExtensionValidationReport) : Bool :=
  report.exitCode=0

namespace JsonValue

def texts (items : List String) : JsonValue := .array (items.map .string)

/-- A member, or `null` where there is none. -/
def member (value : JsonValue) (name : String) : JsonValue := (value.get name).getD .null

end JsonValue

/-- The stages that the lines of an audit tell. -/
def auditStages (auditRecords : List JsonValue) : List String :=
  auditRecords.filterMap (·.stringField "status")

def auditIdentityMatches (requestId : String) (actor : JsonValue) (auditRecords : List JsonValue) :
    Bool :=
  auditRecords.all fun record =>
    record.stringField "requestId"=some requestId ∧ record.get "actor"=some actor

def sixStageAudit (auditRecords : List JsonValue) : ExtensionValidationCheck where
  id := "six_stage_audit"
  passed := auditStages auditRecords=requiredAuditStages
  expected := .texts requiredAuditStages
  actual := .texts (auditStages auditRecords)

def cooperativeReloadCompleted (operation : JsonValue) : ExtensionValidationCheck where
  id := "cooperative_reload_completed"
  passed := operation.stringField "status"=some "completed" ∧
    operation.stringField "stage"=some "completed"
  expected := .object [("stage",.string "completed"),("status",.string "completed")]
  actual := .object [("stage",operation.member "stage"),("status",operation.member "status")]

def actorAndRequestIdentity (requestId : String) (actor operation : JsonValue)
    (auditRecords : List JsonValue) : ExtensionValidationCheck where
  id := "actor_and_request_identity"
  passed := operation.stringField "requestId"=some requestId ∧ operation.get "actor"=some actor ∧
    auditRecords.length=requiredAuditStages.length ∧
    auditIdentityMatches requestId actor auditRecords
  expected := .object [("actor",actor),("requestId",.string requestId)]
  actual := .object
    [("auditIdentityMatches",.bool (auditIdentityMatches requestId actor auditRecords)),
      ("auditRecordCount",.number (.posInt auditRecords.length)),
      ("operationActor",operation.member "actor"),
      ("operationRequestId",operation.member "requestId")]

def expectedObservedHeartbeat (operation : JsonValue) : ExtensionValidationCheck where
  id := "expected_observed_heartbeat"
  passed := operation.member "expectedBuildId"≠.null ∧
    operation.member "expectedBuildId"=operation.member "observedBuildId"
  expected := operation.member "expectedBuildId"
  actual := operation.member "observedBuildId"

def noZombieAction (activeOperation : JsonValue) : ExtensionValidationCheck where
  id := "no_zombie_action"
  passed := activeOperation=.null
  expected := .null
  actual := activeOperation

def validateExtensionRelease (requestId : String) (actor operation activeOperation : JsonValue)
    (auditRecords : List JsonValue) : ExtensionValidationReport :=
  let checks := [cooperativeReloadCompleted operation,sixStageAudit auditRecords,
    actorAndRequestIdentity requestId actor operation auditRecords,
    expectedObservedHeartbeat operation,noZombieAction activeOperation]
  let passed := checks.all (·.passed)
  { schemaVersion := 1
    command := "extension_validate"
    status := if passed then "passed" else "failed"
    exitCode := if passed then 0 else 1
    requestId
    actor
    checks
    operation }

end AkuSupervisor

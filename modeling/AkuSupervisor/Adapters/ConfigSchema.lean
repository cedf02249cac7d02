import AkuSupervisor.Adapters.LaunchBudget
import AkuSupervisor.Application.JsonSchema

/-! The published schema of the configuration file, and the document that a configuration is written
as. -/

namespace AkuSupervisor

open JsonSchema

namespace ConfigSchema

/-- An object with these members and no others. -/
def closed (required : List String) (known : List (String × JsonSchema)) : JsonSchema :=
  .all [.kind .object,.properties known .never,.required required]

def string : JsonSchema := .kind .string

def nonEmptyString : JsonSchema := .all [.kind .string,.minLength 1]

def patternString (regex : String) : JsonSchema := .all [.kind .string,.pattern regex]

def atLeast (bound : Int) : JsonSchema := .all [.kind .integer,.minimum bound]

def between (least most : Int) : JsonSchema := .all [.kind .integer,.minimum least,.maximum most]

def constString (text : String) : JsonSchema := .const (.string text)

def enumStrings (texts : List String) : JsonSchema := .enum (texts.map JsonValue.string)

def uniqueArray (item : JsonSchema) : JsonSchema := .all [.kind .array,.items item,.uniqueItems]

def serviceIdPattern : String := "^[a-z0-9-]+$"

def observability : JsonSchema :=
  closed [] [("consoleEvents",.all [.kind .string,enumStrings ["off","lifecycle","verbose"]])]

def chromeExtensionReload : JsonSchema :=
  closed ["relayOrigin","target","timeoutMs","pollIntervalMs"]
    [("relayOrigin",patternString "^http://(?:127\\.0\\.0\\.1|\\[::1\\]):[0-9]+$"),
      ("target",nonEmptyString),("timeoutMs",between 1000 60000),("pollIntervalMs",atLeast 1)]

def cooperativeActions : JsonSchema := closed [] [("chromeExtensionReload",chromeExtensionReload)]

def mcp : JsonSchema :=
  closed [] [("enabled",.kind .boolean),("allowedOrigins",uniqueArray nonEmptyString)]

def control : JsonSchema :=
  closed ["host","port","tokenFile"]
    [("host",constString "127.0.0.1"),("port",between 1 65535),
      ("tokenFile",patternString "^\\.runtime[\\\\/][^/\\\\]+(?:[\\\\/][^/\\\\]+)*$"),("mcp",mcp)]

/-- The members of a health check that is timed. -/
def timed : List (String × JsonSchema) := [("timeoutMs",atLeast 1),("startupDeadlineMs",atLeast 1)]

def health : JsonSchema :=
  .oneOf
    [closed ["type"] [("type",constString "process")],
      closed ["type","host","port","timeoutMs","startupDeadlineMs"]
        ([("type",constString "tcp-connect"),("host",nonEmptyString),("port",between 1 65535)]++
          timed),
      closed ["type","url","expectedStatus","timeoutMs","startupDeadlineMs"]
        ([("type",constString "http-status"),("url",patternString "^http://"),
          ("expectedStatus",between 100 599)]++timed),
      closed ["type","url","timeoutMs","startupDeadlineMs","expect"]
        ([("type",constString "http-json"),("url",patternString "^http://")]++timed++
          [("pathMode",enumStrings ["shallow","json-pointer"]),
            ("expect",.all [.kind .object,.minProperties 1]),("observe",uniqueArray string)])]

def serviceFields : List (String × JsonSchema) :=
  [("label",nonEmptyString),("cwd",nonEmptyString),("command",nonEmptyString),
    ("args",.all [.kind .array,.items string]),
    ("environment",.all [.kind .object,.properties [] string]),
    ("dependsOn",uniqueArray (patternString serviceIdPattern)),("health",health),
    ("ports",uniqueArray (between 1 65535)),
    ("restartPolicy",enumStrings ["manual","on-failure"]),("shutdownGraceMs",atLeast 1)]

def service : JsonSchema :=
  closed ["label","cwd","command","health","restartPolicy","shutdownGraceMs"] serviceFields

def services : JsonSchema :=
  .all [.kind .object,.minProperties 1,.propertyNames (.pattern serviceIdPattern),
    .properties [] service]

/-- The members of the document. -/
def documentFields : List (String × JsonSchema) :=
  [("version",.const (.number (.posInt 2))),("control",control),("observability",observability),
    ("cooperativeActions",cooperativeActions),("services",services)]

/-- `service-config.schema.json`, with every `$ref` replaced by what it names; titles, descriptions
and defaults accept everything. -/
def document : JsonSchema := closed ["version","control","services"] documentFields

end ConfigSchema

/-! The fields of an object stand in the order in which they are written. -/

def JsonValue.natural (n : Nat) : JsonValue := .number (.posInt n)

def JsonValue.strings (texts : List String) : JsonValue := .array (texts.map .string)

def ConsoleEvents.asStr : ConsoleEvents → String
  | .off => "off"
  | .lifecycle => "lifecycle"
  | .verbose => "verbose"

def ChromeExtensionReloadConfig.toJson (reload : ChromeExtensionReloadConfig) : JsonValue :=
  .object [("relayOrigin",.string reload.relayOrigin),("target",.string reload.target),
    ("timeoutMs",.natural reload.timeoutMs),("pollIntervalMs",.natural reload.pollIntervalMs)]

def CooperativeActionsConfig.toJson (actions : CooperativeActionsConfig) : JsonValue :=
  .object [("chromeExtensionReload",
    (actions.chromeExtensionReload.map ChromeExtensionReloadConfig.toJson).getD .null)]

def ControlConfig.toJson (control : ControlConfig) : JsonValue :=
  .object [("host",.string control.host),("port",.natural control.port.toNat),
    ("tokenFile",.string control.tokenFile),
    ("mcp",.object [("enabled",.bool control.mcp.enabled),
      ("allowedOrigins",.strings control.mcp.allowedOrigins)])]

/-- The fields of a TCP check, with its tag. -/
def tcpConnectJson (host : String) (port : UInt16) (timeoutMs startupDeadlineMs : Nat) :
    JsonValue :=
  .object [("type",.string "tcp-connect"),("host",.string host),("port",.natural port.toNat),
    ("timeoutMs",.natural timeoutMs),("startupDeadlineMs",.natural startupDeadlineMs)]

def StartupPrerequisite.toJson : StartupPrerequisite → JsonValue
  | .tcpConnect host port timeoutMs startupDeadlineMs =>
    tcpConnectJson host port timeoutMs startupDeadlineMs

def HealthCheck.toJson : HealthCheck → JsonValue
  | .process => .object [("type",.string "process")]
  | .tcpConnect host port timeoutMs startupDeadlineMs =>
    tcpConnectJson host port timeoutMs startupDeadlineMs
  | .httpStatus url expectedStatus timeoutMs startupDeadlineMs =>
    .object [("type",.string "http-status"),("url",.string url),
      ("expectedStatus",.natural expectedStatus.toNat),("timeoutMs",.natural timeoutMs),
      ("startupDeadlineMs",.natural startupDeadlineMs)]
  | .httpJson url timeoutMs startupDeadlineMs pathMode expect observe =>
    .object ([("type",.string "http-json"),("url",.string url),("timeoutMs",.natural timeoutMs),
      ("startupDeadlineMs",.natural startupDeadlineMs)]++
      (if pathMode=.shallow then [] else [("pathMode",.string "json-pointer")])++
      [("expect",.object expect.toList),("observe",.strings observe)])

def RestartPolicy.asStr : RestartPolicy → String
  | .manual => "manual"
  | .onFailure => "on-failure"

def ServiceConfig.toJson (service : ServiceConfig) : JsonValue :=
  .object [("label",.string service.label),("cwd",.string service.cwd),
    ("command",.string service.command),("args",.strings service.args),
    ("environment",.object (service.environment.toList.map fun (key,value) => (key,.string value))),
    ("dependsOn",.strings service.dependsOn),
    ("startupPrerequisites",.array (service.startupPrerequisites.map StartupPrerequisite.toJson)),
    ("health",service.health.toJson),
    ("ports",.array (service.ports.map fun port => .natural port.toNat)),
    ("restartPolicy",.string service.restartPolicy.asStr),
    ("shutdownGraceMs",.natural service.shutdownGraceMs)]

def SupervisorConfig.toJson (config : SupervisorConfig) : JsonValue :=
  .object [("version",.natural config.version),("control",config.control.toJson),
    ("observability",.object [("consoleEvents",.string config.observability.consoleEvents.asStr)]),
    ("cooperativeActions",config.cooperativeActions.toJson),
    ("services",.object (config.services.toList.map fun (id,service) => (id,service.toJson)))]

namespace ConfigSchema

variable (search : String → String → Bool)

/-- The schema of a service has no startup prerequisites, and every service is written with them. -/
theorem service_rejected (config : ServiceConfig) :
    accepts search service config.toJson=false := by
  by_contra accepted
  have members : accepts search (.properties serviceFields .never) config.toJson=true :=
    accepts_all (Bool.of_not_eq_false accepted) (by simp)
  have written : config.toJson.get "startupPrerequisites"=
      some (.array (config.startupPrerequisites.map StartupPrerequisite.toJson)) := by
    simp [ServiceConfig.toJson,JsonValue.get]
  have known := accepts_get members written
  simp [acceptsKnown,serviceFields,accepts] at known

/-- A configuration that is accepted has a service. -/
theorem exists_service {facts : TextFacts} {config : SupervisorConfig}
    (accepted : SupervisorConfig.validateStructure facts config=.ok ()) :
    ∃id profile,(id,profile)∈config.services.toList := by
  have issues := SupervisorConfig.validateStructure_ok.mp accepted
  unfold SupervisorConfig.structuralContractIssues
    SupervisorConfig.validationIssuesWithFilesystem at issues
  simp only [List.append_eq_nil_iff] at issues
  have nonempty : config.services.isEmpty=false := by
    by_contra none
    have empty := issues.1.1.1.2
    rw [Bool.of_not_eq_false none] at empty
    cases empty
  obtain ⟨entry,mem⟩ := List.exists_mem_of_ne_nil config.services.toList (by
    intro nothing
    have empty := Std.ExtTreeMap.isEmpty_toList (t := config.services)
    rw [nothing,nonempty] at empty
    cases empty)
  exact ⟨entry.1,entry.2,mem⟩

/-- No configuration that is accepted is written as a document that the schema accepts. -/
theorem written_config_rejected (facts : TextFacts) (config : SupervisorConfig)
    (accepted : SupervisorConfig.validateStructure facts config=.ok ()) :
    accepts search document config.toJson=false := by
  by_contra valid
  obtain ⟨id,profile,mem⟩ := exists_service accepted
  have members : accepts search (.properties documentFields .never) config.toJson=true :=
    accepts_all (Bool.of_not_eq_false valid) (by simp)
  have written : config.toJson.get "services"=
      some (.object (config.services.toList.map fun (id,service) => (id,service.toJson))) := by
    simp [SupervisorConfig.toJson,JsonValue.get]
  have known := accepts_get members written
  have found (value : JsonValue) :
      acceptsKnown search documentFields "services" value=some (accepts search services value) := by
    simp [acceptsKnown,documentFields]
  rw [found,Option.getD_some] at known
  have profiles := accepts_all known (show .properties [] service∈_ by simp)
  have one := accepts_member profiles (List.mem_map_of_mem mem)
  rw [acceptsKnown,Option.getD_none,service_rejected] at one
  cases one

/-- Two services without prerequisites, in a schema whose patterns match every text. -/
theorem written_config_rejected_dependents :
    SupervisorConfig.validateStructure fixtureFacts fixtureDependentConfig=.ok () ∧
      accepts (fun _ _ => true) document fixtureDependentConfig.toJson=false := by
  have accepted : SupervisorConfig.validateStructure fixtureFacts fixtureDependentConfig=.ok () := by
    decide +kernel
  exact ⟨accepted,written_config_rejected _ fixtureFacts fixtureDependentConfig accepted⟩

theorem dependents_written_invalid :
    SupervisorConfig.validateStructure fixtureFacts fixtureDependentConfig=.ok () ∧
      accepts (fun _ _ => true) document fixtureDependentConfig.toJson≠true := by
  decide +kernel

end ConfigSchema

end AkuSupervisor

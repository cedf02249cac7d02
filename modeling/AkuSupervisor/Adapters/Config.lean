import AkuSupervisor.Application.ServiceRegistry
import AkuSupervisor.Adapters.ControlHttp

namespace AkuSupervisor

/-- Amount of canonical lifecycle-event detail mirrored to the foreground console. -/
inductive ConsoleEvents where
  | off
  | lifecycle
  | verbose
  deriving DecidableEq

structure ObservabilityConfig where
  consoleEvents : ConsoleEvents
  deriving DecidableEq

structure ChromeExtensionReloadConfig where
  relayOrigin : String
  target : String
  timeoutMs : Nat
  pollIntervalMs : Nat
  deriving DecidableEq

structure CooperativeActionsConfig where
  chromeExtensionReload : Option ChromeExtensionReloadConfig
  deriving DecidableEq

/-- Loopback control-server settings. -/
structure ControlConfig where
  host : String
  port : UInt16
  tokenFile : String
  mcp : McpConfig
  deriving DecidableEq

/-- External loopback readiness that must pass before a service is spawned. -/
inductive StartupPrerequisite where
  | tcpConnect (host : String) (port : UInt16) (timeoutMs startupDeadlineMs : Nat)
  deriving DecidableEq

/-- Supported health-check configuration. -/
inductive HealthCheck where
  | process
  | tcpConnect (host : String) (port : UInt16) (timeoutMs startupDeadlineMs : Nat)
  | httpStatus (url : String) (expectedStatus : UInt16) (timeoutMs startupDeadlineMs : Nat)
  | httpJson (url : String) (timeoutMs startupDeadlineMs : Nat) (pathMode : JsonPathMode)
      (expect : Std.ExtTreeMap String JsonValue) (observe : List String)
  deriving DecidableEq

/-- Bounded automatic-restart behavior. -/
inductive RestartPolicy where
  | manual
  | onFailure
  deriving DecidableEq

/-- One registered service profile. -/
structure ServiceConfig where
  label : String
  cwd : String
  command : String
  args : List String
  environment : Std.ExtTreeMap String String
  dependsOn : List String
  startupPrerequisites : List StartupPrerequisite
  health : HealthCheck
  ports : List UInt16
  restartPolicy : RestartPolicy
  shutdownGraceMs : Nat
  deriving DecidableEq

/-- Versioned configuration. -/
structure SupervisorConfig where
  version : Nat
  control : ControlConfig
  observability : ObservabilityConfig
  cooperativeActions : CooperativeActionsConfig
  services : ServiceMap ServiceConfig
  deriving DecidableEq

def configVersion : Nat := 2

/-- One structured configuration validation issue. -/
structure ConfigIssue where
  path : String
  code : String
  message : String
  deriving DecidableEq

inductive ConfigError where
  | parse (message : String)
  | invalid (issues : List ConfigIssue)
  deriving DecidableEq

def ConfigError.display : ConfigError → String
  | .parse message => s!"configuration parse failed: {message}"
  | .invalid issues =>
    issues.foldl (fun text issue => text++s!"; {issue.path} [{issue.code}] {issue.message}")
      s!"configuration has {issues.length} validation issue(s)"

inductive PathComponent where
  | normal (name : String)
  | other
  deriving DecidableEq

/-- How the platform reads paths and the texts of addresses. -/
structure TextFacts where
  isAbsolute : String → Bool
  components : String → List PathComponent
  parseIpAddr : String → Option IpAddr
  parseSocketAddr : String → Option SocketAddr

/-- What stands at the paths of the file system at one moment. -/
structure PathState where
  isDir : String → Bool
  isFile : String → Bool

namespace SupervisorConfig

variable (facts : TextFacts)

def loopbackHost (host : String) : Bool := (facts.parseIpAddr host).any IpAddr.isLoopback

def loopbackAuthority (authority : String) : Bool :=
  (facts.parseSocketAddr authority).any (·.ip.isLoopback)

/-- One issue if the check finds something, and none otherwise. -/
def issueIf (found : Bool) (path code message : String) : List ConfigIssue :=
  if found then [⟨path,code,message⟩] else []

def isRuntimeTokenPath (path : String) : Bool :=
  !facts.isAbsolute path &&
    match facts.components path with
    | .normal ".runtime"::remaining =>
      !remaining.isEmpty && remaining.all fun component => component≠.other
    | _ => false

def validServiceId (value : String) : Bool :=
  value≠"" && value.toList.all fun c => (c.isLower || c.isDigit) || c = '-'

def validateCooperativeActions (actions : CooperativeActionsConfig) : List ConfigIssue :=
  match actions.chromeExtensionReload with
  | none => []
  | some reload =>
    let validOrigin := (Cut.stripPrefix "http://" reload.relayOrigin).any fun authority =>
      '/'∉authority.toList && loopbackAuthority facts authority
    issueIf (!validOrigin) "cooperativeActions.chromeExtensionReload.relayOrigin"
      "extension_relay_origin_invalid"
      "Chrome extension reload requires a pathless loopback HTTP relay origin with an explicit port"++
    issueIf (trimChars reload.target.toList).isEmpty
      "cooperativeActions.chromeExtensionReload.target" "extension_reload_target_invalid"
      "Chrome extension reload target must not be empty"++
    issueIf (reload.timeoutMs<1000 || 60000 < reload.timeoutMs)
      "cooperativeActions.chromeExtensionReload.timeoutMs" "extension_reload_timeout_invalid"
      "Chrome extension reload timeout must be between 1000 and 60000 milliseconds"++
    issueIf (reload.pollIntervalMs=0 || reload.timeoutMs < reload.pollIntervalMs)
      "cooperativeActions.chromeExtensionReload.pollIntervalMs" "extension_reload_poll_invalid"
      "Chrome extension reload poll interval must be non-zero and no greater than its timeout"

/-- Depth-first search from one service: the services entered before have state 1 while the search
is below them and 2 after it. A service met in state 1 closes a cycle, which ends the search. The
depth never exceeds the number of services, and `fuel` bounds it. -/
def visit (services : ServiceMap ServiceConfig) : Nat → List String → ServiceMap Nat → String →
    Except (List String) (ServiceMap Nat)
  | 0,_,states,_ => .ok states
  | fuel+1,stack,states,serviceId =>
    match states[serviceId]?.getD 0 with
    | 2 => .ok states
    | 1 => .error (stack.drop ((stack.idxOf? serviceId).getD 0)++[serviceId])
    | _ => do
      let dependencies := (services[serviceId]?.map ServiceConfig.dependsOn).getD []
      let states ← dependencies.foldlM (fun states dependency =>
        if dependency∈services then visit services fuel (stack++[serviceId]) states dependency
        else .ok states) (states.insert serviceId 1)
      return states.insert serviceId 2

def dependencyCycle (services : ServiceMap ServiceConfig) : Option (List String) :=
  match services.keys.foldlM (visit services (services.size+1) []) ∅ with
  | .error cycle => some cycle
  | .ok _ => none

/-- The issues of the dependencies of one service, after the `unique` ones. -/
def dependencyIssues (services : ServiceMap ServiceConfig) (serviceId : String) :
    List String → List String → List ConfigIssue
  | _,[] => []
  | unique,dependency::rest =>
    let path := s!"services.{serviceId}.dependsOn"
    (if dependency=serviceId then
        [⟨path,"service_dependency_self",s!"service {serviceId} cannot depend on itself"⟩]
      else issueIf (dependency∉services) path "service_dependency_unknown"
        s!"dependency {dependency} is not a registered service")++
      issueIf (dependency∈unique) path "service_dependency_duplicate"
        s!"dependency {dependency} is declared more than once"++
      dependencyIssues services serviceId (dependency::unique) rest

def validateServiceDependencies (services : ServiceMap ServiceConfig) : List ConfigIssue :=
  services.toList.flatMap (fun service =>
    dependencyIssues services service.1 [] service.2.dependsOn)++
  match dependencyCycle services with
  | none => []
  | some cycle =>
    let path := " -> ".intercalate cycle
    [⟨"services","service_dependency_cycle",s!"service dependency cycle detected: {path}"⟩]

/-- A path of a service that has to be absolute and, where that is asked, to exist. -/
def validatePath (path : String) (exist : Option (String → Bool)) (field notAbsolute notAbsoluteText
    missing missingText : String) : List ConfigIssue :=
  if !facts.isAbsolute path then [⟨field,notAbsolute,notAbsoluteText⟩]
  else issueIf (exist.any fun there => !there path) field missing missingText

def validateDirectory (path serviceField : String) (disk : Option PathState) : List ConfigIssue :=
  validatePath facts path (disk.map PathState.isDir) s!"{serviceField}.cwd" "cwd_not_absolute"
    "working directory must be absolute" "cwd_missing" "working directory does not exist"

def validateExecutable (path serviceField : String) (disk : Option PathState) : List ConfigIssue :=
  validatePath facts path (disk.map PathState.isFile) s!"{serviceField}.command"
    "command_not_absolute" "command must be an absolute executable path" "command_missing"
    "configured executable does not exist"

def validateTransportDeadlines (timeoutMs startupDeadlineMs : Nat) (serviceField : String) :
    List ConfigIssue :=
  issueIf (timeoutMs=0) s!"{serviceField}.health.timeoutMs" "health_timeout_invalid"
    "health timeout must be greater than zero"++
  issueIf (startupDeadlineMs<timeoutMs) s!"{serviceField}.health.startupDeadlineMs"
    "startup_deadline_invalid" "startup deadline must be at least the health timeout"

def validateHttpFields (url : String) (timeoutMs startupDeadlineMs : Nat) (serviceField : String) :
    List ConfigIssue :=
  let authority := (Cut.stripPrefix "http://" url).bind fun remainder =>
    (Cut.split '/' remainder).head?
  issueIf (!authority.any (loopbackAuthority facts)) s!"{serviceField}.health.url"
    "health_url_invalid" "health URL must use an explicit loopback HTTP IP and port"++
  validateTransportDeadlines timeoutMs startupDeadlineMs serviceField

/-- Every tilde of a pointer is followed by a `0` or a `1`. -/
def tildesEscaped : List Char → Bool
  | [] => true
  | ['~'] => false
  | '~'::c::cs => (c = '0' || c = '1') && tildesEscaped cs
  | _::cs => tildesEscaped cs

def validJsonPointer (pointer : String) : Bool :=
  pointer="" || (pointer.toList.head? = some '/' && tildesEscaped pointer.toList)

def isContainer : JsonValue → Bool
  | .array _ | .object _ => true
  | _ => false

def pointerIssues (field : String) (pointers : List String) : List ConfigIssue :=
  pointers.flatMap fun pointer => issueIf (!validJsonPointer pointer) field
    "health_json_pointer_invalid" s!"invalid RFC 6901 JSON Pointer: {pointer}"

def validateHttpJsonExpectations (pathMode : JsonPathMode)
    (expect : Std.ExtTreeMap String JsonValue) (observe : List String) (serviceField : String) :
    List ConfigIssue :=
  issueIf expect.isEmpty s!"{serviceField}.health.expect" "health_expect_empty"
    "HTTP JSON health expectations must not be empty"++
  (match pathMode with
    | .shallow => issueIf (expect.values.any isContainer) s!"{serviceField}.health.expect"
        "health_expect_not_shallow" "shallow HTTP JSON expectations support scalar fields only"
    | .jsonPointer => pointerIssues s!"{serviceField}.health.expect" expect.keys++
        pointerIssues s!"{serviceField}.health.observe" observe)++
  issueIf (pathMode=.shallow && observe.any (·=="")) s!"{serviceField}.health.observe"
    "health_observe_empty" "shallow HTTP JSON observation fields must not be empty"++
  issueIf (¬observe.Nodup) s!"{serviceField}.health.observe" "health_observe_duplicate"
    "HTTP JSON observation fields must be unique"

def validateHealth (health : HealthCheck) (serviceField : String) : List ConfigIssue :=
  match health with
  | .process => []
  | .tcpConnect host port timeoutMs startupDeadlineMs =>
    issueIf (!loopbackHost facts host) s!"{serviceField}.health.host" "health_host_invalid"
      "TCP health host must be an explicit loopback IP"++
    issueIf (port=0) s!"{serviceField}.health.port" "health_port_invalid"
      "TCP health port must be greater than zero"++
    validateTransportDeadlines timeoutMs startupDeadlineMs serviceField
  | .httpStatus url expectedStatus timeoutMs startupDeadlineMs =>
    validateHttpFields facts url timeoutMs startupDeadlineMs serviceField++
    issueIf (expectedStatus<100 || 599<expectedStatus) s!"{serviceField}.health.expectedStatus"
      "health_status_invalid" "expected HTTP status must be between 100 and 599"
  | .httpJson url timeoutMs startupDeadlineMs pathMode expect observe =>
    validateHttpFields facts url timeoutMs startupDeadlineMs serviceField++
    validateHttpJsonExpectations pathMode expect observe serviceField

def validateStartupPrerequisite (prerequisite : StartupPrerequisite) (field : String) :
    List ConfigIssue :=
  match prerequisite with
  | .tcpConnect host port timeoutMs startupDeadlineMs =>
    issueIf (!loopbackHost facts host) s!"{field}.host" "startup_prerequisite_host_invalid"
      "TCP startup prerequisite host must be an explicit loopback IP"++
    issueIf (port=0) s!"{field}.port" "startup_prerequisite_port_invalid"
      "TCP startup prerequisite port must be greater than zero"++
    issueIf (timeoutMs=0) s!"{field}.timeoutMs" "startup_prerequisite_timeout_invalid"
      "startup prerequisite timeout must be greater than zero"++
    issueIf (startupDeadlineMs<timeoutMs) s!"{field}.startupDeadlineMs"
      "startup_prerequisite_deadline_invalid"
      "startup prerequisite deadline must be at least its timeout"

def validateStartupPrerequisites (prerequisites : List StartupPrerequisite)
    (serviceField : String) : List ConfigIssue :=
  issueIf (8<prerequisites.length) s!"{serviceField}.startupPrerequisites"
    "startup_prerequisites_too_many" "at most 8 startup prerequisites are allowed"++
  prerequisites.zipIdx.flatMap fun prerequisite =>
    validateStartupPrerequisite facts prerequisite.1
      s!"{serviceField}.startupPrerequisites.{prerequisite.2}"

/-- Ports and the services that declare them. -/
abbrev ClaimedPorts := List (UInt16 × String)

/-- The issues of the ports of one service after the `declared` ones, and the ports claimed then. -/
def validatePorts (serviceId : String) :
    List UInt16 → List UInt16 → ClaimedPorts → List ConfigIssue × ClaimedPorts
  | _,[],claimed => ([],claimed)
  | declared,port::rest,claimed =>
    let field := s!"services.{serviceId}.ports"
    let (issue,declared,claimed) :=
      if port=0 then
        (some ⟨field,"service_port_invalid","declared ports must be non-zero"⟩,declared,claimed)
      else if port∈declared then
        (some ⟨field,"service_port_duplicate",s!"port {port} is declared more than once"⟩,
          declared,claimed)
      else
        match claimed.lookup port with
        | none => (none,port::declared,(port,serviceId)::claimed)
        | some owner => (some ⟨field,"declared_port_conflict",
            s!"port {port} is already declared by {owner}"⟩,port::declared,claimed)
    let (issues,claimed) := validatePorts serviceId declared rest claimed
    (issue.toList++issues,claimed)

/-- The issues of one service apart from its dependencies, and the ports claimed after it. -/
def serviceIssues (disk : Option PathState) (claimed : ClaimedPorts)
    (serviceId : String) (service : ServiceConfig) : List ConfigIssue × ClaimedPorts :=
  let field := s!"services.{serviceId}"
  let (ports,claimed) := validatePorts serviceId [] service.ports claimed
  (issueIf (!validServiceId serviceId) s!"{field}.id" "service_id_invalid"
      "service ID must contain lowercase ASCII letters, digits, or hyphens"++
    issueIf (trimChars service.label.toList).isEmpty s!"{field}.label" "service_label_empty"
      "service label must not be empty"++
    validateDirectory facts service.cwd field disk++
    validateExecutable facts service.command field disk++
    issueIf (service.shutdownGraceMs=0) s!"{field}.shutdownGraceMs" "shutdown_grace_invalid"
      "shutdown grace must be greater than zero"++
    validateHealth facts service.health field++
    validateStartupPrerequisites facts service.startupPrerequisites field++ports,claimed)

/-- The issues of all services, in the order of their IDs. -/
def servicesIssues (disk : Option PathState) (config : SupervisorConfig) : List ConfigIssue :=
  (config.services.toList.foldl (fun (issues,claimed) service =>
    let (more,claimed) := serviceIssues facts disk claimed service.1 service.2
    (issues++more,claimed)) ([],[(config.control.port,"control")])).1

/-- `disk` is consulted for the paths of the services when they have to exist. -/
def validationIssuesWithFilesystem (disk : Option PathState) (config : SupervisorConfig) :
    List ConfigIssue :=
  issueIf (config.version≠configVersion) "version" "version_unsupported"
    s!"expected version {configVersion}, got {config.version}"++
  issueIf (config.control.host≠"127.0.0.1") "control.host" "control_host_not_loopback"
    "version 0 requires host 127.0.0.1"++
  issueIf (config.control.port=0) "control.port" "control_port_invalid"
    "control port must be non-zero"++
  issueIf (!isRuntimeTokenPath facts config.control.tokenFile) "control.tokenFile"
    "token_path_outside_runtime" "token file must be a relative path beneath .runtime"++
  issueIf config.services.isEmpty "services" "services_empty"
    "at least one registered service is required"++
  validateCooperativeActions facts config.cooperativeActions++
  validateServiceDependencies config.services++
  servicesIssues facts disk config

/-- The structural contract, without checking whether launch files exist. -/
def structuralContractIssues (config : SupervisorConfig) : List ConfigIssue :=
  validationIssuesWithFilesystem facts none config

def validateStructure (config : SupervisorConfig) : Except ConfigError Unit :=
  let issues := structuralContractIssues facts config
  if issues.isEmpty then .ok () else .error (.invalid issues)

theorem validateStructure_ok {facts : TextFacts} {config : SupervisorConfig} :
    validateStructure facts config=.ok () ↔ structuralContractIssues facts config=[] := by
  unfold validateStructure
  cases structuralContractIssues facts config <;> simp

/-- Filesystem readiness issues of one named service. -/
def selectedServiceFilesystemIssues (disk : PathState) (config : SupervisorConfig)
    (serviceId : String) : List ConfigIssue :=
  match config.services[serviceId]? with
  | none => [⟨s!"services.{serviceId}","service_not_found",
      "service is not registered in the configuration"⟩]
  | some service =>
    validateDirectory facts service.cwd s!"services.{serviceId}" (some disk)++
    validateExecutable facts service.command s!"services.{serviceId}" (some disk)

end SupervisorConfig

end AkuSupervisor

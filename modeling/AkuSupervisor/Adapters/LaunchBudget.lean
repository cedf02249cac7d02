import AkuSupervisor.Lib.Worklist
import AkuSupervisor.Adapters.ConfigDependencies
import AkuSupervisor.Adapters.RemoteCommand

namespace AkuSupervisor

def StartupPrerequisite.startupDeadlineMs : StartupPrerequisite → Nat
  | .tcpConnect _ _ _ startupDeadlineMs => startupDeadlineMs

def HealthCheck.startupDeadlineMs : HealthCheck → Nat
  | .process => 0
  | .tcpConnect _ _ _ startupDeadlineMs | .httpStatus _ _ _ startupDeadlineMs
  | .httpJson _ _ startupDeadlineMs _ _ _ => startupDeadlineMs

namespace SupervisorConfig

open U64

/-- The services with all the dependencies they name, registered or not. -/
def namedGraph (services : ServiceMap ServiceConfig) : DependencyGraph String where
  registered := services.keys
  dependencies := fun id => services[id]?.map ServiceConfig.dependsOn
  closed := by
    intro id deps here
    obtain ⟨service,found,-⟩ := Option.map_eq_some_iff.mp here
    exact Std.ExtTreeMap.mem_keys.mpr ((ServiceMap.mem_iff services id).mpr ⟨service,found⟩)

/-- The requested services and all that the worklist finds from them, the last found first. -/
def launchTargets (services : ServiceMap ServiceConfig) (serviceIds : List String) :
    List String := (namedGraph services).sweep [] serviceIds.reverse

/-- The registered ones among them, in the order of their IDs. -/
def relevantServices (services : ServiceMap ServiceConfig) (serviceIds : List String) :
    List String := services.keys.filter (·∈launchTargets services serviceIds)

/-- Checks the launch paths of the requested services and all of their dependencies. -/
def validateLaunchReadiness (facts : TextFacts) (disk : PathState) (config : SupervisorConfig)
    (serviceIds : List String) : Except ConfigError Unit :=
  let issues :=
    issueIf serviceIds.isEmpty "services" "service_ids_empty"
      "at least one service ID is required for launch readiness validation"++
    ((launchTargets config.services serviceIds).reverse.filter (·∉config.services)).map
      (fun serviceId => ⟨s!"services.{serviceId}","service_not_found",
        "service is not registered in the configuration"⟩)++
    (relevantServices config.services serviceIds).flatMap
      (selectedServiceFilesystemIssues facts disk config)
  if issues.isEmpty then .ok () else .error (.invalid issues)

/-- The budget of what a service depends on, with that of its own start. -/
def addStartup (services : ServiceMap ServiceConfig) (serviceId : String) (budget : Nat) : Nat :=
  match services[serviceId]? with
  | none => budget
  | some service =>
    U64.saturatingAdd (service.startupPrerequisites.foldl (fun budget prerequisite =>
      U64.saturatingAdd budget prerequisite.startupDeadlineMs) budget) service.health.startupDeadlineMs

/-- The start-up time of a service and all its dependencies, and the services visited for it. -/
def startupVisit (services : ServiceMap ServiceConfig) (serviceId : String) :
    Option (Nat × List String) :=
  (namedGraph services).tally U64.saturatingAdd (addStartup services) (services.keys.length+1) []
    serviceId

def dependencyStartupBudgetMs (services : ServiceMap ServiceConfig) (serviceId : String) :
    Option Nat := (startupVisit services serviceId).map Prod.fst

def operationMarginMs : Nat := 10000

/-- How long a client waits for the answer to a lifecycle command. -/
def lifecycleResponseTimeout (services : ServiceMap ServiceConfig) : RemoteCommand → Option Nat
  | .mutate action serviceIds _ _ _ => do
    let operationMs ← serviceIds.foldlM (fun total serviceId => do
      let service ← services[serviceId]?
      let startupMs ← dependencyStartupBudgetMs services serviceId
      let serviceBudget := match action with
        | .start => startupMs
        | .stop => service.shutdownGraceMs
        | .restart => U64.saturatingAdd service.shutdownGraceMs startupMs
      return U64.saturatingAdd total serviceBudget) 0
    return U64.saturatingAdd operationMs operationMarginMs
  | _ => none

/-- The start-up time of a service alone. -/
def startupMs (services : ServiceMap ServiceConfig) (serviceId : String) : Nat :=
  addStartup services serviceId 0

section Budget

variable (services : ServiceMap ServiceConfig)

theorem addStartup_eq (serviceId : String) (budget : Nat) (small : budget ≤ top) :
    addStartup services serviceId budget=U64.saturatingAdd budget (startupMs services serviceId) := by
  unfold startupMs addStartup
  cases services[serviceId]? with
  | none => exact (saturatingAdd_zero budget small).symm
  | some service =>
    have deadlines (start : Nat) (small : start ≤ top) := foldl_saturatingAdd
      (service.startupPrerequisites.map StartupPrerequisite.startupDeadlineMs) start small
    simp only [List.foldl_map] at deadlines ⊢
    rw [deadlines budget small,deadlines 0 (Nat.zero_le _),saturatingAdd_assoc,saturatingAdd_assoc,
      ← saturatingAdd_assoc budget 0,saturatingAdd_zero budget small]

theorem edge_namedGraph : (namedGraph services).Edge=Names services := by
  funext id dependency
  simp [DependencyGraph.Edge,namedGraph,Names]

/-- A requested service, or one that a requested service depends on. -/
def Required (services : ServiceMap ServiceConfig) (requested : List String) (id : String) : Prop :=
  ∃serviceId∈requested,Relation.ReflTransGen (Names services) serviceId id

theorem needs_namedGraph (requested : List String) (id : String) :
    (namedGraph services).Needs requested id ↔ Required services requested id := by
  rw [DependencyGraph.Needs,Required,edge_namedGraph]

variable {services}

/-- Where all dependencies are registered, all that registered services require is. -/
theorem Required.registered {requested : List String} {id : String}
    (closed : ∀id dependency,Names services id dependency → dependency∈services)
    (known : ∀id∈requested,id∈services) (required : Required services requested id) :
    id∈services := by
  obtain ⟨serviceId,mem,path⟩ := required
  obtain rfl | ⟨before,-,names⟩ := Relation.ReflTransGen.cases_tail_iff _ serviceId id |>.mp path
  · exact known id mem
  · exact closed before id names

/-- Launch readiness is checked for all that is required, once. -/
theorem relevantServices_required {requested : List String}
    (closed : ∀id dependency,Names services id dependency → dependency∈services)
    (known : ∀id∈requested,id∈services) :
    (relevantServices services requested).Nodup ∧
      ∀id,id∈relevantServices services requested ↔ Required services requested id := by
  obtain ⟨-,found⟩ := DependencyGraph.sweep_needs (g := namedGraph services) requested.reverse
  refine ⟨Std.ExtTreeMap.nodup_keys.filter _,fun id => ?_⟩
  have needed : id∈launchTargets services requested ↔ Required services requested id := by
    rw [launchTargets,found,needs_namedGraph]
    simp [Required]
  rw [relevantServices,List.mem_filter,Std.ExtTreeMap.mem_keys,decide_eq_true_eq,needed]
  exact ⟨And.right,fun required => ⟨required.registered closed known,required⟩⟩

/-- Launch readiness is decided by the launch paths of the relevant services. -/
theorem validateLaunchReadiness_eq {config : SupervisorConfig} {requested : List String}
    (closed : ∀id dependency,Names config.services id dependency → dependency∈config.services)
    (known : ∀id∈requested,id∈config.services) (some_requested : requested≠[]) (facts : TextFacts)
    (disk : PathState) :
    validateLaunchReadiness facts disk config requested=
      (let issues := (relevantServices config.services requested).flatMap
        (selectedServiceFilesystemIssues facts disk config)
      if issues.isEmpty then .ok () else .error (.invalid issues)) := by
  obtain ⟨-,found⟩ :=
    DependencyGraph.sweep_needs (g := namedGraph config.services) requested.reverse
  have all : (launchTargets config.services requested).reverse.filter (·∉config.services)=[] := by
    refine List.filter_eq_nil_iff.mpr fun id mem missing => of_decide_eq_true missing ?_
    have needed := (found id).mp (List.mem_reverse.mp mem)
    rw [needs_namedGraph] at needed
    exact Required.registered closed (fun id mem => known id (List.mem_reverse.mp mem)) needed
  have asked : requested.isEmpty=false := by simpa using some_requested
  rw [validateLaunchReadiness,all,asked]
  rfl

/-- The start-up time of all that a service requires is added up, each service's once. -/
theorem startupVisit_required {serviceId : String}
    (closed : ∀id dependency,Names services id dependency → dependency∈services)
    (known : serviceId∈services) :
    ∃counted,startupVisit services serviceId=
        some (saturatingSum (counted.map (startupMs services)),counted) ∧ counted.Nodup ∧
      ∀id,id∈counted ↔ Required services [serviceId] id := by
  have registered (id : String) (needed : (namedGraph services).Needs [serviceId] id) :
      (namedGraph services).dependencies id≠none := by
    have required := (needs_namedGraph services [serviceId] id).mp needed
    obtain ⟨service,found⟩ := (ServiceMap.mem_iff services id).mp
      (required.registered closed (by simpa using known))
    simp [namedGraph,found]
  let total (ids : List String) : Nat := saturatingSum (ids.map (startupMs services))
  have append (added before : List String) :
      U64.saturatingAdd (total before) (total added)=total (added++before) := by
    simp only [total,saturatingSum_append,List.map_append]
  have node (added : List String) (id : String) :
      addStartup services id (total added)=total (added++[id]) := by
    have small := saturatingSum_le (added.map (startupMs services))
    simp only [total]
    rw [addStartup_eq services id _ small,List.map_append,← saturatingSum_append]
    show U64.saturatingAdd _ _=U64.saturatingAdd (U64.saturatingAdd _ 0) _
    rw [saturatingAdd_assoc,saturatingAdd_comm 0,saturatingAdd_zero _ small,saturatingAdd_comm]
  have empty : total []=0 := rfl
  obtain ⟨counted,visit,nodup,exact⟩ := DependencyGraph.tally_needs empty append node
    (services.keys.length+1) serviceId (Nat.lt_succ_self _) registered
  refine ⟨counted,visit,nodup,fun id => ?_⟩
  rw [exact,needs_namedGraph]

/-- What a command may take at a service: its grace period, its start-up budget, or both. -/
def operationBudgetMs (services : ServiceMap ServiceConfig) (action : ControlAction)
    (serviceId : String) : Nat :=
  let startupMs := (dependencyStartupBudgetMs services serviceId).getD 0
  let graceMs := (services[serviceId]?.map ServiceConfig.shutdownGraceMs).getD 0
  match action with
  | .start => startupMs
  | .stop => graceMs
  | .restart => U64.saturatingAdd graceMs startupMs

theorem foldlM_some {α β : Type} {f : β → α → Option β} {g : β → α → β} {xs : List α}
    (each : ∀b,∀x∈xs,f b x=some (g b x)) (b : β) : xs.foldlM f b=some (xs.foldl g b) := by
  induction xs generalizing b with
  | nil => rfl
  | cons x xs ih =>
    rw [List.foldlM_cons,each b x List.mem_cons_self,Option.bind_eq_bind,Option.bind_some,
      ih fun b x mem => each b x (List.mem_cons_of_mem _ mem)]
    rfl

/-- A client waits for all that a command may take at the services it names, and a margin. -/
theorem lifecycleResponseTimeout_sum {requested : List String}
    (closed : ∀id dependency,Names services id dependency → dependency∈services)
    (known : ∀id∈requested,id∈services) (action : ControlAction) (reason : String)
    (actor : ApiActor) (requestId : Option String) :
    lifecycleResponseTimeout services (.mutate action requested reason actor requestId)=
      some (U64.saturatingAdd
        (saturatingSum (requested.map (operationBudgetMs services action))) operationMarginMs) := by
  have each (serviceId : String) (mem : serviceId∈services) : ∃service startup,
      services[serviceId]?=some service ∧
        dependencyStartupBudgetMs services serviceId=some startup := by
    obtain ⟨service,found⟩ := (ServiceMap.mem_iff services serviceId).mp mem
    obtain ⟨counted,visit,-⟩ := startupVisit_required closed mem
    exact ⟨service,_,found,congrArg (Option.map Prod.fst) visit⟩
  have sum := foldl_saturatingAdd (requested.map (operationBudgetMs services action)) 0
    (Nat.zero_le _)
  rw [List.foldl_map,saturatingAdd_comm,saturatingAdd_zero _ (saturatingSum_le _)] at sum
  rw [lifecycleResponseTimeout,foldlM_some fun total serviceId mem => ?_,← sum]
  · rfl
  · obtain ⟨service,startup,found,budget⟩ := each serviceId (known serviceId mem)
    simp only [operationBudgetMs,found,budget]
    cases action <;> rfl

end Budget

end SupervisorConfig

open SupervisorConfig U64

/-- In a valid configuration, launch readiness is checked for just the services that a start of the
requested ones is planned for: those they require. The budget of each request is the start-up time
of all that its service requires, each service counted once, and a client waits for the budgets of
all that it requests. -/
theorem launch_closures_agree (facts : TextFacts) (config : SupervisorConfig)
    (valid : validateStructure facts config=.ok ()) (snapshots : List ServiceSnapshot)
    (of : SnapshotsOf config.services snapshots) (requested : List String)
    (known : ∀id∈requested,id∈config.services) :
    ((relevantServices config.services requested).Nodup ∧
      ∀id,id∈relevantServices config.services requested ↔
        Required config.services requested id) ∧
    (requested≠[] → ∀disk,validateLaunchReadiness facts disk config requested=
      (let issues := (relevantServices config.services requested).flatMap
        (selectedServiceFilesystemIssues facts disk config)
      if issues.isEmpty then .ok () else .error (.invalid issues))) ∧
    (∃order,stableStartOrder snapshots requested=.ok order ∧ order.Nodup ∧
      ∀id,id∈order ↔ Required config.services requested id) ∧
    (∀serviceId∈requested,∃counted,
      startupVisit config.services serviceId=
        some (saturatingSum (counted.map (startupMs config.services)),counted) ∧
      dependencyStartupBudgetMs config.services serviceId=
        some (saturatingSum (counted.map (startupMs config.services))) ∧
      counted.Nodup ∧ ∀id,id∈counted ↔ Required config.services [serviceId] id) ∧
    ∀action reason actor requestId,
      lifecycleResponseTimeout config.services (.mutate action requested reason actor requestId)=
        some (U64.saturatingAdd (saturatingSum
          (requested.map (operationBudgetMs config.services action))) operationMarginMs) := by
  have clean : validateServiceDependencies config.services=[] := by
    have issues := validateStructure_ok.mp valid
    simp only [structuralContractIssues,validationIssuesWithFilesystem,List.append_eq_nil_iff]
      at issues
    exact issues.1.2
  obtain ⟨closed,-⟩ := validateServiceDependencies_eq_nil clean
  refine ⟨relevantServices_required closed known,
    fun some_requested disk => validateLaunchReadiness_eq closed known some_requested facts disk,
    ?_,fun serviceId mem => ?_,lifecycleResponseTimeout_sum closed known⟩
  · obtain ⟨order,planned⟩ := of.stableStartOrder_total clean requested known
    have plan := stableStartOrder_plan snapshots of.unique requested order planned
    refine ⟨order,planned,plan.nodup,fun id => ?_⟩
    rw [plan.exact,Requires,of.dependsOn,Required]
  · obtain ⟨counted,visit,nodup,exact⟩ := startupVisit_required closed (known serviceId mem)
    exact ⟨counted,visit,congrArg (Option.map Prod.fst) visit,nodup,exact⟩

section Fixture

def fixtureFacts : TextFacts where
  isAbsolute := fun path => path.startsWith "/"
  components := fun path => if path=".runtime/control.token" then
    [.normal ".runtime",.normal "control.token"] else []
  parseIpAddr := fun _ => none
  parseSocketAddr := fun _ => none

def fixtureDependentConfig : SupervisorConfig where
  version := 2
  control := ⟨"127.0.0.1",7710,".runtime/control.token",⟨false,[]⟩⟩
  observability := ⟨.off⟩
  cooperativeActions := ⟨none⟩
  services := fixtureDependents

theorem launch_closures_agree_web :
    (∀id,id∈relevantServices fixtureDependents ["web"] ↔ Required fixtureDependents ["web"] id) ∧
      ∃counted : List String,dependencyStartupBudgetMs fixtureDependents "web"=
          some (saturatingSum (counted.map (startupMs fixtureDependents))) ∧
        counted.Nodup := by
  have valid : validateStructure fixtureFacts fixtureDependentConfig=.ok () ∧
      ∀id∈["web"],id∈fixtureDependents := by
    decide +kernel
  obtain ⟨⟨-,relevant⟩,-,-,counted,-⟩ := launch_closures_agree fixtureFacts fixtureDependentConfig
    valid.1 fixtureDependentSnapshots snapshotsOf_fixtureDependents ["web"] valid.2
  obtain ⟨ids,-,budget,nodup,-⟩ := counted "web" (by simp)
  exact ⟨relevant,ids,budget,nodup⟩

end Fixture

end AkuSupervisor

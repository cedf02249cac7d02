import AkuSupervisor.Adapters.Config
import AkuSupervisor.Application.RegistryRun

namespace AkuSupervisor

def StartupPrerequisite.toSpec : StartupPrerequisite → TransportCheck
  | .tcpConnect host port timeoutMs startupDeadlineMs =>
    ⟨.tcpConnect host port (fromMillis timeoutMs) (fromMillis startupDeadlineMs),rfl⟩

def HealthCheck.toSpec : HealthCheck → HealthCheckSpec
  | .process => .process
  | .tcpConnect host port timeoutMs startupDeadlineMs =>
    .tcpConnect host port (fromMillis timeoutMs) (fromMillis startupDeadlineMs)
  | .httpStatus url expectedStatus timeoutMs startupDeadlineMs =>
    .httpStatus url expectedStatus (fromMillis timeoutMs) (fromMillis startupDeadlineMs)
  | .httpJson url timeoutMs startupDeadlineMs pathMode expect observe =>
    .httpJson url (fromMillis timeoutMs) (fromMillis startupDeadlineMs) pathMode expect.toList
      observe

def RestartPolicy.toSpec : RestartPolicy → ServiceRestartPolicy
  | .manual => .manual
  | .onFailure => .onFailure

namespace ServiceConfig

def launchSpec (self : ServiceConfig) : LaunchSpec where
  executable := self.command
  args := self.args
  cwd := self.cwd
  environment := self.environment.toList
  stdoutLog := none
  stderrLog := none

/-- The registration of a service whose output goes to files of its own; `logFile` gives the path of
a file name. -/
def registration (self : ServiceConfig) (logFile : String → String) (serviceId : String) :
    ServiceRegistration where
  id := serviceId
  label := self.label
  launch := { self.launchSpec with
    stdoutLog := some (logFile s!"{serviceId}.stdout.log")
    stderrLog := some (logFile s!"{serviceId}.stderr.log") }
  dependencies := self.dependsOn
  startupPrerequisites := self.startupPrerequisites.map StartupPrerequisite.toSpec
  health := self.health.toSpec
  restartPolicy := self.restartPolicy.toSpec
  ports := self.ports
  shutdownGrace := fromMillis self.shutdownGraceMs

end ServiceConfig

/-- The registrations of all services, in the order of their IDs. -/
def SupervisorConfig.serviceRegistrationsWithLogs (self : SupervisorConfig)
    (logFile : String → String) : List ServiceRegistration :=
  self.services.toList.map fun service => service.2.registration logFile service.1

namespace ServiceRegistry

open Std

variable {P : Type} {logFile : String → String} {config : SupervisorConfig}

/-- The registered services are those of the configuration, as it describes them. -/
def Holds (logFile : String → String) (config : SupervisorConfig) (r : ServiceRegistry P) : Prop :=
  ∀id : String,r.services[id]?.map ServiceEntry.registration=
    config.services[id]?.map fun service => service.registration logFile id

/-- A configuration gives one registration under each of its service IDs. -/
theorem collect_config {desired : ServiceMap ServiceRegistration}
    (collected : collect (config.serviceRegistrationsWithLogs logFile)=.ok desired) (id : String) :
    desired[id]?=config.services[id]?.map fun service => service.registration logFile id := by
  have wanted (registration : ServiceRegistration) := collect_ok _ desired collected id registration
  refine Option.ext fun registration => ?_
  rw [wanted]
  simp only [SupervisorConfig.serviceRegistrationsWithLogs,List.mem_map,Prod.exists,
    ExtTreeMap.mem_toList_iff_getElem?_eq_some,Option.map_eq_some_iff]
  constructor
  · intro h
    obtain ⟨⟨id',service,here,rfl⟩,rfl⟩ := h
    exact ⟨service,here,rfl⟩
  · intro h
    obtain ⟨service,here,rfl⟩ := h
    exact ⟨⟨id,service,here,rfl⟩,rfl⟩

theorem holds_new {window : Nat} {r : ServiceRegistry P}
    (built : ServiceRegistry.new (config.serviceRegistrationsWithLogs logFile) window=.ok r) :
    r.Holds logFile config := by
  unfold ServiceRegistry.new at built
  cases collected : collect (config.serviceRegistrationsWithLogs logFile) with
  | error id => simp [collected] at built
  | ok services =>
    simp only [collected,Except.ok.injEq] at built
    subst built
    intro id
    rw [← collect_config collected id]
    simp [ExtTreeMap.getElem?_map,Function.comp_def,ServiceEntry.new]

/-- A reconciliation that is not refused ends with the registrations it was given. -/
theorem holds_reconciled {self after : ServiceRegistry P} {outcome : RegistryReconcileOutcome}
    (run : (reconcileRegistrations (config.serviceRegistrationsWithLogs logFile)).run self=
      .ok outcome after) : after.Holds logFile config := by
  rcases reconcileRegistrations_cases self (config.serviceRegistrationsWithLogs logFile) with
    ⟨error,refused⟩|⟨desired,outcome',after',collected,run',h⟩
  · rw [run] at refused
    cases refused
  · rw [run] at run'
    cases run'
    intro id
    rw [h.lookup,← collect_config collected id]
    cases desired[id]? with
    | none => rfl
    | some registration => simp [retained_registration]

theorem unchanged_refused {self after : ServiceRegistry P} {error : RegistryReconcileError}
    {registrations : List ServiceRegistration}
    (run : (reconcileRegistrations registrations).run self=.error error after) : after=self := by
  rcases run_reconcileRegistrations self registrations with
    ⟨error',refused⟩|⟨desired,-,-,applied⟩
  · rw [run] at refused
    cases refused
    rfl
  · rw [run] at applied
    cases applied

theorem sound_reconciled {self after : ServiceRegistry P} {outcome : RegistryReconcileOutcome}
    {registrations : List ServiceRegistration} (sound : self.Sound)
    (run : (reconcileRegistrations registrations).run self=.ok outcome after) : after.Sound := by
  have kept := RegistryOp.sound_step (.reconcile registrations : RegistryOp P Unit Unit) self sound
  rw [RegistryOp.step,RegistryOp.apply,run] at kept
  exact kept

end ServiceRegistry

namespace RegistryOp

open ServiceRegistry

variable {P E Q : Type}

/-- Requests and refreshes keep the registration of each service. -/
theorem registrations_step (op : RegistryOp P E Q) (r : ServiceRegistry P) (sound : r.Sound)
    (other : ∀registrations,op≠.reconcile registrations) (id : String) :
    (op.step r).services[id]?.map ServiceEntry.registration=
      r.services[id]?.map ServiceEntry.registration := by
  have turn := op.turn r sound id
  generalize (op.step r).services[id]?=after at turn ⊢
  generalize r.services[id]?=before at turn ⊢
  generalize op.calls id r=calls at turn
  generalize (if op.target=some id then op.exit r else none)=exit at turn
  cases turn with
  | absent => rfl
  | elsewhere => rfl
  | requested platform action actor reason e e' calls effect =>
    simp [effect.registration]
  | watched platform e e' calls quiet looked => simp [quiet.registration]
  | exited => rfl
  | replaced registrations => exact absurd rfl (other registrations)
  | dropped registrations => exact absurd rfl (other registrations)

end RegistryOp

end AkuSupervisor

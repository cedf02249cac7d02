import AkuSupervisor.Lib.Run
import AkuSupervisor.Adapters.ConfigRegistrations
import AkuSupervisor.Adapters.LaunchBudget

namespace AkuSupervisor

/-- The relationship between the configuration on disk and the live registry. -/
inductive RegistryReconciliationState where
  | current
  | pending
  | deferred
  | rejected
  deriving DecidableEq

structure RegistryReconciliationSnapshot where
  state : RegistryReconciliationState
  activeRevision : String
  diskRevision : Option String
  attemptedAtUnixMs : Option Nat
  appliedAtUnixMs : Option Nat
  detail : Option String
  added : List String
  updated : List String
  removed : List String
  deriving DecidableEq

namespace RegistryReconciliationSnapshot

def new (initialRevision : String) (now : Nat) : RegistryReconciliationSnapshot :=
  ⟨.current,initialRevision,some initialRevision,some now,some now,none,[],[],[]⟩

def boundedDetail (detail : String) : String := String.ofList (detail.toList.take 512)

def clearChanges (self : RegistryReconciliationSnapshot) : RegistryReconciliationSnapshot :=
  { self with
    added := []
    updated := []
    removed := [] }

def pending (self : RegistryReconciliationSnapshot) (diskRevision : String) (now : Nat) :
    RegistryReconciliationSnapshot :=
  clearChanges { self with
    state := .pending
    diskRevision := some diskRevision
    attemptedAtUnixMs := some now
    detail := none }

def applied (self : RegistryReconciliationSnapshot) (revision : String)
    (outcome : RegistryReconcileOutcome) (now : Nat) : RegistryReconciliationSnapshot :=
  { self with
    state := .current
    activeRevision := revision
    diskRevision := some revision
    attemptedAtUnixMs := some now
    appliedAtUnixMs := some now
    detail := none
    added := outcome.added
    updated := outcome.updated
    removed := outcome.removed }

def failed (self : RegistryReconciliationSnapshot) (state : RegistryReconciliationState)
    (diskRevision : Option String) (detail : String) (now : Nat) :
    RegistryReconciliationSnapshot :=
  clearChanges { self with
    state
    diskRevision
    attemptedAtUnixMs := some now
    detail := some (boundedDetail detail) }

def deferred (self : RegistryReconciliationSnapshot) (diskRevision : Option String)
    (detail : String) (now : Nat) : RegistryReconciliationSnapshot :=
  self.failed .deferred diskRevision detail now

def rejected (self : RegistryReconciliationSnapshot) (diskRevision : Option String)
    (detail : String) (now : Nat) : RegistryReconciliationSnapshot :=
  self.failed .rejected diskRevision detail now

end RegistryReconciliationSnapshot

def RegistryReconcileError.display : RegistryReconcileError → String
  | .duplicateServiceId serviceId => s!"duplicate registered service ID: {serviceId}"
  | .serviceActive serviceId =>
    s!"service must be stopped before its registration can change: {serviceId}"

/-- What the monitor reads a configuration file with: its path, the JSON reader, the platform and
the fingerprint of a configuration. `logFile` gives the paths of the output files. -/
structure ConfigReader where
  configPath : String
  parseJson : String → Except ConfigError SupervisorConfig
  facts : TextFacts
  fingerprint : SupervisorConfig → Except String String
  logFile : String → String

/-- The configuration of a file content, with its revision. -/
def ConfigReader.read (self : ConfigReader) (content : Except String String) :
    Except String (SupervisorConfig × String) := do
  let source ← content.mapError fun error => s!"cannot read {self.configPath}: {error}"
  let config ← (self.parseJson source).mapError ConfigError.display
  (SupervisorConfig.validateStructure self.facts config).mapError ConfigError.display
  let fingerprint ← (self.fingerprint config).mapError fun message =>
    s!"configuration fingerprint failed: {message}"
  return (config,fingerprint)

/-- The revision of a file content, if it is a valid configuration. -/
def ConfigReader.revision (self : ConfigReader) (content : Except String String) : Option String :=
  (self.read content).toOption.map Prod.snd

def sameForegroundContract (left right : SupervisorConfig) : Bool :=
  left.version=right.version && left.control=right.control &&
    left.observability=right.observability && left.cooperativeActions=right.cooperativeActions

def foregroundContractChanged : String :=
  "non-service configuration changed; control, observability, cooperative actions, and version "++
    "require an explicit Supervisor restart"

/-- Where the monitor is in a poll: between polls, with a changed configuration that is about to be
applied, or with one that the registry has taken over. -/
inductive MonitorPhase where
  | waiting
  | changed (config : SupervisorConfig) (fingerprint : String)
  | reconciled (config : SupervisorConfig) (fingerprint : String)
      (outcome : RegistryReconcileOutcome)
  deriving DecidableEq

/-- The monitor with what it updates. -/
structure ConfigMonitor (P : Type) where
  registry : ServiceRegistry P
  logServiceIds : List String
  auditedFingerprint : String
  status : RegistryReconciliationSnapshot
  activeConfig : SupervisorConfig
  activeFingerprint : String
  phase : MonitorPhase

/-- What happens to the registry and its status: the parts of a poll in their order, each with the
time it reports, and between them what other threads ask of the registry. -/
inductive MonitorMove (P E Q : Type) where
  | poll (content : Except String String) (now : Nat)
  | apply (now : Nat)
  | takeOver (now : Nat)
  | request (platform : Platform P E Q) (action : LifecycleAction) (serviceId : String)
      (actor : Actor) (reason : Reason)
  | refresh (platform : Platform P E Q) (serviceId : String)

namespace ConfigMonitor

open ServiceRegistry

variable {P E Q : Type} (reader : ConfigReader)

/-- Reads the file, and reports a failure, an unchanged revision, or that a change is pending. -/
def poll (self : ConfigMonitor P) (content : Except String String) (now : Nat) :
    ConfigMonitor P :=
  match reader.read content with
  | .error message => { self with status := self.status.rejected none message now }
  | .ok (config,fingerprint) =>
    if fingerprint=self.activeFingerprint then
      { self with
        status := if self.status.state≠.current then
          self.status.applied fingerprint ⟨[],[],[]⟩ now else self.status }
    else
      { self with
        status := self.status.pending fingerprint now
        phase := .changed config fingerprint }

/-- Hands the changed configuration to the registry, if only its services changed. -/
def apply (self : ConfigMonitor P) (config : SupervisorConfig) (fingerprint : String)
    (now : Nat) : ConfigMonitor P :=
  if sameForegroundContract self.activeConfig config=false then
    { self with
      status := self.status.rejected (some fingerprint) foregroundContractChanged now
      phase := .waiting }
  else
    match (reconcileRegistrations (config.serviceRegistrationsWithLogs reader.logFile)).run
        self.registry with
    | .error error registry =>
      { self with
        registry
        status := self.status.deferred (some fingerprint) error.display now
        phase := .waiting }
    | .ok outcome registry =>
      { self with
        registry
        logServiceIds := config.services.keys
        auditedFingerprint := fingerprint
        phase := .reconciled config fingerprint outcome }

/-- Makes the applied configuration the active one. -/
def takeOver (self : ConfigMonitor P) (config : SupervisorConfig) (fingerprint : String)
    (outcome : RegistryReconcileOutcome) (now : Nat) : ConfigMonitor P :=
  { self with
    status := self.status.applied fingerprint outcome now
    activeConfig := config
    activeFingerprint := fingerprint
    phase := .waiting }

def step (move : MonitorMove P E Q) (self : ConfigMonitor P) : ConfigMonitor P :=
  match move with
  | .poll content now =>
    match self.phase with
    | .waiting => self.poll reader content now
    | _ => self
  | .apply now =>
    match self.phase with
    | .changed config fingerprint => self.apply reader config fingerprint now
    | _ => self
  | .takeOver now =>
    match self.phase with
    | .reconciled config fingerprint outcome => self.takeOver config fingerprint outcome now
    | _ => self
  | .request platform action serviceId actor reason =>
    { self with
      registry := (RegistryOp.request platform action serviceId actor reason).step self.registry }
  | .refresh platform serviceId =>
    { self with registry := (RegistryOp.refresh platform serviceId).step self.registry }

/-- The monitor of a registry that has just been built from a configuration. -/
def start (config : SupervisorConfig) (fingerprint : String) (registry : ServiceRegistry P)
    (now : Nat) : ConfigMonitor P where
  registry
  logServiceIds := config.services.keys
  auditedFingerprint := fingerprint
  status := .new fingerprint now
  activeConfig := config
  activeFingerprint := fingerprint
  phase := .waiting

/-- What the file last held: at a poll, which the monitor makes only after the one before it has
ended, the revision of its content, and `last` at every other move. -/
def polled (move : MonitorMove P E Q) (self : ConfigMonitor P) (last : Option String) :
    Option String :=
  match move with
  | .poll content _ => if self.phase=.waiting then reader.revision content else last
  | _ => last

/-- A step of the monitor beside the revision that the file had at the last poll. -/
def observe (move : MonitorMove P E Q) (s : ConfigMonitor P × Option String) :
    ConfigMonitor P × Option String :=
  (step reader move s.1,polled reader move s.1 s.2)

/-- The configuration that the registry was given last, with its revision. -/
def held (self : ConfigMonitor P) : SupervisorConfig × String :=
  match self.phase with
  | .reconciled config fingerprint _ => (config,fingerprint)
  | _ => (self.activeConfig,self.activeFingerprint)

/-- What holds after every part of a poll, where `last` is the revision at the last poll. -/
structure Truthful (s : ConfigMonitor P) (last : Option String) : Prop where
  sound : s.registry.Sound
  revision : s.status.activeRevision=s.activeFingerprint
  holds : s.registry.Holds reader.logFile s.held.1
  stamped : reader.fingerprint s.held.1=.ok s.held.2
  changed : ∀config fingerprint,s.phase=.changed config fingerprint →
    reader.fingerprint config=.ok fingerprint ∧ last=some fingerprint
  reconciled : ∀config fingerprint outcome,s.phase=.reconciled config fingerprint outcome →
    last=some fingerprint
  settled : s.status.state=.current → s.phase=.waiting ∧
    s.status.diskRevision=some s.activeFingerprint ∧
      last=some s.activeFingerprint

theorem read_stamped {content : Except String String} {config : SupervisorConfig}
    {fingerprint : String} (read : reader.read content=.ok (config,fingerprint)) :
    reader.fingerprint config=.ok fingerprint := by
  unfold ConfigReader.read at read
  cases content with
  | error error => cases read
  | ok source =>
    cases parsed : reader.parseJson source with
    | error error => simp [parsed,Except.mapError,bind,Except.bind] at read
    | ok found =>
      cases valid : SupervisorConfig.validateStructure reader.facts found with
      | error error => simp [parsed,valid,Except.mapError,bind,Except.bind] at read
      | ok _ =>
        cases stamped : reader.fingerprint found with
        | error error => simp [parsed,valid,stamped,Except.mapError,bind,Except.bind] at read
        | ok revision =>
          simp only [parsed,valid,stamped,Except.mapError,bind,Except.bind,pure,Except.pure,
            Except.ok.injEq,Prod.mk.injEq] at read
          obtain ⟨rfl,rfl⟩ := read
          exact stamped

variable {reader}

theorem final_observe (moves : List (MonitorMove P E Q)) (s : ConfigMonitor P × Option String) :
    (Run.final (observe reader) moves s).1=Run.final (step reader) moves s.1 := by
  induction moves generalizing s with
  | nil => rfl
  | cons move moves ih => exact ih (observe reader move s)

variable {last : Option String}

/-- Between polls only the active configuration matters. -/
theorem truthful_waiting {s : ConfigMonitor P} (waiting : s.phase=.waiting)
    (sound : s.registry.Sound) (revision : s.status.activeRevision=s.activeFingerprint)
    (holds : s.registry.Holds reader.logFile s.activeConfig)
    (stamped : reader.fingerprint s.activeConfig=.ok s.activeFingerprint)
    (settled : s.status.state=.current → s.status.diskRevision=some s.activeFingerprint ∧
      last=some s.activeFingerprint) : s.Truthful reader last := by
  have kept : s.held=(s.activeConfig,s.activeFingerprint) := by rw [held,waiting]
  refine ⟨sound,revision,by rw [kept]; exact holds,by rw [kept]; exact stamped,?_,?_,
    fun current => ⟨waiting,settled current⟩⟩
  · intro config fingerprint eq
    rw [waiting] at eq
    cases eq
  · intro config fingerprint outcome eq
    rw [waiting] at eq
    cases eq

theorem Truthful.poll {s : ConfigMonitor P} (h : s.Truthful reader last)
    (waiting : s.phase=.waiting) (content : Except String String) (now : Nat) :
    (s.poll reader content now).Truthful reader (reader.revision content) := by
  have kept : s.held=(s.activeConfig,s.activeFingerprint) := by rw [held,waiting]
  have holds := h.holds
  have stamped := h.stamped
  rw [kept] at holds stamped
  unfold ConfigMonitor.poll
  cases read : reader.read content with
  | error message =>
    exact truthful_waiting waiting h.sound h.revision holds stamped fun current => by cases current
  | ok found =>
    obtain ⟨config,fingerprint⟩ := found
    have found : reader.revision content=some fingerprint := by
      rw [ConfigReader.revision,read]
      rfl
    by_cases same : fingerprint=s.activeFingerprint
    · subst same
      simp only [if_true]
      by_cases current : s.status.state=.current
      · rw [if_neg (by simpa using current)]
        obtain ⟨-,disk,-⟩ := h.settled current
        exact truthful_waiting waiting h.sound h.revision holds stamped fun _ => ⟨disk,found⟩
      · rw [if_pos (by simpa using current)]
        exact truthful_waiting waiting h.sound rfl holds stamped fun _ => ⟨rfl,found⟩
    · simp only [same,if_false]
      refine ⟨h.sound,h.revision,holds,stamped,fun config' fingerprint' eq => ?_,
        fun config' fingerprint' outcome eq => (by cases eq),fun current => (by cases current)⟩
      cases eq
      exact ⟨read_stamped reader read,found⟩

theorem Truthful.apply {s : ConfigMonitor P} (h : s.Truthful reader last) {config : SupervisorConfig}
    {fingerprint : String} (changed : s.phase=.changed config fingerprint) (now : Nat) :
    (s.apply reader config fingerprint now).Truthful reader last := by
  have kept : s.held=(s.activeConfig,s.activeFingerprint) := by rw [held,changed]
  have holds := h.holds
  have stamped := h.stamped
  rw [kept] at holds stamped
  unfold ConfigMonitor.apply
  split_ifs with contract
  · exact truthful_waiting rfl h.sound h.revision holds stamped fun current => by cases current
  · cases run : (reconcileRegistrations
        (config.serviceRegistrationsWithLogs reader.logFile)).run s.registry with
    | error error after =>
      have same := unchanged_refused run
      subst same
      exact truthful_waiting rfl h.sound h.revision holds stamped fun current => by cases current
    | ok outcome after =>
      obtain ⟨revision,disk⟩ := h.changed config fingerprint changed
      refine ⟨sound_reconciled h.sound run,h.revision,holds_reconciled run,revision,
        fun config' fingerprint' eq => (by cases eq),fun config' fingerprint' outcome' eq => ?_,
        fun current => ?_⟩
      · cases eq
        exact disk
      · obtain ⟨waiting,-⟩ := h.settled current
        rw [changed] at waiting
        cases waiting

theorem Truthful.takeOver {s : ConfigMonitor P} (h : s.Truthful reader last)
    {config : SupervisorConfig} {fingerprint : String} {outcome : RegistryReconcileOutcome}
    (reconciled : s.phase=.reconciled config fingerprint outcome) (now : Nat) :
    (s.takeOver config fingerprint outcome now).Truthful reader last := by
  have kept : s.held=(config,fingerprint) := by rw [held,reconciled]
  have holds := h.holds
  have stamped := h.stamped
  rw [kept] at holds stamped
  have disk := h.reconciled config fingerprint outcome reconciled
  exact truthful_waiting rfl h.sound rfl holds stamped fun _ => ⟨rfl,disk⟩

/-- What other threads ask of the registry changes no registration. -/
theorem Truthful.serve {s : ConfigMonitor P} (h : s.Truthful reader last) (op : RegistryOp P E Q)
    (other : ∀registrations,op≠.reconcile registrations) :
    ({ s with registry := op.step s.registry } : ConfigMonitor P).Truthful reader last := by
  refine ⟨RegistryOp.sound_step op s.registry h.sound,h.revision,fun id => ?_,h.stamped,h.changed,
    h.reconciled,h.settled⟩
  rw [RegistryOp.registrations_step op s.registry h.sound other id]
  exact h.holds id

theorem Truthful.step {s : ConfigMonitor P} (h : s.Truthful reader last)
    (move : MonitorMove P E Q) :
    (ConfigMonitor.step reader move s).Truthful reader (polled reader move s last) := by
  cases move with
  | poll content now =>
    cases phase : s.phase with
    | waiting => simpa [ConfigMonitor.step,polled,phase] using h.poll phase content now
    | changed config fingerprint => simpa [ConfigMonitor.step,polled,phase] using h
    | reconciled config fingerprint outcome => simpa [ConfigMonitor.step,polled,phase] using h
  | apply now =>
    cases phase : s.phase with
    | waiting => simpa [ConfigMonitor.step,polled,phase] using h
    | changed config fingerprint => simpa [ConfigMonitor.step,polled,phase] using h.apply phase now
    | reconciled config fingerprint outcome => simpa [ConfigMonitor.step,polled,phase] using h
  | takeOver now =>
    cases phase : s.phase with
    | waiting => simpa [ConfigMonitor.step,polled,phase] using h
    | changed config fingerprint => simpa [ConfigMonitor.step,polled,phase] using h
    | reconciled config fingerprint outcome =>
      simpa [ConfigMonitor.step,polled,phase] using h.takeOver phase now
  | request platform action serviceId actor reason => exact h.serve _ fun registrations eq => by cases eq
  | refresh platform serviceId => exact h.serve _ fun registrations eq => by cases eq

/-- The active revision changes only where a poll ends that has changed the registry. -/
theorem Truthful.activeRevision_step {s : ConfigMonitor P} (h : s.Truthful reader last)
    (move : MonitorMove P E Q)
    (changed : (ConfigMonitor.step reader move s).status.activeRevision≠s.status.activeRevision) :
    ∃config fingerprint outcome,s.phase=.reconciled config fingerprint outcome ∧
      (ConfigMonitor.step reader move s).status.activeRevision=fingerprint := by
  cases move with
  | poll content now =>
    exfalso
    apply changed
    cases phase : s.phase with
    | changed config fingerprint => simp [ConfigMonitor.step,phase]
    | reconciled config fingerprint outcome => simp [ConfigMonitor.step,phase]
    | waiting =>
      simp only [ConfigMonitor.step,phase]
      rw [(h.poll phase content now).revision,h.revision]
      unfold ConfigMonitor.poll
      split
      · rfl
      · split_ifs <;> rfl
  | apply now =>
    exfalso
    apply changed
    cases phase : s.phase with
    | waiting => simp [ConfigMonitor.step,phase]
    | reconciled config fingerprint outcome => simp [ConfigMonitor.step,phase]
    | changed config fingerprint =>
      simp only [ConfigMonitor.step,phase]
      rw [(h.apply phase now).revision,h.revision]
      unfold ConfigMonitor.apply
      split_ifs
      · rfl
      · split <;> rfl
  | takeOver now =>
    cases phase : s.phase with
    | waiting => exact absurd (by simp [ConfigMonitor.step,phase]) changed
    | changed config fingerprint => exact absurd (by simp [ConfigMonitor.step,phase]) changed
    | reconciled config fingerprint outcome =>
      exact ⟨config,fingerprint,outcome,rfl,by simp [ConfigMonitor.step,phase,
        ConfigMonitor.takeOver,RegistryReconciliationSnapshot.applied]⟩
  | request platform action serviceId actor reason => exact absurd rfl changed
  | refresh platform serviceId => exact absurd rfl changed

theorem truthful_start {config : SupervisorConfig} {fingerprint : String} {window now : Nat}
    {registry : ServiceRegistry P} (stamped : reader.fingerprint config=.ok fingerprint)
    (built : ServiceRegistry.new (config.serviceRegistrationsWithLogs reader.logFile) window=
      .ok registry) :
    (start config fingerprint registry now).Truthful reader (some fingerprint) :=
  truthful_waiting rfl (RegistryOp.sound_new _ window registry built) rfl (holds_new built) stamped
    fun _ => ⟨rfl,rfl⟩

end ConfigMonitor

section Fixture

open ConfigMonitor SupervisorConfig

def fixtureReader : ConfigReader where
  configPath := "config/services.json"
  parseJson := fun source =>
    if source="valid" then .ok fixtureDependentConfig else .error (.parse "expected value")
  facts := fixtureFacts
  fingerprint := fun config => if config=fixtureDependentConfig then .ok "first" else .ok "second"
  logFile := fun name => s!".runtime/services/{name}"

/-- The file is gone at one poll, and as it was at the next. -/
def fixturePolls : List (MonitorMove Unit Unit Unit) :=
  [.poll (.error "not found") 1,.poll (.ok "valid") 2]

theorem read_valid : fixtureReader.read (.ok "valid")=.ok (fixtureDependentConfig,"first") := by
  have valid : validateStructure fixtureFacts fixtureDependentConfig=.ok () := by decide +kernel
  simp [ConfigReader.read,fixtureReader,valid,Except.mapError,bind,Except.bind,pure,Except.pure]

end Fixture

end AkuSupervisor

import AkuSupervisor.Application.ServiceEntry

namespace AkuSupervisor

/-- Topology changes applied without replacing retained service entries. -/
structure RegistryReconcileOutcome where
  added : List String
  updated : List String
  removed : List String
  deriving DecidableEq

/-- Failure while constructing the registered-service map. -/
inductive RegistryBuildError where
  | duplicateServiceId (serviceId : String)
  deriving DecidableEq

/-- Failure while atomically reconciling the live service topology. -/
inductive RegistryReconcileError where
  | duplicateServiceId (serviceId : String)
  | serviceActive (serviceId : String)
  deriving DecidableEq

/-- Services by their IDs, in the order of the IDs. -/
abbrev ServiceMap (α : Type) := Std.ExtTreeMap String α

theorem ServiceMap.lookup_insert {α : Type} (m : ServiceMap α) (key id : String) (a : α) :
    (m.insert key a)[id]?=if key=id then some a else m[id]? := by
  simp [Std.ExtTreeMap.getElem?_insert]

theorem ServiceMap.mem_iff {α : Type} (m : ServiceMap α) (id : String) :
    id∈m ↔ ∃a,m[id]?=some a := by
  rw [Std.ExtTreeMap.mem_iff_isSome_getElem?,Option.isSome_iff_exists]

theorem ServiceMap.not_mem_iff {α : Type} (m : ServiceMap α) (id : String) :
    id∉m ↔ m[id]?=none := by
  rw [Std.ExtTreeMap.mem_iff_isSome_getElem?,Option.not_isSome_iff_eq_none]

theorem ServiceMap.insert_self {α : Type} (m : ServiceMap α) (id : String) (a : α)
    (here : m[id]?=some a) : m.insert id a=m := by
  refine Std.ExtTreeMap.ext_getElem? fun key => ?_
  rw [ServiceMap.lookup_insert]
  split_ifs with same
  · rw [← same,here]
  · rfl

theorem ServiceMap.lookup_erase {α : Type} (m : ServiceMap α) (key id : String) :
    (m.erase key)[id]?=if key=id then none else m[id]? := by
  simp [Std.ExtTreeMap.getElem?_erase]

/-- Shared lifecycle registry used by CLI, HTTP, and future adapters. -/
structure ServiceRegistry (P : Type) where
  services : ServiceMap (ServiceEntry P)
  restartStabilityWindow : Nat

/-- A registry with the log of the calls made so far. -/
structure RegistrySys (P E : Type) where
  registry : ServiceRegistry P
  calls : List (TreeCall P E)

abbrev RegistryM (P E Q : Type) := EStateM (RegistryError E Q) (RegistrySys P E)

namespace ServiceRegistry

variable {P E Q α : Type}

/-- Collects registrations by ID; the first repeated ID is reported. -/
def collect (registrations : List ServiceRegistration) :
    Except String (ServiceMap ServiceRegistration) :=
  registrations.foldlM (fun desired registration =>
    if registration.id∈desired then .error registration.id
    else .ok (desired.insert registration.id registration)) ∅

/-- Builds a registry while rejecting duplicate service IDs. -/
def new (registrations : List ServiceRegistration) (restartStabilityWindow : Nat) :
    Except RegistryBuildError (ServiceRegistry P) :=
  match collect registrations with
  | .error serviceId => .error (.duplicateServiceId serviceId)
  | .ok services =>
    .ok ⟨services.map fun _ registration => ServiceEntry.new registration,restartStabilityWindow⟩

def serviceIds (self : ServiceRegistry P) : List String := self.services.keys

/-- Whether an entry's registration is about to change or go. -/
def changedOrRemoved (desired : ServiceMap ServiceRegistration) (serviceId : String)
    (entry : ServiceEntry P) : Bool :=
  match desired[serviceId]? with
  | none => true
  | some registration => registration≠entry.registration

/-- Whether an entry may not be replaced or dropped now. -/
def active (entry : ServiceEntry P) : Bool :=
  entry.supervision.desiredState≠.stopped || ServiceRuntime.hasProcess entry.runtime

/-- The part of a reconciliation already done: entries not yet taken, and the map being built. -/
structure Reconciliation (P : Type) where
  current : ServiceMap (ServiceEntry P)
  next : ServiceMap (ServiceEntry P)
  added : List String
  updated : List String

def reconcileOne (state : Reconciliation P) (desired : String × ServiceRegistration) :
    Reconciliation P :=
  match state.current[desired.1]? with
  | some entry =>
    if entry.registration=desired.2 then
      { state with
        current := state.current.erase desired.1
        next := state.next.insert desired.1 entry }
    else
      { state with
        current := state.current.erase desired.1
        next := state.next.insert desired.1 (ServiceEntry.new desired.2)
        updated := state.updated++[desired.1] }
  | none =>
    { state with
      next := state.next.insert desired.1 (ServiceEntry.new desired.2)
      added := state.added++[desired.1] }

/-- Refuses the first entry that is about to change or go while it is active. -/
def requireInactive (desired : ServiceMap ServiceRegistration)
    (service : String × ServiceEntry P) :
    EStateM RegistryReconcileError (ServiceRegistry P) Unit :=
  if changedOrRemoved desired service.1 service.2 && active service.2 then
    throw (.serviceActive service.1)
  else pure ()

/-- Applies a validated service topology while retaining every unchanged entry. -/
def reconcileRegistrations (registrations : List ServiceRegistration) :
    EStateM RegistryReconcileError (ServiceRegistry P) RegistryReconcileOutcome := do
  match collect registrations with
  | .error serviceId => throw (.duplicateServiceId serviceId)
  | .ok desired =>
    let services := (← get).services
    services.toList.forM (requireInactive desired)
    modify fun self => { self with services := ∅ }
    let state := desired.toList.foldl reconcileOne ⟨services,∅,[],[]⟩
    modify fun self => { self with services := state.next }
    return ⟨state.added,state.updated,state.current.keys⟩

/-- Runs an operation on one registered entry, under its mutation lock. -/
def withEntry (serviceId : String) (x : EntryM P E Q α) : RegistryM P E Q α := fun s =>
  match s.registry.services[serviceId]? with
  | none => .error (.serviceNotFound serviceId) s
  | some entry =>
    match x.run ⟨entry,[]⟩ with
    | .ok a t =>
      .ok a ⟨{ s.registry with services := s.registry.services.insert serviceId t.entry },
        s.calls++t.calls⟩
    | .error e t =>
      .error e ⟨{ s.registry with services := s.registry.services.insert serviceId t.entry },
        s.calls++t.calls⟩

def start (platform : Platform P E Q) (serviceId : String) (actor : Actor) (reason : Reason) :
    RegistryM P E Q StartOutcome := withEntry serviceId (ServiceEntry.start platform actor reason)

def stopWithReport (platform : Platform P E Q) (serviceId : String) (actor : Actor)
    (reason : Reason) : RegistryM P E Q ServiceStopResult :=
  withEntry serviceId (ServiceEntry.stop platform actor reason)

def restartWithReport (platform : Platform P E Q) (serviceId : String) (actor : Actor)
    (reason : Reason) : RegistryM P E Q ServiceRestartResult :=
  withEntry serviceId (ServiceEntry.restart platform actor reason)

/-- One entry's turn in a refresh pass. -/
def refreshEntry (platform : Platform P E Q) (serviceId : String) :
    RegistryM P E Q ServiceRefresh := fun s =>
  (withEntry serviceId (ServiceEntry.refresh platform s.registry.restartStabilityWindow)).run s

/-- Reconciles terminal process trees and refreshes health for every service. -/
def refreshServices (platforms : String → Platform P E Q) :
    RegistryM P E Q (List ServiceRefresh) := do
  (← get).registry.serviceIds.mapM fun serviceId => refreshEntry (platforms serviceId) serviceId

/-- Returns a consistent snapshot of all registered services. -/
def snapshots (platforms : String → Platform P E Q) (self : ServiceRegistry P) :
    Except (RegistryError E Q) (List ServiceSnapshot) :=
  self.services.toList.mapM fun service => ServiceEntry.snapshot (platforms service.1) service.2

/-- Checks launch paths for services that a planned control action may start. -/
def preflightLaunches (platforms : String → Platform P E Q) (serviceIds : List String)
    (self : ServiceRegistry P) : Except (RegistryError E Q) Unit :=
  serviceIds.forM fun serviceId =>
    match self.services[serviceId]? with
    | none => .error (.serviceNotFound serviceId)
    | some entry =>
      ((platforms serviceId).preflightLaunch entry.registration.id
        entry.registration.launch).mapError fun error => .runtime (.start (.process error))

end ServiceRegistry

end AkuSupervisor

import AkuSupervisor.Application.Json
import AkuSupervisor.Application.ServedRegistry
import AkuSupervisor.Adapters.JournalRecord

namespace AkuSupervisor

/-- Why a registration operation fails. -/
structure RegistrationError where
  code : String
  message : String
  details : Option JsonValue
  deriving DecidableEq

namespace RegistrationError

def new (code message : String) : RegistrationError := ⟨code,message,none⟩

def withSource (code message source : String) : RegistrationError :=
  ⟨code,s!"{message}: {source}",none⟩

def withDetails (code message : String) (details : JsonValue) : RegistrationError :=
  ⟨code,message,some details⟩

end RegistrationError

/-- What the control server answers for one service, as far as the gate reads it. -/
def serviceResponse (snapshot : ServiceSnapshot) : JsonValue :=
  .object [("service",.object [("id",.string snapshot.id),
    ("lifecycle",.string snapshot.lifecycle.label)])]

def observedLifecycle (response : JsonValue) : Option String :=
  ((response.get "service").bind (·.get "lifecycle")).bind (·.asStr)

/-- A change of a registration needs a running supervisor that sees the service stopped. `response`
is what it answers to a request for the service. -/
def requireObservedStopped (serviceId : String) (response : Except String JsonValue) :
    Except RegistrationError Unit :=
  match response with
  | .error cause => .error (.withDetails "runtime_state_unverifiable"
      "cannot prove that the target service is stopped; keep AkuSupervisor running and stop the service first"
      (.object [("cause",.string cause),("serviceId",.string serviceId)]))
  | .ok response =>
    match observedLifecycle response with
    | none => .error (.new "runtime_state_invalid" "Supervisor returned no service lifecycle")
    | some lifecycle =>
      if lifecycle≠"stopped" then
        .error (.withDetails "service_must_be_stopped"
          "update and unregister require the running Supervisor to observe the service as stopped"
          (.object [("observedLifecycle",.string lifecycle),("serviceId",.string serviceId)]))
      else .ok ()

theorem label_stopped (lifecycle : LifecycleState) :
    lifecycle.label="stopped" ↔ lifecycle=.stopped := by
  cases lifecycle <;> decide

theorem requireObservedStopped_iff (snapshot : ServiceSnapshot) :
    requireObservedStopped snapshot.id (.ok (serviceResponse snapshot))=.ok () ↔
      snapshot.lifecycle=.stopped := by
  have read : observedLifecycle (serviceResponse snapshot)=some snapshot.lifecycle.label := rfl
  rw [← label_stopped]
  simp only [requireObservedStopped,read]
  by_cases stopped : snapshot.lifecycle.label="stopped"
  · simp [stopped]
  · simp [stopped]

namespace ServiceRegistry

variable {P E Q : Type}

/-- A configuration that differs from the live one in at most the one service. -/
structure ChangesOnly (serviceId : String) (r : ServiceRegistry P)
    (registrations : List ServiceRegistration) : Prop where
  distinct : (registrations.map ServiceRegistration.id).Nodup
  others : ∀registration,registration.id≠serviceId → (registration∈registrations ↔
    ∃e,r.services[registration.id]?=some e ∧ e.registration=registration)

/-- When the gate lets a change of one service through, the live registry takes it exactly if it has
nothing planned for the service, or nothing changes. -/
theorem reconcile_gated_iff (r : ServiceRegistry P) (reached : RegistryOp.Reachable E Q r)
    (platforms : String → Platform P E Q) (services : List ServiceSnapshot)
    (seen : snapshots platforms r=.ok services) (snapshot : ServiceSnapshot)
    (mem : snapshot∈services)
    (gate : requireObservedStopped snapshot.id (.ok (serviceResponse snapshot))=.ok ())
    (registrations : List ServiceRegistration)
    (only : ChangesOnly snapshot.id r registrations) :
    (∃outcome after,(reconcileRegistrations registrations).run r=.ok outcome after) ↔
      snapshot.desiredState=.stopped ∨
        ∃registration∈registrations,∃e,r.services[snapshot.id]?=some e ∧
          e.registration=registration := by
  have sound := reached.sound
  have stopped := (requireObservedStopped_iff snapshot).mp gate
  obtain ⟨e,here,shown⟩ := (r.snapshots_entries platforms sound services seen).1 snapshot mem
  obtain ⟨lifecycle,desired,-⟩ := ServiceEntry.snapshot_state _ _ _ shown
  have vacant : e.runtime.process=none := by
    rcases sound.consistent snapshot.id e here with idle|⟨process,owned⟩
    · exact idle.1
    · have active := owned.2
      rw [← lifecycle,stopped] at active
      simp at active
  have busy : active e=true ↔ snapshot.desiredState≠.stopped := by
    simp [active,ServiceRuntime.hasProcess,vacant,desired]
  constructor
  · intro h
    obtain ⟨outcome,after,run⟩ := h
    by_contra neither
    obtain ⟨planned,changed⟩ := not_or.mp neither
    obtain ⟨error,refused⟩ := run_of_refuses registrations r (.inr ⟨snapshot.id,e,here,
      busy.mpr planned,fun kept => changed ⟨e.registration,kept,e,here,rfl⟩⟩)
    rw [run] at refused
    cases refused
  · intro settled
    apply run_of_not_refuses registrations r sound.keyed
    intro refuses
    rcases refuses with repeated|⟨id,e',found,live,gone⟩
    · exact repeated only.distinct
    · by_cases same : id=snapshot.id
      · subst same
        cases here.symm.trans found
        rcases settled with idle|⟨registration,kept,e'',known,eq⟩
        · exact busy.mp live idle
        · cases here.symm.trans known
          rw [eq] at gone
          exact gone kept
      · have named := sound.keyed id e' found
        apply gone
        refine (only.others e'.registration (by rwa [named])).mpr ⟨e',?_,rfl⟩
        rw [named]
        exact found

section Fixture

/-- The API, forced down for a restart, after its tree has gone. -/
def fixtureDeferred : ServiceRegistry Nat :=
  Run.final RegistryOp.step
    [.request fixturePlatform .start "api" .userCli fixtureReason,
      .request { fixturePlatform with
        stop := fun process _ => .ok ⟨[process],[process],true,none,true⟩ }
        .restart "api" .userCli fixtureReason,
      .refresh { fixturePlatform with
        ownedPids := fun _ _ => .ok []
        tryWait := fun _ => .ok (some ⟨some 1⟩) } "api"]
    (fixtureRegistry [fixture "api" "Api"])

theorem reachable_fixtureDeferred : RegistryOp.Reachable Unit Unit fixtureDeferred :=
  .step _ _ (.step _ _ (.step _ _ (.new [fixture "api" "Api"] _ _ rfl)))

theorem changesOnly_removed (r : ServiceRegistry Nat) (one : r.services.keys=["api"]) : ChangesOnly "api" r [] := by
  refine ⟨by simp,fun registration other => ⟨by simp,fun h => ?_⟩⟩
  obtain ⟨e,here,-⟩ := h
  have listed := Std.ExtTreeMap.mem_keys.mpr ((ServiceMap.mem_iff _ _).mpr ⟨e,here⟩)
  rw [one] at listed
  exact absurd (List.mem_singleton.mp listed) other

theorem snapshots_single (r : ServiceRegistry Nat) (lifecycle : LifecycleState)
    (desiredState : DesiredState)
    (shown : (snapshots (fun _ => fixturePlatform) r).toOption.map
      (·.map fun snapshot => (snapshot.id,snapshot.lifecycle,snapshot.desiredState))=
        some [("api",lifecycle,desiredState)]) :
    ∃services snapshot,snapshots (fun _ => fixturePlatform) r=.ok services ∧ snapshot∈services ∧
      snapshot.id="api" ∧ snapshot.lifecycle=lifecycle ∧ snapshot.desiredState=desiredState := by
  cases seen : snapshots (fun _ => fixturePlatform) r with
  | error error => simp [seen,Except.toOption] at shown
  | ok services =>
    simp only [seen,Except.toOption,Option.map_some,Option.some.injEq] at shown
    obtain ⟨snapshot,rfl,told⟩ := List.map_eq_singleton_iff.mp shown
    simp only [Prod.mk.injEq] at told
    exact ⟨_,snapshot,rfl,List.mem_singleton_self _,told⟩

/-- A service that was never started can be removed. -/
theorem reconcile_gated_stopped : ∃services snapshot,
    snapshots (fun _ => fixturePlatform) (fixtureRegistry [fixture "api" "Api"])=.ok services ∧
      snapshot∈services ∧ snapshot.desiredState=.stopped ∧
      ((∃outcome after,
        (reconcileRegistrations []).run (fixtureRegistry [fixture "api" "Api"])=
          .ok outcome after) ↔
        snapshot.desiredState=.stopped ∨ ∃registration∈([] : List ServiceRegistration),
          ∃e,(fixtureRegistry [fixture "api" "Api"]).services[snapshot.id]?=some e ∧
            e.registration=registration) := by
  obtain ⟨services,snapshot,seen,mem,id,stopped,desired⟩ :=
    snapshots_single (fixtureRegistry [fixture "api" "Api"]) .stopped .stopped (by decide +kernel)
  have only : ChangesOnly snapshot.id (fixtureRegistry [fixture "api" "Api"]) [] := by
    rw [id]
    exact changesOnly_removed _ (by decide +kernel)
  exact ⟨services,snapshot,seen,mem,desired,reconcile_gated_iff (E := Unit) (Q := Unit) _
    (.new [fixture "api" "Api"] _ _ rfl) _ services seen snapshot mem
    ((requireObservedStopped_iff snapshot).mpr stopped) [] only⟩

/-- With a restart planned, the service is seen stopped and cannot be removed. -/
theorem gate_without_runtime :
    ¬∀(r : ServiceRegistry Nat) (platforms : String → Platform Nat Unit Unit)
      (services : List ServiceSnapshot) (snapshot : ServiceSnapshot)
      (registrations : List ServiceRegistration),
      RegistryOp.Reachable Unit Unit r → snapshots platforms r=.ok services →
      snapshot∈services →
      requireObservedStopped snapshot.id (.ok (serviceResponse snapshot))=.ok () →
      ChangesOnly snapshot.id r registrations →
      ∃outcome after,(reconcileRegistrations registrations).run r=.ok outcome after := by
  intro claim
  obtain ⟨services,snapshot,seen,mem,id,stopped,-⟩ :=
    snapshots_single fixtureDeferred .stopped .running (by decide +kernel)
  have only : ChangesOnly snapshot.id fixtureDeferred [] := by
    rw [id]
    exact changesOnly_removed _ (by decide +kernel)
  obtain ⟨outcome,after,run⟩ := claim _ _ services snapshot [] reachable_fixtureDeferred seen mem
    ((requireObservedStopped_iff snapshot).mpr stopped) only
  have busy : fixtureDeferred.services["api"]?.map active=some true := by decide +kernel
  obtain ⟨e,here,live⟩ := Option.map_eq_some_iff.mp busy
  obtain ⟨error,refused⟩ := run_of_refuses [] fixtureDeferred (.inr ⟨"api",e,here,live,by simp⟩)
  rw [run] at refused
  cases refused

end Fixture

end ServiceRegistry

end AkuSupervisor

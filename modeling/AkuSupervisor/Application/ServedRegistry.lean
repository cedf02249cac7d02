import AkuSupervisor.Application.DependencyControl
import AkuSupervisor.Application.RegistryRun

namespace AkuSupervisor

open StateError

/-- A registry behind the control interface, how many calls it has answered, and the steps it has
taken, each with the registry it was taken from. -/
structure ServedRegistry (P E Q : Type) where
  registry : ServiceRegistry P
  answered : Nat
  steps : List (ServiceRegistry P × RegistryOp P E Q)

namespace ServedRegistry

variable {P E Q α : Type}

def take (op : RegistryOp P E Q) (s : ServedRegistry P E Q) : ServedRegistry P E Q :=
  ⟨op.step s.registry,s.answered+1,s.steps++[(s.registry,op)]⟩

variable [ToString E] [ToString Q]

/-- Answers a call that only looks at the registry. -/
def observe (look : ServiceRegistry P → Except (RegistryError E Q) α) :
    EStateM ControlError (ServedRegistry P E Q) α := fun s =>
  match look s.registry with
  | .ok a => .ok a { s with answered := s.answered+1 }
  | .error error => .error (controlError error) { s with answered := s.answered+1 }

/-- The registry's own control. The platform may answer every call in its own way, and for every
service differently. -/
def registryControl (platforms : Nat → String → Platform P E Q) :
    SupervisorControl (ServedRegistry P E Q) where
  snapshots := fun s => observe (ServiceRegistry.snapshots (platforms s.answered)) s
  preflightLaunches := fun serviceIds s =>
    observe (ServiceRegistry.preflightLaunches (platforms s.answered) serviceIds) s
  mutate := fun action serviceId actor reason s =>
    let platform := platforms s.answered serviceId
    let op := RegistryOp.request platform action.lifecycle serviceId actor reason
    let next (t : RegistrySys P E) : ServedRegistry P E Q :=
      ⟨t.registry,s.answered+1,s.steps++[(s.registry,op)]⟩
    match (ServiceRegistry.mutate platform action serviceId actor reason).run ⟨s.registry,[]⟩ with
    | .ok result t => .ok result (next t)
    | .error error t => .error error (next t)

theorem run_registryControl_mutate (platforms : Nat → String → Platform P E Q)
    (action : ControlAction) (serviceId : String) (actor : Actor) (reason : Reason)
    (s : ServedRegistry P E Q) :
    ((registryControl platforms).mutate action serviceId actor reason).run s=
      match (ServiceRegistry.mutate (platforms s.answered serviceId) action serviceId actor
        reason).run ⟨s.registry,[]⟩ with
      | .ok result t => .ok result ⟨t.registry,s.answered+1,s.steps++[(s.registry,
          .request (platforms s.answered serviceId) action.lifecycle serviceId actor reason)]⟩
      | .error error t => .error error ⟨t.registry,s.answered+1,s.steps++[(s.registry,
          .request (platforms s.answered serviceId) action.lifecycle serviceId actor reason)]⟩ :=
  rfl

theorem run_observe (look : ServiceRegistry P → Except (RegistryError E Q) α)
    (s : ServedRegistry P E Q) :
    (observe look).run s=
      match look s.registry with
      | .ok a => .ok a { s with answered := s.answered+1 }
      | .error error => .error (controlError error) { s with answered := s.answered+1 } := rfl

theorem final_observe (look : ServiceRegistry P → Except (RegistryError E Q) α)
    (s : ServedRegistry P E Q) :
    final ((observe look).run s)={ s with answered := s.answered+1 } := by
  rw [run_observe]
  cases look s.registry <;> rfl

/-- A mutation is the registry step of the request it stands for. -/
theorem final_mutate (platform : Platform P E Q) (action : ControlAction) (serviceId : String)
    (actor : Actor) (reason : Reason) (r : ServiceRegistry P) :
    final ((ServiceRegistry.mutate platform action serviceId actor reason).run ⟨r,[]⟩)=
      (RegistryOp.request platform action.lifecycle serviceId actor reason).apply r := by
  unfold ServiceRegistry.mutate
  rw [final_adaptExcept,RegistryOp.apply]
  cases action with
  | start =>
    rw [final_run_map,ServiceRegistry.start,ServiceRegistry.final_withEntry,
      ServiceRegistry.final_withEntry]
    simp only [ControlAction.lifecycle,ServiceEntry.request,final_run_map]
  | stop =>
    rw [final_run_map,ServiceRegistry.stopWithReport,ServiceRegistry.final_withEntry,
      ServiceRegistry.final_withEntry]
    simp only [ControlAction.lifecycle,ServiceEntry.request,final_run_map]
  | restart =>
    rw [final_run_map,ServiceRegistry.restartWithReport,ServiceRegistry.final_withEntry,
      ServiceRegistry.final_withEntry]
    simp only [ControlAction.lifecycle,ServiceEntry.request,final_run_map]

/-- Whatever a mutation answers, it takes the step of its request. -/
theorem final_registryControl_mutate (platforms : Nat → String → Platform P E Q) (action : ControlAction)
    (serviceId : String) (actor : Actor) (reason : Reason) (s : ServedRegistry P E Q) :
    final (((registryControl platforms).mutate action serviceId actor reason).run s)=
      s.take (.request (platforms s.answered serviceId) action.lifecycle serviceId actor
        reason) := by
  have taken := final_mutate (platforms s.answered serviceId) action serviceId actor reason
    s.registry
  rw [take,RegistryOp.step,← taken,run_registryControl_mutate]
  cases (ServiceRegistry.mutate (platforms s.answered serviceId) action serviceId actor
    reason).run ⟨s.registry,[]⟩ <;> rfl

theorem answer_registryControl_mutate (platforms : Nat → String → Platform P E Q)
    (action : ControlAction) (serviceId : String) (actor : Actor) (reason : Reason)
    (s : ServedRegistry P E Q) :
    answer (((registryControl platforms).mutate action serviceId actor reason).run s)=
      answer ((ServiceRegistry.mutate (platforms s.answered serviceId) action serviceId actor
        reason).run ⟨s.registry,[]⟩) := by
  rw [run_registryControl_mutate]
  cases (ServiceRegistry.mutate (platforms s.answered serviceId) action serviceId actor
    reason).run ⟨s.registry,[]⟩ <;> rfl

/-- A start that answers `Ok` is a start of the entry that does. -/
theorem registryControl_start_ok (platforms : Nat → String → Platform P E Q) (serviceId : String)
    (actor : Actor) (reason : Reason) (s t : ServedRegistry P E Q)
    (result : ControlMutationResult)
    (ran : ((registryControl platforms).mutate .start serviceId actor reason).run s=.ok result t) :
    ∃e outcome u,s.registry.services[serviceId]?=some e ∧
      (ServiceEntry.start (platforms s.answered serviceId) actor reason).run ⟨e,[]⟩=
        .ok outcome u ∧
      t.registry.services[serviceId]?=some u.entry := by
  have taken := final_registryControl_mutate platforms .start serviceId actor reason s
  rw [ran,final_ok] at taken
  rw [run_registryControl_mutate,ServiceRegistry.mutate,run_adaptExcept,run_map,ServiceRegistry.start,
    ServiceRegistry.run_withEntry] at ran
  cases here : s.registry.services[serviceId]? with
  | none => simp [here] at ran
  | some e =>
    cases started : (ServiceEntry.start (platforms s.answered serviceId) actor reason).run
        ⟨e,[]⟩ with
    | error error u => simp [here,started] at ran
    | ok outcome u =>
      refine ⟨e,outcome,u,rfl,started,?_⟩
      rw [taken,take]
      simp only
      rw [RegistryOp.lookup_request,if_pos rfl,here,Option.map_some]
      simp only [ServiceEntry.request,ControlAction.lifecycle,final_run_map,started,final_ok]

theorem observe_ok (look : ServiceRegistry P → Except (RegistryError E Q) α)
    (s t : ServedRegistry P E Q) (a : α) (ran : (observe look).run s=.ok a t) :
    look s.registry=.ok a ∧ t.registry=s.registry ∧ t.steps=s.steps := by
  rw [run_observe] at ran
  cases seen : look s.registry with
  | error error => simp [seen] at ran
  | ok b =>
    rw [seen] at ran
    cases ran
    exact ⟨rfl,rfl,rfl⟩

theorem observe_error (look : ServiceRegistry P → Except (RegistryError E Q) α)
    (s t : ServedRegistry P E Q) (error : ControlError)
    (ran : (observe look).run s=.error error t) :
    (∃failure,look s.registry=.error failure) ∧ t.steps=s.steps := by
  rw [run_observe] at ran
  cases seen : look s.registry with
  | ok b => simp [seen] at ran
  | error failure =>
    rw [seen] at ran
    cases ran
    exact ⟨⟨failure,rfl⟩,rfl⟩

/-- Checks of launch paths leave the registry and its steps alone. -/
theorem passes_preflight {platforms : Nat → String → Platform P E Q}
    {checked : List (String × Unit)} {s t : ServedRegistry P E Q}
    (checks : Passes (fun launchId => (registryControl platforms).preflightLaunches [launchId])
      checked s t) : t.registry=s.registry ∧ t.steps=s.steps := by
  refine checks.keeps (fun t => t.registry=s.registry ∧ t.steps=s.steps) ?_ ⟨rfl,rfl⟩
  intro step _ u v same ran
  obtain ⟨-,registry,steps⟩ := observe_ok _ u v _ ran
  exact ⟨registry.trans same.1,steps.trans same.2⟩

end ServedRegistry

section Snapshots

variable {P E Q : Type}

/-- One registered service names the other among its dependencies. -/
def ServiceRegistry.DependsOn (r : ServiceRegistry P) (id dependency : String) : Prop :=
  ∃e,r.services[id]?=some e ∧ dependency∈e.registration.dependencies

theorem ServiceEntry.snapshot_ok (platform : Platform P E Q) (e : ServiceEntry P)
    (snapshot : ServiceSnapshot) (seen : e.snapshot platform=.ok snapshot) :
    snapshot.id=e.registration.id ∧ snapshot.dependsOn=e.registration.dependencies := by
  unfold ServiceEntry.snapshot at seen
  cases owner : e.runtime.process with
  | none =>
    simp only [owner,bind,Except.bind,pure,Except.pure,Except.ok.injEq] at seen
    subst seen
    exact ⟨rfl,rfl⟩
  | some process =>
    cases owned : platform.ownedProcesses process with
    | error error => simp [owner,owned,bind,Except.bind,Except.mapError] at seen
    | ok processes =>
      simp only [owner,owned,bind,Except.bind,Except.mapError,pure,Except.pure,
        Except.ok.injEq] at seen
      subst seen
      exact ⟨rfl,rfl⟩

/-- A snapshot tells the lifecycle and the desired state, and whether there is an owner. -/
theorem ServiceEntry.snapshot_state (platform : Platform P E Q) (e : ServiceEntry P)
    (snapshot : ServiceSnapshot) (seen : e.snapshot platform=.ok snapshot) :
    snapshot.lifecycle=e.runtime.lifecycle ∧
      snapshot.desiredState=e.supervision.desiredState ∧
      snapshot.rootPid.isSome=e.runtime.process.isSome := by
  unfold ServiceEntry.snapshot at seen
  cases owner : e.runtime.process with
  | none =>
    simp only [owner,bind,Except.bind,pure,Except.pure,Except.ok.injEq] at seen
    subst seen
    exact ⟨rfl,rfl,rfl⟩
  | some process =>
    cases owned : platform.ownedProcesses process with
    | error error => simp [owner,owned,bind,Except.bind,Except.mapError] at seen
    | ok processes =>
      simp only [owner,owned,bind,Except.bind,Except.mapError,pure,Except.pure,
        Except.ok.injEq] at seen
      subst seen
      exact ⟨rfl,rfl,rfl⟩

theorem ServiceEntry.snapshot_error (platform : Platform P E Q) (e : ServiceEntry P)
    (failure : RegistryError E Q) (seen : e.snapshot platform=.error failure) :
    ∃error,failure=.observation error := by
  unfold ServiceEntry.snapshot at seen
  cases owner : e.runtime.process with
  | none => simp [owner,bind,Except.bind,pure,Except.pure] at seen
  | some process =>
    cases owned : platform.ownedProcesses process with
    | ok processes => simp [owner,owned,bind,Except.bind,Except.mapError,pure,Except.pure] at seen
    | error cause =>
      simp only [owner,owned,bind,Except.bind,Except.mapError,Except.error.injEq] at seen
      exact ⟨cause,seen.symm⟩

/-- Snapshots fail for want of an observation only. -/
theorem ServiceRegistry.snapshots_error (platforms : String → Platform P E Q)
    (r : ServiceRegistry P) (failure : RegistryError E Q)
    (seen : ServiceRegistry.snapshots platforms r=.error failure) :
    ∃error,failure=.observation error := by
  obtain ⟨service,-,failed⟩ := mapM_error _ _ _ seen
  exact ServiceEntry.snapshot_error _ _ _ failed

/-- Each snapshot is of a registered service, under its ID, and each service has one. -/
theorem ServiceRegistry.snapshots_entries (platforms : String → Platform P E Q)
    (r : ServiceRegistry P) (sound : r.Sound) (snapshots : List ServiceSnapshot)
    (seen : ServiceRegistry.snapshots platforms r=.ok snapshots) :
    (∀snapshot∈snapshots,∃e,r.services[snapshot.id]?=some e ∧
      e.snapshot (platforms snapshot.id)=.ok snapshot) ∧
    ∀id e,r.services[id]?=some e → ∃snapshot∈snapshots,snapshot.id=id := by
  have each := (mapM_ok _ _ _).mp seen
  have named (service : String × ServiceEntry P) (mem : service∈r.services.toList) :
      service.2.registration.id=service.1 :=
    sound.keyed _ _ (Std.ExtTreeMap.mem_toList_iff_getElem?_eq_some.mp mem)
  refine ⟨fun snapshot mem => ?_,fun id e here => ?_⟩
  · obtain ⟨service,known,shown⟩ := forall₂_mem_right each mem
    have id := (ServiceEntry.snapshot_ok _ _ _ shown).1.trans (named service known)
    refine ⟨service.2,?_,by rwa [id]⟩
    rw [id]
    exact Std.ExtTreeMap.mem_toList_iff_getElem?_eq_some.mp known
  · have known := Std.ExtTreeMap.mem_toList_iff_getElem?_eq_some.mpr here
    obtain ⟨snapshot,mem,shown⟩ := forall₂_mem_left each known
    exact ⟨snapshot,mem,(ServiceEntry.snapshot_ok _ _ _ shown).1.trans (named _ known)⟩

/-- The snapshots of a sound registry have its services' IDs and dependencies. -/
theorem ServiceRegistry.snapshots_ok (platforms : String → Platform P E Q)
    (r : ServiceRegistry P) (sound : r.Sound) (snapshots : List ServiceSnapshot)
    (seen : ServiceRegistry.snapshots platforms r=.ok snapshots) :
    snapshots.map (·.id)=r.services.keys ∧
      ∀id dependency,AkuSupervisor.DependsOn snapshots id dependency ↔
        r.DependsOn id dependency := by
  have each := (mapM_ok _ _ _).mp seen
  have named : ∀service∈r.services.toList,service.2.registration.id=service.1 :=
    fun service mem => sound.keyed _ _
      (Std.ExtTreeMap.mem_toList_iff_getElem?_eq_some.mp mem)
  have pairs : List.Forall₂ (fun service snapshot => service.1=snapshot.id ∧
      service.2.registration.dependencies=snapshot.dependsOn) r.services.toList snapshots := by
    refine List.forall₂_iff_get.mpr ⟨each.length_eq,fun i hi hj => ?_⟩
    have shown := (List.forall₂_iff_get.mp each).2 i hi hj
    obtain ⟨id,dependencies⟩ := ServiceEntry.snapshot_ok _ _ _ shown
    exact ⟨by rw [id,named _ (List.get_mem _ _)],dependencies.symm⟩
  constructor
  · rw [← Std.ExtTreeMap.map_fst_toList_eq_keys]
    have same : List.Forall₂ (· = ·) (r.services.toList.map Prod.fst) (snapshots.map (·.id)) := by
      rw [List.forall₂_map_left_iff,List.forall₂_map_right_iff]
      exact pairs.imp fun _ _ h => h.1
    exact (List.forall₂_eq_eq_eq ▸ same).symm
  · intro id dependency
    constructor
    · intro h
      obtain ⟨snapshot,mem,rfl,depends⟩ := h
      obtain ⟨service,known,same,dependencies⟩ := forall₂_mem_right pairs mem
      refine ⟨service.2,?_,by rwa [dependencies]⟩
      rw [← same]
      exact Std.ExtTreeMap.mem_toList_iff_getElem?_eq_some.mp known
    · intro h
      obtain ⟨e,here,depends⟩ := h
      have known := Std.ExtTreeMap.mem_toList_iff_getElem?_eq_some.mpr here
      obtain ⟨snapshot,mem,same,dependencies⟩ := forall₂_mem_left pairs known
      exact ⟨snapshot,mem,same.symm,by rwa [← dependencies]⟩

end Snapshots

end AkuSupervisor

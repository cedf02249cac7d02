import AkuSupervisor.Lib.Run
import AkuSupervisor.Application.EntryEffects
import AkuSupervisor.Application.EntryRefresh
import AkuSupervisor.Application.Reconciliation

namespace AkuSupervisor

open StateError

/-- One atomic step of a registry, with the answers the platform gives to it: a request to start,
stop or restart a service, one service's turn in a refresh pass, or a reconciliation. -/
inductive RegistryOp (P E Q : Type) where
  | request (platform : Platform P E Q) (action : LifecycleAction) (serviceId : String)
      (actor : Actor) (reason : Reason)
  | refresh (platform : Platform P E Q) (serviceId : String)
  | reconcile (registrations : List ServiceRegistration)

namespace ServiceRegistry

variable {P E Q α : Type}

theorem run_withEntry (serviceId : String) (x : EntryM P E Q α) (s : RegistrySys P E) :
    (withEntry serviceId x).run s=
      match s.registry.services[serviceId]? with
      | none => .error (.serviceNotFound serviceId) s
      | some entry =>
        match x.run ⟨entry,[]⟩ with
        | .ok a t =>
          .ok a ⟨{ s.registry with services := s.registry.services.insert serviceId t.entry },
            s.calls++t.calls⟩
        | .error e t =>
          .error e ⟨{ s.registry with services := s.registry.services.insert serviceId t.entry },
            s.calls++t.calls⟩ := rfl

theorem run_refreshEntry (platform : Platform P E Q) (serviceId : String) (s : RegistrySys P E) :
    (refreshEntry platform serviceId).run s=
      (withEntry serviceId
        (ServiceEntry.refresh platform s.registry.restartStabilityWindow)).run s := rfl

theorem final_withEntry (serviceId : String) (x : EntryM P E Q α) (s : RegistrySys P E) :
    final ((withEntry serviceId x).run s)=
      match s.registry.services[serviceId]? with
      | none => s
      | some entry =>
        ⟨{ s.registry with
            services := s.registry.services.insert serviceId (final (x.run ⟨entry,[]⟩)).entry },
          s.calls++(final (x.run ⟨entry,[]⟩)).calls⟩ := by
  rw [run_withEntry]
  cases s.registry.services[serviceId]? with
  | none => rfl
  | some entry =>
    simp only
    cases x.run ⟨entry,[]⟩ <;> rfl

/-- What holds of every registry a run can reach. -/
structure Sound (r : ServiceRegistry P) : Prop where
  keyed : ∀(id : String) (entry : ServiceEntry P),r.services[id]?=some entry →
    entry.registration.id=id
  consistent : ∀(id : String) (entry : ServiceEntry P),r.services[id]?=some entry →
    ServiceRuntime.Consistent entry.runtime

end ServiceRegistry

namespace RegistryOp

open ServiceRegistry ServiceEntry

variable {P E Q : Type}

def apply (op : RegistryOp P E Q) (r : ServiceRegistry P) : RegistrySys P E :=
  match op with
  | .request platform action serviceId actor reason =>
    final ((withEntry serviceId (ServiceEntry.request platform action actor reason)).run ⟨r,[]⟩)
  | .refresh platform serviceId => final ((refreshEntry platform serviceId).run ⟨r,[]⟩)
  | .reconcile registrations =>
    ⟨final ((reconcileRegistrations registrations).run r),[]⟩

def step (op : RegistryOp P E Q) (r : ServiceRegistry P) : ServiceRegistry P :=
  (op.apply r).registry

/-- The exit a step reports. -/
def exit (op : RegistryOp P E Q) (r : ServiceRegistry P) : Option ProcessExitEvent :=
  match op with
  | .refresh platform serviceId =>
    match (refreshEntry platform serviceId).run ⟨r,[]⟩ with
    | .ok result _ => result.processExit
    | .error _ _ => none
  | _ => none

/-- The service a step is about. -/
def target : RegistryOp P E Q → Option String
  | .request _ _ serviceId _ _ | .refresh _ serviceId => some serviceId
  | .reconcile _ => none

/-- The calls a step makes for the service `serviceId`. -/
def calls (serviceId : String) (op : RegistryOp P E Q) (r : ServiceRegistry P) :
    List (TreeCall P E) :=
  if op.target=some serviceId then (op.apply r).calls else []

/-- What one step of the registry is to the service `serviceId`: the entry before it, the calls
made for the service, the entry after it and the exit reported for it. -/
inductive Turn (serviceId : String) (window : Nat) :
    RegistryOp P E Q → Option (ServiceEntry P) → List (TreeCall P E) → Option (ServiceEntry P) →
    Option ProcessExitEvent → Prop
  | absent (op : RegistryOp P E Q) (target : op.target=some serviceId) :
      Turn serviceId window op none [] none none
  | elsewhere (op : RegistryOp P E Q) (entry : Option (ServiceEntry P))
      (other : op.target≠some serviceId) : Turn serviceId window op entry [] entry none
  | requested (platform : Platform P E Q) (action : LifecycleAction) (actor : Actor)
      (reason : Reason) (e e' : ServiceEntry P) (calls : List (TreeCall P E))
      (effect : Effect platform action actor reason e e' calls) :
      Turn serviceId window (.request platform action serviceId actor reason) (some e) calls
        (some e') none
  | watched (platform : Platform P E Q) (e e' : ServiceEntry P) (calls : List (TreeCall P E))
      (quiet : Quiet e e') (looked : NoExit calls) :
      Turn serviceId window (.refresh platform serviceId) (some e) calls (some e') none
  | exited (platform : Platform P E Q) (e : ServiceEntry P) (process : P) (status : ExitStatus)
      (owned : ServiceRuntime.Owned process e.runtime) :
      Turn serviceId window (.refresh platform serviceId) (some e)
        [.tryWait process (.ok (some status))] (some (e.exited platform window status))
        (some (e.exitEvent platform window status))
  | replaced (registrations : List ServiceRegistration) (e : Option (ServiceEntry P))
      (registration : ServiceRegistration) (id : registration.id=serviceId)
      (inactive : ∀entry∈e,active entry=false) :
      Turn serviceId window (.reconcile registrations) e []
        (some (ServiceEntry.new registration)) none
  | dropped (registrations : List ServiceRegistration) (e : ServiceEntry P)
      (inactive : active e=false) :
      Turn serviceId window (.reconcile registrations) (some e) [] none none

/-- A request changes the entry of its service, as the operation on that entry does. -/
theorem lookup_request (platform : Platform P E Q) (action : LifecycleAction)
    (serviceId : String) (actor : Actor) (reason : Reason) (r : ServiceRegistry P) (id : String) :
    ((RegistryOp.request platform action serviceId actor reason).step r).services[id]?=
      if serviceId=id then r.services[id]?.map fun e =>
        (final ((ServiceEntry.request platform action actor reason).run ⟨e,[]⟩)).entry
      else r.services[id]? := by
  rw [step,apply,final_withEntry]
  cases here : r.services[serviceId]? with
  | none =>
    by_cases same : serviceId=id
    · subst same
      simp [here]
    · simp [same]
  | some entry =>
    simp only [ServiceMap.lookup_insert]
    by_cases same : serviceId=id
    · subst same
      simp [here]
    · simp [same]

/-- So does a refresh of it. -/
theorem lookup_refresh (platform : Platform P E Q) (serviceId : String) (r : ServiceRegistry P)
    (id : String) :
    ((RegistryOp.refresh platform serviceId).step r).services[id]?=
      if serviceId=id then r.services[id]?.map fun e =>
        (final ((ServiceEntry.refresh platform r.restartStabilityWindow).run ⟨e,[]⟩)).entry
      else r.services[id]? := by
  rw [step,apply,run_refreshEntry,final_withEntry]
  cases here : r.services[serviceId]? with
  | none =>
    by_cases same : serviceId=id
    · subst same
      simp [here]
    · simp [same]
  | some entry =>
    simp only [ServiceMap.lookup_insert]
    by_cases same : serviceId=id
    · subst same
      simp [here]
    · simp [same]

/-- The exit a refresh reports is an exit of its service. -/
theorem exit_serviceId (platform : Platform P E Q) (serviceId : String) (r : ServiceRegistry P)
    (keyed : ∀e,r.services[serviceId]?=some e → e.registration.id=serviceId)
    (rest : ∀e,r.services[serviceId]?=some e → ServiceRuntime.Consistent e.runtime)
    (event : ProcessExitEvent) (seen : (RegistryOp.refresh platform serviceId).exit r=some event) :
    event.serviceId=serviceId := by
  rw [exit,run_refreshEntry,run_withEntry] at seen
  cases here : r.services[serviceId]? with
  | none => simp [here] at seen
  | some e =>
    have cases := refresh_cases platform r.restartStabilityWindow e (rest e here)
    simp only [here] at seen
    generalize (ServiceEntry.refresh platform r.restartStabilityWindow).run ⟨e,[]⟩=result
      at cases seen
    cases cases with
    | failed => cases seen
    | live => cases seen
    | exited process status =>
      cases seen
      exact keyed e here

theorem turn_reconcile (registrations : List ServiceRegistration) (r : ServiceRegistry P)
    (serviceId : String) :
    Turn serviceId r.restartStabilityWindow (.reconcile registrations : RegistryOp P E Q)
      r.services[serviceId]? [] ((RegistryOp.reconcile registrations : RegistryOp P E Q).step
        r).services[serviceId]? none := by
  rw [step,apply]
  rcases reconcileRegistrations_cases r registrations with
    ⟨error,run⟩|⟨desired,outcome,after,collected,run,h⟩
  · rw [run]
    exact .elsewhere _ _ (by simp [target])
  · rw [run,final_ok,h.lookup]
    cases wanted : desired[serviceId]? with
    | none =>
      cases here : r.services[serviceId]? with
      | none => exact .elsewhere _ _ (by simp [target])
      | some entry =>
        refine .dropped registrations entry ?_
        cases busy : active entry with
        | false => rfl
        | true => simpa [wanted] using h.kept serviceId entry here busy
    | some registration =>
      have named := ((collect_ok registrations desired collected _ _).mp wanted).2
      cases here : r.services[serviceId]? with
      | none => exact .replaced registrations none registration named (by simp)
      | some entry =>
        by_cases same : entry.registration=registration
        · simp only [Option.map_some,retained,same,if_true]
          exact .elsewhere _ _ (by simp [target])
        · simp only [Option.map_some,retained,same,if_false]
          refine .replaced registrations _ registration named ?_
          intro entry' same
          cases same
          cases busy : active entry with
          | false => rfl
          | true =>
            have kept := h.kept serviceId entry here busy
            rw [wanted] at kept
            exact absurd (Option.some.inj kept).symm same

/-- Every step of a sound registry is a turn of every service. -/
theorem turn (op : RegistryOp P E Q) (r : ServiceRegistry P) (sound : r.Sound)
    (serviceId : String) :
    Turn serviceId r.restartStabilityWindow op r.services[serviceId]? (op.calls serviceId r)
      (op.step r).services[serviceId]?
      (if op.target=some serviceId then op.exit r else none) := by
  by_cases mine : op.target=some serviceId
  · rw [if_pos mine,calls,if_pos mine,step]
    cases op with
    | reconcile registrations => cases mine
    | request platform action id actor reason =>
      cases mine
      rw [apply,final_withEntry]
      cases here : r.services[serviceId]? with
      | none =>
        simp only [here]
        exact .absent _ rfl
      | some entry =>
        have effect := request_effect platform actor reason entry action
          (sound.consistent serviceId entry here)
        simp only [ServiceMap.lookup_insert,if_true]
        exact .requested platform action actor reason entry _ _ effect
    | refresh platform id =>
      cases mine
      rw [apply,exit,run_refreshEntry,run_withEntry]
      cases here : r.services[serviceId]? with
      | none =>
        simp only [final_error,here]
        exact .absent _ rfl
      | some entry =>
        have cases := refresh_cases platform r.restartStabilityWindow entry
          (sound.consistent serviceId entry here)
        dsimp only
        generalize (ServiceEntry.refresh platform r.restartStabilityWindow).run ⟨entry,[]⟩=result
          at cases ⊢
        cases cases with
        | failed error e' calls seen quiet looked =>
          simp only [final_error,ServiceMap.lookup_insert,if_true]
          exact .watched platform entry e' calls quiet looked
        | live health e' calls seen quiet looked =>
          simp only [final_ok,ServiceMap.lookup_insert,if_true]
          exact .watched platform entry e' calls quiet looked
        | exited process status seen owned =>
          simp only [final_ok,ServiceMap.lookup_insert,if_true]
          exact .exited platform entry process status owned
  · rw [if_neg mine,calls,if_neg mine]
    cases op with
    | reconcile registrations => exact turn_reconcile registrations r serviceId
    | request platform action id actor reason =>
      have other : id≠serviceId := fun eq => mine (congrArg some eq)
      rw [step,apply,final_withEntry]
      cases r.services[id]? with
      | none => exact .elsewhere _ _ mine
      | some entry =>
        simp only [ServiceMap.lookup_insert,if_neg other]
        exact .elsewhere _ _ mine
    | refresh platform id =>
      have other : id≠serviceId := fun eq => mine (congrArg some eq)
      rw [step,apply,run_refreshEntry,final_withEntry]
      cases r.services[id]? with
      | none => exact .elsewhere _ _ mine
      | some entry =>
        simp only [ServiceMap.lookup_insert,if_neg other]
        exact .elsewhere _ _ mine

/-- Requests and refreshes neither add nor remove services. -/
theorem registered_step (op : RegistryOp P E Q) (r : ServiceRegistry P) (sound : r.Sound)
    (other : ∀registrations,op≠.reconcile registrations) (id : String) (here : id∈r.services) :
    id∈(op.step r).services := by
  rw [ServiceMap.mem_iff] at here ⊢
  obtain ⟨e,found⟩ := here
  have turn := op.turn r sound id
  rw [found] at turn
  generalize (op.step r).services[id]?=after at turn
  generalize op.calls id r=calls at turn
  generalize (if op.target=some id then op.exit r else none)=exit at turn
  cases turn with
  | elsewhere => exact ⟨_,rfl⟩
  | requested => exact ⟨_,rfl⟩
  | watched => exact ⟨_,rfl⟩
  | exited => exact ⟨_,rfl⟩
  | replaced registrations => exact absurd rfl (other registrations)
  | dropped registrations => exact absurd rfl (other registrations)

theorem Turn.sound {serviceId : String} {window : Nat} {op : RegistryOp P E Q}
    {before after : Option (ServiceEntry P)} {calls : List (TreeCall P E)}
    {exit : Option ProcessExitEvent} (h : Turn serviceId window op before calls after exit)
    (sound : ∀e∈before,e.registration.id=serviceId ∧ ServiceRuntime.Consistent e.runtime) :
    ∀e∈after,e.registration.id=serviceId ∧ ServiceRuntime.Consistent e.runtime := by
  cases h with
  | absent => simp
  | elsewhere => exact sound
  | requested platform action actor reason e e' calls effect =>
    intro _ same
    cases same
    obtain ⟨named,rest⟩ := sound e rfl
    exact ⟨by rw [effect.registration,named],effect.consistent rest⟩
  | watched platform e e' calls quiet looked =>
    intro _ same
    cases same
    obtain ⟨named,rest⟩ := sound e rfl
    exact ⟨by rw [quiet.registration,named],quiet.consistent rest⟩
  | exited platform e process status owned =>
    intro _ same
    cases same
    refine ⟨(sound e rfl).1,.inl ⟨rfl,?_⟩⟩
    simp only [ServiceEntry.exited]
    split_ifs
    · exact .inl rfl
    · exact .inr rfl
  | replaced registrations e registration id inactive =>
    intro _ same
    cases same
    exact ⟨id,.inl ⟨rfl,.inl rfl⟩⟩
  | dropped => simp

theorem sound_step (op : RegistryOp P E Q) (r : ServiceRegistry P) (sound : r.Sound) :
    (op.step r).Sound := by
  have each (id : String) := (op.turn r sound id).sound fun e here =>
    ⟨sound.keyed id e here,sound.consistent id e here⟩
  exact ⟨fun id e here => (each id e here).1,fun id e here => (each id e here).2⟩

/-- A new registry holds a fresh entry for every registration. -/
theorem new_entry (registrations : List ServiceRegistration) (window : Nat)
    (r : ServiceRegistry P) (built : ServiceRegistry.new registrations window=.ok r) (id : String)
    (e : ServiceEntry P) (here : r.services[id]?=some e) :
    ∃registration,registration.id=id ∧ e=ServiceEntry.new registration := by
  unfold ServiceRegistry.new at built
  cases collected : collect registrations with
  | error id => simp [collected] at built
  | ok services =>
    simp only [collected,Except.ok.injEq] at built
    subst built
    obtain ⟨registration,wanted,rfl⟩ :
        ∃registration,services[id]?=some registration ∧ ServiceEntry.new registration=e := by
      simpa [Std.ExtTreeMap.getElem?_map] using here
    exact ⟨registration,
      ((collect_ok registrations services collected id registration).mp wanted).2,rfl⟩

theorem sound_new (registrations : List ServiceRegistration) (window : Nat)
    (r : ServiceRegistry P) (built : ServiceRegistry.new registrations window=.ok r) :
    r.Sound := by
  refine ⟨fun id e here => ?_,fun id e here => ?_⟩
  · obtain ⟨registration,named,rfl⟩ := new_entry registrations window r built id e here
    exact named
  · obtain ⟨registration,named,rfl⟩ := new_entry registrations window r built id e here
    exact .inl ⟨rfl,.inl rfl⟩

/-- The registries that runs of the supervisor lead to, from any configuration. -/
inductive Reachable (E Q : Type) : ServiceRegistry P → Prop
  | new (registrations : List ServiceRegistration) (window : Nat) (r : ServiceRegistry P)
      (built : ServiceRegistry.new registrations window=.ok r) : Reachable E Q r
  | step (op : RegistryOp P E Q) (r : ServiceRegistry P) (h : Reachable E Q r) :
      Reachable E Q (op.step r)

theorem Reachable.sound {r : ServiceRegistry P} (h : Reachable E Q r) : r.Sound := by
  induction h with
  | new registrations window r built => exact sound_new registrations window r built
  | step op r h ih => exact sound_step op r ih

/-- The launcher is reached by an accepted start or restart of the service only. -/
theorem Turn.spawn {serviceId : String} {window : Nat} {op : RegistryOp P E Q}
    {before after : Option (ServiceEntry P)} {calls : List (TreeCall P E)}
    {exit : Option ProcessExitEvent} (h : Turn serviceId window op before calls after exit)
    (named : ∀e∈before,e.registration.id=serviceId) (id : String) (launch : LaunchSpec)
    (answer : Except E P) (mem : .spawn id launch answer∈calls) :
    id=serviceId ∧ ∃platform action actor reason e,
      op=.request platform action serviceId actor reason ∧ before=some e ∧
      action≠.stop ∧ e.Accepts platform actor action := by
  cases h with
  | requested platform action actor reason e e' calls effect =>
    obtain ⟨rfl,launches,accepts⟩ := effect.spawn_mem id launch answer mem
    refine ⟨named e rfl,platform,action,actor,reason,e,rfl,rfl,?_,accepts⟩
    rcases launches with rfl|rfl <;> decide
  | watched platform e e' calls quiet looked =>
    obtain ⟨process,seen,eq,-⟩ := looked _ mem
    cases eq
  | _ => simp at mem

/-- Every call a step makes is made for the service the step is about. -/
theorem calls_target (op : RegistryOp P E Q) (r : ServiceRegistry P) (call : TreeCall P E)
    (mem : call∈(op.apply r).calls) : ∃serviceId,op.target=some serviceId ∧
      call∈op.calls serviceId r := by
  cases op with
  | reconcile registrations => simp [apply] at mem
  | request platform action serviceId actor reason =>
    exact ⟨serviceId,rfl,by simpa [calls,target] using mem⟩
  | refresh platform serviceId => exact ⟨serviceId,rfl,by simpa [calls,target] using mem⟩

theorem spawn_calls (op : RegistryOp P E Q) (r : ServiceRegistry P) (sound : r.Sound)
    (serviceId : String) (launch : LaunchSpec) (answer : Except E P)
    (mem : .spawn serviceId launch answer∈(op.apply r).calls) :
    .spawn serviceId launch answer∈op.calls serviceId r := by
  obtain ⟨target,-,here⟩ := calls_target op r _ mem
  obtain ⟨rfl,-⟩ := (op.turn r sound target).spawn (fun e found => sound.keyed target e found)
    serviceId launch answer here
  exact here

end RegistryOp

namespace ServiceRegistry

variable {P E Q : Type} (platform : Platform P E Q) (r : ServiceRegistry P) (serviceId : String)
  (actor : Actor)

/-- A start or restart that fails at lookup, or at one of the checks of its entry. -/
inductive FailsAdmission (action : LifecycleAction) : RegistryError E Q → Prop
  | lookup (absent : r.services[serviceId]?=none) :
      FailsAdmission action (.serviceNotFound serviceId)
  | check (e : ServiceEntry P) (error : RegistryError E Q) (here : r.services[serviceId]?=some e)
      (fails : e.Fails platform actor action error) : FailsAdmission action error

variable {platform r serviceId actor}

/-- An operation that fails on its entry as it was leaves the registry and the log as they were. -/
theorem run_withEntry_unchanged {α : Type} {x : EntryM P E Q α} {error : RegistryError E Q}
    (calls : List (TreeCall P E)) (fails : r.services[serviceId]?=none ∧
        error=.serviceNotFound serviceId ∨
      ∃e,r.services[serviceId]?=some e ∧ x.run ⟨e,[]⟩=.error error ⟨e,[]⟩) :
    (withEntry serviceId x).run ⟨r,calls⟩=.error error ⟨r,calls⟩ := by
  rcases fails with ⟨absent,rfl⟩|⟨e,here,fails⟩
  · simp only [EStateM.run,withEntry,absent]
  · have same := ServiceMap.insert_self r.services serviceId e here
    show withEntry serviceId x ⟨r,calls⟩=_
    simp only [withEntry,here,fails,same,List.append_nil]

/-- A start or restart that is not admitted changes nothing at all and acts on no tree. -/
theorem failed_admission_unchanged (platform : Platform P E Q) (r : ServiceRegistry P)
    (serviceId : String) (actor : Actor) (reason : Reason) (calls : List (TreeCall P E))
    (error : RegistryError E Q) :
    (FailsAdmission platform r serviceId actor .start error →
      (start platform serviceId actor reason).run ⟨r,calls⟩=.error error ⟨r,calls⟩) ∧
    (FailsAdmission platform r serviceId actor .restart error →
      (restartWithReport platform serviceId actor reason).run ⟨r,calls⟩=
        .error error ⟨r,calls⟩) := by
  constructor
  · intro fails
    refine run_withEntry_unchanged calls ?_
    cases fails with
    | lookup absent => exact .inl ⟨absent,rfl⟩
    | check e error here fails =>
      exact .inr ⟨e,here,ServiceEntry.start_fails platform actor reason e error fails⟩
  · intro fails
    refine run_withEntry_unchanged calls ?_
    cases fails with
    | lookup absent => exact .inl ⟨absent,rfl⟩
    | check e error here fails =>
      exact .inr ⟨e,here,ServiceEntry.restart_fails platform actor reason e error fails⟩

end ServiceRegistry

section Fixture

/-- A service that only needs its process. -/
def fixture (id label : String) : ServiceRegistration where
  id := id
  label := label
  launch := ⟨"fixture.exe",[],".",[],none,none⟩
  dependencies := []
  startupPrerequisites := []
  health := .process
  restartPolicy := .onFailure
  ports := []
  shutdownGrace := fromMillis 10

def fixtureReason : Reason := ⟨"fixture",by decide,by decide⟩

/-- A platform on which everything works: trees spawn, stay up and stop at once. -/
def fixturePlatform : Platform Nat Unit Unit where
  preflightLaunch := fun _ _ => .ok ()
  spawn := fun _ _ => .ok 1000
  rootPid := id
  ownedPids := fun _ process => .ok [process]
  ownedProcesses := fun process => .ok [⟨process,none⟩]
  tryWait := fun _ => .ok none
  stop := fun process _ => .ok ⟨[process],[],true,none,false⟩
  inspectTcpPort := fun _ port => .ok ⟨port,[]⟩
  probe := fun _ _ _ _ => ⟨true,true,"",[]⟩
  lag := fun _ _ => (0,0)
  now := 0
  unixMilliseconds := 0

/-- The registry of distinct registrations, with the source's default stability window. -/
def fixtureRegistry (registrations : List ServiceRegistration) : ServiceRegistry Nat :=
  match ServiceRegistry.new registrations (fromMillis 60000) with
  | .ok r => r
  | .error _ => ⟨∅,0⟩

/-- A launch whose paths are missing. -/
theorem failed_preflight_unchanged :
    (ServiceRegistry.start { fixturePlatform with preflightLaunch := fun _ _ => .error () }
        "api" .userCli fixtureReason).run ⟨fixtureRegistry [fixture "api" "API"],[]⟩=
      .error (.runtime (.start (.process ()))) ⟨fixtureRegistry [fixture "api" "API"],[]⟩ := by
  refine (ServiceRegistry.failed_admission_unchanged _ _ "api" .userCli fixtureReason [] _).1
    (.check (.new (fixture "api" "API")) _ ?_ (.preflight () ?_ (fun _ => rfl) rfl))
  · rfl
  · exact ⟨rfl,by decide⟩

end Fixture

end AkuSupervisor

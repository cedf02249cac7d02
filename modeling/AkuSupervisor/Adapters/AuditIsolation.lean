import AkuSupervisor.Application.ServedRegistry
import AkuSupervisor.Adapters.AuditedControl

namespace AkuSupervisor

open StateError ServiceRuntime

namespace ServiceEntry

variable {P E Q α : Type}

/-- A failure for lost ownership is met by operations that have called the platform only. -/
def LostLate (result : EStateM.Result (RegistryError E Q) (EntrySys P E) α) : Prop :=
  ∀error∈failure result,controlErrorKind error=.ownershipLost → (final result).calls≠[]

theorem Launch.lostLate {platform : Platform P E Q} {action : LifecycleAction}
    {e : ServiceEntry P} {before : List (TreeCall P E)} {outcome : α}
    {result : EStateM.Result (RegistryError E Q) (EntrySys P E) α}
    (h : Launch platform action e before outcome result) : LostLate result := by
  intro error same lost
  cases h with
  | blocked error =>
    cases same
    cases error <;> cases lost
  | failed =>
    cases same
    cases lost
  | unready => simp
  | ready => cases same

variable (platform : Platform P E Q) (actor : Actor) (reason : Reason) (e : ServiceEntry P)

theorem start_lostLate (rest : Consistent e.runtime) :
    LostLate ((start platform actor reason).run ⟨e,[]⟩) := by
  have cases := start_cases platform actor reason e rest
  generalize (start platform actor reason).run ⟨e,[]⟩=result at cases ⊢
  cases cases with
  | launched result admits vacant prepared launch => exact launch.lostLate
  | alreadyRunning =>
    intro error same
    cases same
  | _ =>
    intro error same lost
    cases same
    cases lost

theorem stop_lostLate (rest : Consistent e.runtime) :
    LostLate ((stop platform actor reason).run ⟨e,[]⟩) := by
  have cases := stop_cases platform actor reason e rest
  generalize (stop platform actor reason).run ⟨e,[]⟩=result at cases ⊢
  cases cases with
  | failed process error =>
    intro _ same lost
    cases same
    cases lost
  | _ =>
    intro error same
    cases same

theorem restart_lostLate (rest : Consistent e.runtime) :
    LostLate ((restart platform actor reason).run ⟨e,[]⟩) := by
  have cases := restart_cases platform actor reason e rest
  generalize (restart platform actor reason).run ⟨e,[]⟩=result at cases ⊢
  cases cases with
  | launched result admits idle prepared launch => exact launch.lostLate
  | replaced result process report admits owned prepared answer complete launch =>
    exact launch.lostLate
  | pending =>
    intro error same
    cases same
  | _ =>
    intro error same lost
    cases same
    cases lost

end ServiceEntry

namespace ServiceRegistry

variable {P E Q α : Type}

/-- What a result shows of one service: the answer, the entry and the calls made. -/
def view {ε : Type} (serviceId : String) (result : EStateM.Result ε (RegistrySys P E) α) :
    Except ε α × Option (ServiceEntry P) × List (TreeCall P E) :=
  (answer result,(final result).registry.services[serviceId]?,(final result).calls)

/-- An operation on one service sees nothing of the others. -/
theorem view_withEntry (serviceId : String) (x : EntryM P E Q α) (r₁ r₂ : ServiceRegistry P)
    (same : r₁.services[serviceId]?=r₂.services[serviceId]?) :
    view serviceId ((withEntry serviceId x).run ⟨r₁,[]⟩)=
      view serviceId ((withEntry serviceId x).run ⟨r₂,[]⟩) := by
  rw [run_withEntry,run_withEntry]
  simp only [same]
  cases here : r₂.services[serviceId]? with
  | none =>
    have absent : r₁.services[serviceId]?=none := same.trans here
    simp only [view,final_error,absent,here]
    rfl
  | some e =>
    cases ran : x.run ⟨e,[]⟩ with
    | ok a t => simp only [view,ran,final_ok,ServiceMap.lookup_insert,if_true]; rfl
    | error error t => simp only [view,ran,final_error,ServiceMap.lookup_insert,if_true]; rfl

variable [ToString E] [ToString Q]

theorem view_adapt {β : Type} (serviceId : String) (f : α → β)
    (x : RegistryM P E Q α) (r₁ r₂ : ServiceRegistry P)
    (same : view serviceId (x.run ⟨r₁,[]⟩)=view serviceId (x.run ⟨r₂,[]⟩)) :
    view serviceId ((EStateM.adaptExcept controlError (f <$> x)).run ⟨r₁,[]⟩)=
      view serviceId ((EStateM.adaptExcept controlError (f <$> x)).run ⟨r₂,[]⟩) := by
  simp only [run_adaptExcept,run_map]
  cases first : x.run ⟨r₁,[]⟩ with
  | ok a t =>
    cases second : x.run ⟨r₂,[]⟩ with
    | error error u => simp [view,first,second,answer] at same
    | ok b u =>
      simp only [view,first,second,answer,final_ok,Prod.mk.injEq,Except.ok.injEq] at same
      simp only [view,answer,final_ok,same]
  | error error t =>
    cases second : x.run ⟨r₂,[]⟩ with
    | ok b u => simp [view,first,second,answer] at same
    | error error' u =>
      simp only [view,first,second,answer,final_error,Prod.mk.injEq,Except.error.injEq] at same
      simp only [view,answer,final_error,same]

theorem view_mutate (platform : Platform P E Q) (action : ControlAction) (serviceId : String)
    (actor : Actor) (reason : Reason) (r₁ r₂ : ServiceRegistry P)
    (same : r₁.services[serviceId]?=r₂.services[serviceId]?) :
    view serviceId ((ServiceRegistry.mutate platform action serviceId actor reason).run ⟨r₁,[]⟩)=
      view serviceId
        ((ServiceRegistry.mutate platform action serviceId actor reason).run ⟨r₂,[]⟩) := by
  cases action with
  | start => exact view_adapt serviceId _ _ r₁ r₂ (view_withEntry serviceId _ r₁ r₂ same)
  | stop => exact view_adapt serviceId _ _ r₁ r₂ (view_withEntry serviceId _ r₁ r₂ same)
  | restart => exact view_adapt serviceId _ _ r₁ r₂ (view_withEntry serviceId _ r₁ r₂ same)

theorem mutate_lostLate (platform : Platform P E Q) (action : ControlAction) (serviceId : String)
    (actor : Actor) (reason : Reason) (r : ServiceRegistry P) (sound : r.Sound)
    (error : ControlError)
    (failed : answer ((ServiceRegistry.mutate platform action serviceId actor reason).run ⟨r,[]⟩)=
      .error error) (lost : error.kind=.ownershipLost) :
    (final ((ServiceRegistry.mutate platform action serviceId actor reason).run
      ⟨r,[]⟩)).calls≠[] := by
  have each {α β : Type} (x : EntryM P E Q α) (f : α → β)
      (late : ∀e,r.services[serviceId]?=some e → ServiceEntry.LostLate (x.run ⟨e,[]⟩))
      (failed : answer ((EStateM.adaptExcept controlError (f <$> withEntry serviceId x)).run
        ⟨r,[]⟩)=.error error) :
      (final ((EStateM.adaptExcept controlError (f <$> withEntry serviceId x)).run
        ⟨r,[]⟩)).calls≠[] := by
    rw [final_adaptExcept,final_run_map,final_withEntry]
    simp only [run_adaptExcept,run_map,run_withEntry] at failed
    cases here : r.services[serviceId]? with
    | none =>
      simp only [here,answer,Except.error.injEq] at failed
      rw [← failed] at lost
      cases lost
    | some e =>
      cases ran : x.run ⟨e,[]⟩ with
      | ok a t => simp [here,ran,answer] at failed
      | error failure t =>
        simp only [here,ran,answer,Except.error.injEq] at failed
        have calls := late e here failure (by rw [ran]; rfl) (by rw [← lost,← failed]; rfl)
        simpa [ran] using calls
  cases action with
  | start =>
    exact each _ _ (fun e here => ServiceEntry.start_lostLate platform actor reason e
      (sound.consistent serviceId e here)) failed
  | stop =>
    exact each _ _ (fun e here => ServiceEntry.stop_lostLate platform actor reason e
      (sound.consistent serviceId e here)) failed
  | restart =>
    exact each _ _ (fun e here => ServiceEntry.restart_lostLate platform actor reason e
      (sound.consistent serviceId e here)) failed

end ServiceRegistry

section Isolation

open ServedRegistry AuditedControl

variable {P E Q : Type} [ToString E] [ToString Q]

variable (supervisorInstanceId : String) (appends : Nat → AppendAnswer)
  (unixMilliseconds : Nat → Nat) (journal : JournalSys) (appended : Nat)
  (configFingerprint : String) (action : ControlAction) (serviceId : String) (actor : Actor)
  (reason : Reason) (platforms : Nat → String → Platform P E Q) (r : ServiceRegistry P)

/-- What an audited mutation shows of its service: the answer, the entry it leaves and the calls it
makes for the service. -/
def auditedOutcome : Except ControlError ControlMutationResult × Option (ServiceEntry P) ×
    List (TreeCall P E) :=
  let control : AuditedControl (ServedRegistry P E Q) :=
    ⟨registryControl platforms,supervisorInstanceId,appends,unixMilliseconds⟩
  let result := (control.mutate action serviceId actor reason).run
    ⟨⟨r,0,[]⟩,journal,appended,configFingerprint⟩
  (answer result,(final result).inner.registry.services[serviceId]?,
    (final result).inner.steps.flatMap fun step => step.2.calls serviceId step.1)

/-- Why the first look at the services fails, if it does. -/
def firstFailure : Option ControlError :=
  match ServiceRegistry.snapshots (platforms 0) r with
  | .ok _ => none
  | .error error => some (controlError error)

/-- Why the journal does not take the record, if it does not. -/
def journalFailure : Option ControlError :=
  ((appends appended).failure journal.journal.path).map fun error =>
    .internal s!"failed to persist lifecycle journal: {error.display}"

theorem auditedOutcome_unobserved (error : ControlError)
    (unobserved : firstFailure platforms r=some error) :
    auditedOutcome supervisorInstanceId appends unixMilliseconds journal appended
      configFingerprint action serviceId actor reason platforms r=
      (.error error,r.services[serviceId]?,[]) := by
  unfold firstFailure at unobserved
  cases seen : ServiceRegistry.snapshots (platforms 0) r with
  | ok services => simp [seen] at unobserved
  | error failure =>
    simp only [seen,Option.some.injEq] at unobserved
    subst unobserved
    have looked : (registryControl platforms).snapshots.run ⟨r,0,[]⟩=
        .error (controlError failure) ⟨r,1,[]⟩ := by
      show (observe (ServiceRegistry.snapshots (platforms 0))).run ⟨r,0,[]⟩=_
      rw [run_observe]
      simp only [seen]
    unfold auditedOutcome
    simp only
    rw [run_mutate_unobserved _ _ _ _ _ _ _ _ looked]
    rfl

theorem auditedOutcome_observed (observed : firstFailure platforms r=none) :
    auditedOutcome supervisorInstanceId appends unixMilliseconds journal appended
      configFingerprint action serviceId actor reason platforms r=
      (let view := ServiceRegistry.view serviceId ((ServiceRegistry.mutate (platforms 1 serviceId)
        action serviceId actor reason).run ⟨r,[]⟩)
      (match journalFailure appends journal appended with
        | some error => .error error
        | none => view.1,view.2)) := by
  unfold firstFailure at observed
  cases seen : ServiceRegistry.snapshots (platforms 0) r with
  | error error => simp [seen] at observed
  | ok services =>
    have looked : (registryControl platforms).snapshots.run ⟨r,0,[]⟩=.ok services ⟨r,1,[]⟩ := by
      show (observe (ServiceRegistry.snapshots (platforms 0))).run ⟨r,0,[]⟩=_
      rw [run_observe]
      simp only [seen]
    have taken := final_registryControl_mutate platforms action serviceId actor reason
      (⟨r,1,[]⟩ : ServedRegistry P E Q)
    have applied := final_mutate (platforms 1 serviceId) action serviceId actor reason r
    have answers : answer (((registryControl platforms).mutate action serviceId actor reason).run
        ⟨r,1,[]⟩)=answer ((ServiceRegistry.mutate (platforms 1 serviceId) action serviceId actor
          reason).run ⟨r,[]⟩) := by
      rw [run_registryControl_mutate]
      cases (ServiceRegistry.mutate (platforms 1 serviceId) action serviceId actor reason).run
        ⟨r,[]⟩ <;> rfl
    obtain ⟨answered,left⟩ := run_mutate_observed
      (⟨registryControl platforms,supervisorInstanceId,appends,unixMilliseconds⟩ :
        AuditedControl (ServedRegistry P E Q)) action serviceId actor reason
      ⟨⟨r,0,[]⟩,journal,appended,configFingerprint⟩ services ⟨r,1,[]⟩ looked
    unfold auditedOutcome
    simp only
    rw [answered,left,taken,answers]
    simp only [ServiceRegistry.view,applied]
    show (_,(final ((observe (ServiceRegistry.snapshots (platforms 2))).run _)).registry.services[serviceId]?,
      (final ((observe (ServiceRegistry.snapshots (platforms 2))).run _)).steps.flatMap _)=_
    rw [final_observe]
    simp only [take,List.nil_append,List.flatMap_singleton,RegistryOp.calls,RegistryOp.target,
      if_true]
    rfl

/-- Two registries, with what the platform answers about them, that are alike for a service. -/
def AgreeOn (platforms₁ platforms₂ : Nat → String → Platform P E Q) (r₁ r₂ : ServiceRegistry P)
    (id : String) : Prop :=
  r₁.services[id]?=r₂.services[id]? ∧ ∀n,platforms₁ n id=platforms₂ n id

/-- An audited mutation that was not let through differs from one that was. -/
theorem auditedOutcome_differs (platforms₁ platforms₂ : Nat → String → Platform P E Q)
    (r₁ r₂ : ServiceRegistry P) (sound : r₁.Sound) (error : ControlError)
    (observed : firstFailure platforms₁ r₁=none)
    (unobserved : firstFailure platforms₂ r₂=some error) :
    auditedOutcome supervisorInstanceId appends unixMilliseconds journal appended
        configFingerprint action serviceId actor reason platforms₁ r₁≠
      auditedOutcome supervisorInstanceId appends unixMilliseconds journal appended
        configFingerprint action serviceId actor reason platforms₂ r₂ := by
  have lost : error.kind=.ownershipLost := by
    unfold firstFailure at unobserved
    cases seen : ServiceRegistry.snapshots (platforms₂ 0) r₂ with
    | ok services => simp [seen] at unobserved
    | error failure =>
      simp only [seen,Option.some.injEq] at unobserved
      obtain ⟨cause,rfl⟩ := ServiceRegistry.snapshots_error _ r₂ failure seen
      rw [← unobserved]
      rfl
  rw [auditedOutcome_observed _ _ _ _ _ _ _ _ _ _ _ _ observed,
    auditedOutcome_unobserved _ _ _ _ _ _ _ _ _ _ _ _ _ unobserved]
  intro same
  simp only [ServiceRegistry.view,Prod.mk.injEq] at same
  obtain ⟨answers,-,calls⟩ := same
  cases failed : journalFailure appends journal appended with
  | some failure =>
    simp only [failed,Except.error.injEq] at answers
    obtain ⟨cause,-,rfl⟩ := Option.map_eq_some_iff.mp failed
    rw [← answers] at lost
    cases lost
  | none =>
    simp only [failed] at answers
    exact ServiceRegistry.mutate_lostLate (platforms₁ 1 serviceId) action serviceId actor reason r₁
      sound error answers lost calls

/-- Audited mutations of a service in states that are alike for it are alike exactly when the first
looks at all services fail alike: in neither state, or in both with the same error. Where they fail in
both, the service is acted on in neither. -/
theorem auditedOutcome_isolated_iff (platforms₁ platforms₂ : Nat → String → Platform P E Q)
    (r₁ r₂ : ServiceRegistry P) (reachable₁ : RegistryOp.Reachable E Q r₁)
    (reachable₂ : RegistryOp.Reachable E Q r₂)
    (agree : AgreeOn platforms₁ platforms₂ r₁ r₂ serviceId) :
    auditedOutcome supervisorInstanceId appends unixMilliseconds journal appended
        configFingerprint action serviceId actor reason platforms₁ r₁=
      auditedOutcome supervisorInstanceId appends unixMilliseconds journal appended
        configFingerprint action serviceId actor reason platforms₂ r₂ ↔
      firstFailure platforms₁ r₁=firstFailure platforms₂ r₂ := by
  obtain ⟨entries,answers⟩ := agree
  cases first : firstFailure platforms₁ r₁ with
  | none =>
    cases second : firstFailure platforms₂ r₂ with
    | none =>
      have views := ServiceRegistry.view_mutate (platforms₁ 1 serviceId) action serviceId actor
        reason r₁ r₂ entries
      rw [auditedOutcome_observed _ _ _ _ _ _ _ _ _ _ _ _ first,
        auditedOutcome_observed _ _ _ _ _ _ _ _ _ _ _ _ second,← answers 1,views]
      simp
    | some error =>
      have differs := auditedOutcome_differs supervisorInstanceId appends unixMilliseconds journal
        appended configFingerprint action serviceId actor reason platforms₁ platforms₂ r₁ r₂
        reachable₁.sound error first second
      simpa using differs
  | some error =>
    cases second : firstFailure platforms₂ r₂ with
    | none =>
      have differs := auditedOutcome_differs supervisorInstanceId appends unixMilliseconds journal
        appended configFingerprint action serviceId actor reason platforms₂ platforms₁ r₂ r₁
        reachable₂.sound error second first
      simpa using differs.symm
    | some error' =>
      rw [auditedOutcome_unobserved _ _ _ _ _ _ _ _ _ _ _ _ _ first,
        auditedOutcome_unobserved _ _ _ _ _ _ _ _ _ _ _ _ _ second,entries]
      simp

section Fixture

/-- A running worker next to a service that is down. -/
def fixtureNeighbours : ServiceRegistry Nat :=
  (RegistryOp.request fixturePlatform .start "worker" .userCli fixtureReason).step
    (fixtureRegistry [fixture "api" "Api",fixture "worker" "Worker"])

theorem reachable_fixtureNeighbours : RegistryOp.Reachable Unit Unit fixtureNeighbours :=
  .step _ _ (.new [fixture "api" "Api",fixture "worker" "Worker"] _ _ rfl)

/-- The processes of the worker cannot be listed. -/
def workerUnseen (_ : Nat) (id : String) : Platform Nat Unit Unit :=
  if id="worker" then { fixturePlatform with ownedProcesses := fun _ => .error () }
  else fixturePlatform

theorem agreeOn_fixture :
    AgreeOn (fun _ _ => fixturePlatform) workerUnseen fixtureNeighbours fixtureNeighbours
      "api" := ⟨rfl,fun _ => rfl⟩

theorem auditedOutcome_isolated_fixture :
    auditedOutcome "1-0" (fun _ => .durable) (fun _ => 0) ⟨⟨"journal.jsonl",1,[]⟩,[]⟩ 0 "sha256:0"
        .start "api" .userCli fixtureReason (fun _ _ => fixturePlatform) fixtureNeighbours=
      auditedOutcome "1-0" (fun _ => .durable) (fun _ => 0) ⟨⟨"journal.jsonl",1,[]⟩,[]⟩ 0
        "sha256:0" .start "api" .userCli fixtureReason workerUnseen fixtureNeighbours ↔
      firstFailure (fun _ _ => fixturePlatform) fixtureNeighbours=
        firstFailure workerUnseen fixtureNeighbours :=
  auditedOutcome_isolated_iff _ _ _ _ _ _ _ _ _ _ _ _ _ _ reachable_fixtureNeighbours
    reachable_fixtureNeighbours agreeOn_fixture

/-- A worker whose processes cannot be listed keeps another service from being started. -/
theorem start_blocked_by_neighbour :
    ¬∀(supervisorInstanceId : String) (appends : Nat → AppendAnswer)
      (unixMilliseconds : Nat → Nat) (journal : JournalSys) (appended : Nat)
      (configFingerprint : String) (action : ControlAction) (serviceId : String) (actor : Actor)
      (reason : Reason) (platforms₁ platforms₂ : Nat → String → Platform Nat Unit Unit)
      (r₁ r₂ : ServiceRegistry Nat),RegistryOp.Reachable Unit Unit r₁ →
      RegistryOp.Reachable Unit Unit r₂ →
      (∀id,Relation.ReflTransGen r₁.DependsOn serviceId id →
        AgreeOn platforms₁ platforms₂ r₁ r₂ id) →
      auditedOutcome supervisorInstanceId appends unixMilliseconds journal appended
          configFingerprint action serviceId actor reason platforms₁ r₁=
        auditedOutcome supervisorInstanceId appends unixMilliseconds journal appended
          configFingerprint action serviceId actor reason platforms₂ r₂ := by
  intro claim
  have alone : fixtureNeighbours.services["api"]?.map (·.registration.dependencies)=some [] := by
    decide +kernel
  have seen : firstFailure (fun _ _ => fixturePlatform) fixtureNeighbours=none := by
    decide +kernel
  have unseen : firstFailure workerUnseen fixtureNeighbours=
      some ⟨.ownershipLost,"process observation failed: ()"⟩ := by decide +kernel
  have agree : ∀id,Relation.ReflTransGen fixtureNeighbours.DependsOn "api" id →
      AgreeOn (fun _ _ => fixturePlatform) workerUnseen fixtureNeighbours fixtureNeighbours id := by
    intro id path
    rcases Relation.ReflTransGen.cases_head path with rfl|⟨dependency,⟨e,here,depends⟩,-⟩
    · exact agreeOn_fixture
    · rw [here,Option.map_some,Option.some.injEq] at alone
      rw [alone] at depends
      cases depends
  exact auditedOutcome_differs _ _ _ _ _ _ _ _ _ _ _ _ _ _
    reachable_fixtureNeighbours.sound _ seen unseen
    (claim "1-0" (fun _ => .durable) (fun _ => 0) ⟨⟨"journal.jsonl",1,[]⟩,[]⟩ 0 "sha256:0" .start
      "api" .userCli fixtureReason _ _ _ _ reachable_fixtureNeighbours reachable_fixtureNeighbours
      agree)

end Fixture

end Isolation

end AkuSupervisor

import AkuSupervisor.Application.ServedRegistry
import AkuSupervisor.Application.ObligingPlatform

namespace AkuSupervisor

open StateError ServiceRuntime

namespace ServiceEntry

variable {P E Q : Type}

/-- The service owns a tree that is up. -/
def Up (e : ServiceEntry P) : Prop :=
  e.runtime.process.isSome=true ∧ (e.runtime.lifecycle=.running ∨ e.runtime.lifecycle=.unhealthy)
  deriving Decidable

/-- The service still owns a tree after a stop that failed or has not ended. -/
def Stuck (e : ServiceEntry P) : Prop :=
  e.runtime.process.isSome=true ∧
    (e.runtime.lifecycle=.failed ∨ e.runtime.lifecycle=.terminationPending)
  deriving Decidable

theorem up_or_stuck (e : ServiceEntry P) (rest : Consistent e.runtime)
    (owner : e.runtime.process.isSome=true) : e.Up ∨ e.Stuck := by
  rcases rest with idle|⟨process,-,lifecycle⟩
  · simp [idle.1] at owner
  · rcases lifecycle with up|up|stuck|stuck
    · exact .inl ⟨owner,.inl up⟩
    · exact .inl ⟨owner,.inr up⟩
    · exact .inr ⟨owner,.inl stuck⟩
    · exact .inr ⟨owner,.inr stuck⟩

theorem Stuck.not_up {e : ServiceEntry P} (h : e.Stuck) : ¬e.Up := by
  intro up
  rcases h.2 with stuck|stuck <;> rcases up.2 with running|running <;>
    simp [stuck] at running

/-- A start that returns `Ok` leaves the service up, or finds an owner and leaves it as it is. -/
theorem start_ok (platform : Platform P E Q) (actor : Actor) (reason : Reason)
    (e : ServiceEntry P) (rest : Consistent e.runtime) (outcome : StartOutcome)
    (t : EntrySys P E) (ran : (start platform actor reason).run ⟨e,[]⟩=.ok outcome t) :
    e.Admits actor .start ∧ (e.runtime.process=none ∧ t.entry.Up ∨
      t.entry=e ∧ e.runtime.process.isSome=true) := by
  have cases := start_cases platform actor reason e rest
  rw [ran] at cases
  cases cases with
  | alreadyRunning process admits owner => exact ⟨admits,.inr ⟨rfl,by simp [owner]⟩⟩
  | launched _ admits vacant prepared launch =>
    cases launch with
    | ready process e' answer quiet running =>
      exact ⟨admits,.inl ⟨vacant,by simp [running],by simp [running]⟩⟩

end ServiceEntry

section Starts

open ServedRegistry

variable {P E Q : Type} [ToString E] [ToString Q]

/-- What starts of `ids` that all returned `Ok` have done, from `s` to `t`. -/
structure Advanced (actor : Actor) (ids : List String) (s t : ServedRegistry P E Q) : Prop where
  sound : t.registry.Sound
  started : ∀id∈ids,∃e e',s.registry.services[id]?=some e ∧ t.registry.services[id]?=some e' ∧
    e.Admits actor .start ∧
      (e.runtime.process=none ∧ e'.Up ∨ e'=e ∧ e.runtime.process.isSome=true)
  others : ∀id∉ids,t.registry.services[id]?=s.registry.services[id]?
  steps : ∀step∈t.steps,step∈s.steps ∨ step.1.Sound ∧ ∃id∈ids,step.2.target=some id

omit [ToString E] [ToString Q] in
theorem take_request (platform : Platform P E Q) (action : LifecycleAction) (serviceId : String)
    (actor : Actor) (reason : Reason) (s : ServedRegistry P E Q) (sound : s.registry.Sound) :
    (s.take (.request platform action serviceId actor reason)).registry.Sound ∧
    (∀id,id≠serviceId →
      (s.take (.request platform action serviceId actor reason)).registry.services[id]?=
        s.registry.services[id]?) ∧
    ∀step∈(s.take (.request platform action serviceId actor reason)).steps,
      step∈s.steps ∨ step=(s.registry,.request platform action serviceId actor reason) := by
  refine ⟨RegistryOp.sound_step _ _ sound,fun id other => ?_,fun step mem => ?_⟩
  · rw [take,RegistryOp.lookup_request,if_neg (Ne.symm other)]
  · simpa [take] using mem

theorem passes_advanced {platforms : Nat → String → Platform P E Q} {actor : Actor}
    {reason : Reason} {started : List (String × ControlMutationResult)}
    {s t : ServedRegistry P E Q}
    (starts : Passes (fun id => (registryControl platforms).mutate .start id actor reason) started s t)
    (sound : s.registry.Sound) (nodup : (started.map Prod.fst).Nodup) :
    Advanced actor (started.map Prod.fst) s t := by
  induction starts with
  | nil s => exact ⟨sound,by simp,fun _ _ => rfl,fun step mem => .inl mem⟩
  | cons x result started s t u head tail ih =>
    rw [List.map_cons,List.nodup_cons] at nodup
    have taken := final_registryControl_mutate platforms .start x actor reason s
    rw [head,final_ok] at taken
    obtain ⟨sound',kept,steps⟩ := take_request (platforms s.answered x) .start x actor reason s
      sound
    rw [ControlAction.lifecycle] at taken
    rw [← taken] at sound' kept steps
    have rest := ih sound' nodup.2
    obtain ⟨e,outcome,v,here,ran,after⟩ := registryControl_start_ok platforms x actor reason s t result
      head
    obtain ⟨admits,up⟩ := ServiceEntry.start_ok _ actor reason e (sound.consistent x e here)
      outcome v ran
    refine ⟨rest.sound,fun id mem => ?_,fun id absent => ?_,fun step mem => ?_⟩
    · rcases List.mem_cons.mp mem with rfl|later
      · refine ⟨e,v.entry,here,?_,admits,up⟩
        rw [rest.others id nodup.1,after]
      · have other : id≠x := by
          intro same
          subst same
          exact nodup.1 later
        rw [← kept id other]
        exact rest.started id later
    · rw [List.map_cons,List.mem_cons,not_or] at absent
      rw [rest.others id absent.2,kept id absent.1]
    · rcases rest.steps step mem with earlier|⟨sound,id,later,target⟩
      · rcases steps step earlier with old|rfl
        · exact .inl old
        · exact .inr ⟨sound,x,by simp,rfl⟩
      · exact .inr ⟨sound,id,by simp [later],target⟩

end Starts

namespace ServiceRegistry

open ServedRegistry

section Launches

variable {P E Q : Type} [ToString E] [ToString Q]

/-- What the configuration check promises of a topology. -/
structure Valid (r : ServiceRegistry P) : Prop where
  registered : ∀id dependency,r.DependsOn id dependency → dependency∈r.services
  acyclic : ∀id,¬Relation.TransGen r.DependsOn id id

omit [ToString E] [ToString Q] in
theorem Valid.mem {r : ServiceRegistry P} (h : r.Valid) {target id : String}
    (here : target∈r.services) (path : Relation.ReflTransGen r.DependsOn target id) :
    id∈r.services := by
  rcases Relation.ReflTransGen.cases_tail path with rfl|⟨before,-,edge⟩
  · exact here
  · exact h.registered before id edge

/-- The steps a dependency-aware action takes, each with the registry it is taken from. -/
def launchSteps (platforms : Nat → String → Platform P E Q) (action : ControlAction)
    (target : String) (actor : Actor) (reason : Reason) (r : ServiceRegistry P) :
    List (ServiceRegistry P × RegistryOp P E Q) :=
  (final (((DependencyAwareControl.new (registryControl platforms)).mutate action target actor
    reason).run ⟨r,0,[]⟩)).steps

/-- Whenever the launcher is invoked for the target, all it depends on is owned and up. -/
def LaunchWaits (E Q : Type) [ToString E] [ToString Q] (action : ControlAction)
    (target : String) (actor : Actor) (reason : Reason) (r : ServiceRegistry P) : Prop :=
  ∀(platforms : Nat → String → Platform P E Q),
    ∀step∈launchSteps platforms action target actor reason r,∀launch answer,
      .spawn target launch answer∈(step.2.apply step.1).calls →
      ∀id,Relation.TransGen r.DependsOn target id →
        ∃e,step.1.services[id]?=some e ∧ e.Up

variable (platforms : Nat → String → Platform P E Q) (action : ControlAction) (target : String)
  (actor : Actor) (reason : Reason) (r : ServiceRegistry P)

omit [ToString E] [ToString Q] in
theorem dependsOn_snapshots (sound : r.Sound) (snapshots : List ServiceSnapshot)
    (platforms : String → Platform P E Q)
    (seen : ServiceRegistry.snapshots platforms r=.ok snapshots) :
    (snapshots.map (·.id)).Nodup ∧ AkuSupervisor.DependsOn snapshots=r.DependsOn := by
  obtain ⟨ids,same⟩ := snapshots_ok platforms r sound snapshots seen
  refine ⟨by rw [ids]; exact Std.ExtTreeMap.nodup_keys,?_⟩
  funext id dependency
  exact propext (same id dependency)

/-- Up to the first start, the registry has only been looked at. -/
theorem prepared_registry (sound : r.Sound) {order : List String} {t : ServedRegistry P E Q}
    (prepared : DependencyAwareControl.Prepared (.new (registryControl platforms)) action target
      ⟨r,0,[]⟩ order t) :
    t.registry=r ∧ t.steps=[] ∧ ∃dependencies,order.take (order.length-1)=dependencies ∧
      (dependencies++[target]).Nodup ∧
      ∀id,id∈dependencies ↔ Relation.TransGen r.DependsOn target id := by
  obtain ⟨snapshots,_,checked,t,u,seen,plan,all,checks⟩ := prepared
  obtain ⟨shown,registry,steps⟩ := observe_ok _ _ t _ seen
  obtain ⟨registry',steps'⟩ := passes_preflight checks
  have silent : (DependencyAwareControl.new (registryControl platforms)).announce action target
      snapshots order u=u := by
    unfold DependencyAwareControl.announce
    split_ifs <;> rfl
  rw [silent,registry',steps',registry,steps]
  obtain ⟨unique,same⟩ := dependsOn_snapshots r sound snapshots _ shown
  obtain ⟨dependencies,rfl,sorted⟩ := stableStartOrder_target snapshots unique target order plan
  refine ⟨rfl,rfl,dependencies,by simp,sorted.nodup,?_⟩
  rw [← same]
  exact sorted.exact

/-- Some of the dependencies, as the plan has started them from a sound registry. -/
theorem prepared_advanced (sound : r.Sound) {order : List String} {t u : ServedRegistry P E Q}
    (prepared : DependencyAwareControl.Prepared (.new (registryControl platforms)) action target
      ⟨r,0,[]⟩ order t) {started : List (String × ControlMutationResult)}
    (starts : Passes (fun id => (registryControl platforms).mutate .start id actor reason)
      started t u) (nodup : (started.map Prod.fst).Nodup) :
    Advanced actor (started.map Prod.fst) ⟨r,0,[]⟩ u := by
  obtain ⟨registry,steps,-⟩ := prepared_registry platforms action target r sound prepared
  have advanced := passes_advanced starts (by rwa [registry]) nodup
  exact ⟨advanced.sound,by simpa [registry] using advanced.started,
    by simpa [registry] using advanced.others,by simpa [steps] using advanced.steps⟩

omit [ToString E] [ToString Q] in
/-- Only a request for the target itself invokes the launcher for it. -/
theorem spawn_target {step : ServiceRegistry P × RegistryOp P E Q} (sound : step.1.Sound)
    {launch : LaunchSpec} {answer : Except E P}
    (spawned : .spawn target launch answer∈(step.2.apply step.1).calls) :
    step.2.target=some target := by
  have mine := RegistryOp.spawn_calls step.2 step.1 sound target launch answer spawned
  rw [RegistryOp.calls] at mine
  split_ifs at mine with named
  · exact named
  · simp at mine

omit [ToString E] [ToString Q] in
/-- Starts of other services never invoke the launcher for the target. -/
theorem advanced_no_spawn {ids : List String} {s : ServedRegistry P E Q}
    (h : Advanced actor ids ⟨r,0,[]⟩ s) (absent : target∉ids)
    {step : ServiceRegistry P × RegistryOp P E Q} (mem : step∈s.steps) {launch : LaunchSpec}
    {answer : Except E P} : .spawn target launch answer∉(step.2.apply step.1).calls := by
  intro spawned
  rcases h.steps step mem with old|⟨sound,id,known,about⟩
  · simp at old
  · have named := spawn_target target sound spawned
    rw [about] at named
    cases named
    exact absent known

/-- When the launcher is invoked for the target, its dependencies have all been started, and the
target is still as it was and accepts the action. -/
theorem launched_after (sound : r.Sound) (launches : action≠.stop)
    {step : ServiceRegistry P × RegistryOp P E Q}
    (mem : step∈launchSteps platforms action target actor reason r) {launch : LaunchSpec}
    {answer : Except E P} (spawned : .spawn target launch answer∈(step.2.apply step.1).calls) :
    ∃dependencies,(∀id,id∈dependencies ↔ Relation.TransGen r.DependsOn target id) ∧
      (∃s : ServedRegistry P E Q,s.registry=step.1 ∧ Advanced actor dependencies ⟨r,0,[]⟩ s) ∧
      ∃platform : Platform P E Q,∃e,r.services[target]?=some e ∧
        e.Accepts platform actor action.lifecycle := by
  have planned := (DependencyAwareControl.new (registryControl platforms)).mutate_planned action
    target actor reason ⟨r,0,[]⟩ launches
  unfold launchSteps at mem
  generalize ((DependencyAwareControl.new (registryControl platforms)).mutate action target actor
    reason).run ⟨r,0,[]⟩=result at planned mem
  cases planned with
  | unobserved error t fails =>
    obtain ⟨-,steps⟩ := observe_error _ _ t error fails
    rw [final_error,steps] at mem
    simp at mem
  | unplanned snapshots error t seen fails =>
    obtain ⟨-,-,steps⟩ := observe_ok _ _ t _ seen
    rw [final_error,steps] at mem
    simp at mem
  | unprepared snapshots order checked launchId after error t u v seen plan split checks fails =>
    obtain ⟨-,-,steps⟩ := observe_ok _ _ t _ seen
    obtain ⟨-,steps'⟩ := passes_preflight checks
    obtain ⟨-,steps''⟩ := observe_error _ _ v error fails
    rw [final_error,steps'',steps',steps] at mem
    simp at mem
  | unstarted order started dependency after error t u v prepared split starts fails =>
    obtain ⟨-,-,dependencies,planned,nodup,-⟩ :=
      prepared_registry platforms action target r sound prepared
    rw [← planned,split,List.append_assoc] at nodup
    obtain ⟨startedNodup,restNodup,apart⟩ := List.nodup_append.mp nodup
    have advanced := prepared_advanced platforms action target actor reason r sound prepared starts
      startedNodup
    have absent : target∉started.map Prod.fst := fun earlier =>
      apart target earlier target (by simp) rfl
    have other : dependency≠target := by
      intro same
      subst same
      simp at restNodup
    have taken := final_registryControl_mutate platforms .start dependency actor reason u
    rw [show ((registryControl platforms).mutate .start dependency actor reason).run u=
      .error error v from fails,final_error] at taken
    rw [final_error,taken] at mem
    rcases (take_request _ _ _ _ _ u advanced.sound).2.2 step mem with earlier|rfl
    · exact absurd spawned (advanced_no_spawn target actor r advanced absent earlier)
    · have named := spawn_target target advanced.sound spawned
      exact absurd (Option.some.inj named) other
  | reached order started t u prepared all starts =>
    obtain ⟨-,-,dependencies,planned,nodup,exact⟩ :=
      prepared_registry platforms action target r sound prepared
    rw [← all] at planned
    subst planned
    obtain ⟨startedNodup,-,apart⟩ := List.nodup_append.mp nodup
    have absent : target∉started.map Prod.fst := fun here => apart target here target (by simp) rfl
    have advanced := prepared_advanced platforms action target actor reason r sound prepared starts
      startedNodup
    have taken := final_registryControl_mutate platforms action target actor reason u
    rw [show (DependencyAwareControl.new (registryControl platforms)).inner=
      registryControl platforms from rfl,taken] at mem
    rcases (take_request _ _ _ _ _ u advanced.sound).2.2 step mem with earlier|rfl
    · exact absurd spawned (advanced_no_spawn target actor r advanced absent earlier)
    · refine ⟨started.map Prod.fst,exact,⟨u,rfl,advanced⟩,?_⟩
      have mine := RegistryOp.spawn_calls _ u.registry advanced.sound target launch answer spawned
      obtain ⟨-,platform,action',actor',reason',e,request,here,-,accepts⟩ :=
        (RegistryOp.turn _ u.registry advanced.sound target).spawn
          (fun e found => advanced.sound.keyed target e found) target launch answer mine
      cases request
      rw [advanced.others target absent] at here
      exact ⟨_,e,here,accepts⟩

/-- Without a stuck dependency every launch waits. -/
theorem launchWaits_of_not_stuck (sound : r.Sound) (launches : action≠.stop)
    (free : ∀id,Relation.TransGen r.DependsOn target id →
      ∀e,r.services[id]?=some e → ¬e.Stuck) :
    LaunchWaits E Q action target actor reason r := by
  intro platforms step mem launch answer spawned id path
  obtain ⟨dependencies,exact,⟨s,same,advanced⟩,-⟩ :=
    launched_after platforms action target actor reason r sound launches mem spawned
  obtain ⟨e,e',before,after,-,up⟩ := advanced.started id ((exact id).mpr path)
  rw [← same]
  refine ⟨e',after,?_⟩
  rcases up with ⟨-,up⟩|⟨rfl,owner⟩
  · exact up
  · rcases e'.up_or_stuck (sound.consistent id e' before) owner with up|stuck
    · exact up
    · exact absurd stuck (free id path e' before)

/-- A planned service does not let in the request that the plan makes of it. -/
def PlanRefused (action : ControlAction) (target : String) (actor : Actor)
    (r : ServiceRegistry P) : Prop :=
  ∃id e,Relation.ReflTransGen r.DependsOn target id ∧ r.services[id]?=some e ∧
    ¬e.Admits actor (if id=target then action.lifecycle else .start)

/-- A refused plan never gets to the launcher for the target. -/
theorem launchWaits_of_refused (sound : r.Sound) (valid : r.Valid) (launches : action≠.stop)
    (refused : PlanRefused action target actor r) :
    LaunchWaits E Q action target actor reason r := by
  intro platforms step mem launch answer spawned
  obtain ⟨dependencies,exact,⟨s,same,advanced⟩,platform,e,here,accepts⟩ :=
    launched_after platforms action target actor reason r sound launches mem spawned
  obtain ⟨id,e',path,known,denied⟩ := refused
  rcases Relation.reflTransGen_iff_eq_or_transGen.mp path with rfl|path
  · rw [if_pos rfl] at denied
    cases here.symm.trans known
    have lifecycle := mt action.lifecycle_eq_stop.mp launches
    exact absurd (accepts.admits lifecycle) denied
  · have other : id≠target := by
      intro same
      subst same
      exact valid.acyclic id path
    rw [if_neg other] at denied
    obtain ⟨e'',-,before,-,admits,-⟩ := advanced.started id ((exact id).mpr path)
    cases known.symm.trans before
    exact absurd admits denied

theorem launchWaits_of_owner (sound : r.Sound) (e : ServiceEntry P)
    (here : r.services[target]?=some e) (owner : e.runtime.process≠none) :
    LaunchWaits E Q .start target actor reason r := by
  intro platforms step mem launch answer spawned
  obtain ⟨-,-,-,platform,e',here',accepts⟩ :=
    launched_after platforms .start target actor reason r sound (by decide) mem spawned
  cases here.symm.trans here'
  exact absurd accepts.2.1 owner

section Obliging

variable (process : P)

omit [ToString E] [ToString Q] in
theorem obliging_snapshots :
    ∃snapshots,ServiceRegistry.snapshots (fun _ => (obliging process : Platform P E Q)) r=
      .ok snapshots := by
  have each : ∀e : ServiceEntry P,∃snapshot,
      e.snapshot (obliging process : Platform P E Q)=.ok snapshot := by
    intro e
    unfold ServiceEntry.snapshot
    cases e.runtime.process <;> exact ⟨_,rfl⟩
  unfold ServiceRegistry.snapshots
  generalize r.services.toList=services
  induction services with
  | nil => exact ⟨[],rfl⟩
  | cons service services ih =>
    obtain ⟨snapshot,seen⟩ := each service.2
    obtain ⟨snapshots,rest⟩ := ih
    refine ⟨snapshot::snapshots,?_⟩
    rw [List.mapM_cons,seen,rest]
    rfl

omit [ToString E] [ToString Q] in
theorem obliging_preflight (id : String) (here : id∈r.services) :
    ServiceRegistry.preflightLaunches (fun _ => (obliging process : Platform P E Q)) [id] r=
      .ok () := by
  obtain ⟨e,found⟩ := (ServiceMap.mem_iff r.services id).mp here
  refine forM_ok _ _ fun x mem => ?_
  rw [List.mem_singleton.mp mem,found]
  rfl

theorem obliging_mutate_start (s : ServedRegistry P E Q) (id : String) (e : ServiceEntry P)
    (every : ∀n id,platforms n id=obliging process) (here : s.registry.services[id]?=some e)
    (rest : Consistent e.runtime) (admits : e.Admits actor .start) (error : ControlError)
    (t : ServedRegistry P E Q) :
    ((registryControl platforms).mutate .start id actor reason).run s≠.error error t := by
  intro fails
  have starts := ServiceEntry.obliging_start (E := E) (Q := Q) process actor reason e rest admits
  rw [run_registryControl_mutate] at fails
  unfold ServiceRegistry.mutate at fails
  rw [run_adaptExcept,run_map,ServiceRegistry.start,run_withEntry,every] at fails
  simp only [here] at fails
  cases started : (ServiceEntry.start (obliging process : Platform P E Q) actor reason).run
      ⟨e,[]⟩ with
  | ok outcome u => simp [started] at fails
  | error error u => simp [started] at starts

omit [ToString E] [ToString Q] in
theorem valid_plan (valid : r.Valid) (sound : r.Sound) (here : target∈r.services)
    (snapshots : List ServiceSnapshot) (platforms : String → Platform P E Q)
    (seen : ServiceRegistry.snapshots platforms r=.ok snapshots) :
    ∃order,stableStartOrder snapshots [target]=.ok order := by
  obtain ⟨unique,same⟩ := dependsOn_snapshots r sound snapshots platforms seen
  obtain ⟨ids,-⟩ := snapshots_ok platforms r sound snapshots seen
  rw [stableStartOrder_isOk_iff snapshots unique target,same]
  intro id path
  have listed : id∈snapshots.map (·.id) := by
    rw [ids]
    exact Std.ExtTreeMap.mem_keys.mpr (valid.mem here path)
  exact ⟨List.mem_map.mp listed,valid.acyclic id⟩

/-- On obliging platforms nothing but a refusal keeps a plan from reaching its target. -/
theorem obliging_reaches (sound : r.Sound) (valid : r.Valid) (launches : action≠.stop)
    (here : target∈r.services) (admitted : ¬PlanRefused action target actor r)
    (every : ∀n id,platforms n id=obliging process) :
    ∃dependencies,(∀id,id∈dependencies ↔ Relation.TransGen r.DependsOn target id) ∧
      ∃s : ServedRegistry P E Q,Advanced actor dependencies ⟨r,0,[]⟩ s ∧
        (s.registry,RegistryOp.request (obliging process) action.lifecycle target actor reason)∈
          launchSteps platforms action target actor reason r := by
  have known : ∀id,Relation.TransGen r.DependsOn target id →
      ∃e,r.services[id]?=some e ∧ e.Admits actor .start := by
    intro id path
    have other : id≠target := by
      intro same
      subst same
      exact valid.acyclic id path
    obtain ⟨e,found⟩ := (ServiceMap.mem_iff _ _).mp (valid.mem here path.to_reflTransGen)
    refine ⟨e,found,?_⟩
    by_contra denied
    exact admitted ⟨id,e,path.to_reflTransGen,found,by rwa [if_neg other]⟩
  have uniform (n : Nat) : platforms n=fun _ => obliging process := funext (every n)
  have planned := (DependencyAwareControl.new (registryControl platforms)).mutate_planned action
    target actor reason ⟨r,0,[]⟩ launches
  unfold launchSteps
  generalize ((DependencyAwareControl.new (registryControl platforms)).mutate action target actor
    reason).run ⟨r,0,[]⟩=result at planned ⊢
  cases planned with
  | unobserved error t fails =>
    obtain ⟨⟨failure,fails⟩,-⟩ := observe_error _ _ t error fails
    obtain ⟨snapshots,seen⟩ := obliging_snapshots (E := E) (Q := Q) r process
    simp only [uniform,seen,reduceCtorEq] at fails
  | unplanned snapshots error t seen fails =>
    obtain ⟨shown,-,-⟩ := observe_ok _ _ t _ seen
    obtain ⟨order,plan⟩ := valid_plan target r valid sound here snapshots _ shown
    cases plan.symm.trans fails
  | unprepared snapshots order checked launchId after error t u v seen plan split checks fails =>
    obtain ⟨shown,registry,-⟩ := observe_ok _ _ t _ seen
    obtain ⟨registry',-⟩ := passes_preflight checks
    obtain ⟨⟨failure,fails⟩,-⟩ := observe_error _ _ v error fails
    obtain ⟨unique,same⟩ := dependsOn_snapshots r sound snapshots _ shown
    obtain ⟨dependencies,rfl,sorted⟩ := stableStartOrder_target snapshots unique target order plan
    have listed : launchId∈DependencyAwareControl.launchIds snapshots action target
        (dependencies++[target]) := by
      rw [split]
      simp
    have reached : Relation.ReflTransGen r.DependsOn target launchId := by
      rcases List.mem_append.mp (List.mem_filter.mp listed).1 with earlier|last
      · have path := (sorted.exact launchId).mp earlier
        rw [same] at path
        exact path.to_reflTransGen
      · rw [List.mem_singleton.mp last]
    have passes := obliging_preflight (E := E) (Q := Q) r process launchId (valid.mem here reached)
    rw [registry',registry,uniform] at fails
    cases passes.symm.trans fails
  | unstarted order started dependency after error t u v prepared split starts fails =>
    obtain ⟨-,-,dependencies,planned,nodup,exact⟩ :=
      prepared_registry platforms action target r sound prepared
    rw [← planned,split,List.append_assoc] at nodup
    obtain ⟨startedNodup,-,apart⟩ := List.nodup_append.mp nodup
    have advanced := prepared_advanced platforms action target actor reason r sound prepared starts
      startedNodup
    obtain ⟨e,found,admits⟩ := known dependency ((exact dependency).mp (by
      rw [← planned,split]
      simp))
    have absent : dependency∉started.map Prod.fst := fun earlier =>
      apart dependency earlier dependency (by simp) rfl
    rw [← advanced.others dependency absent] at found
    exact absurd fails (obliging_mutate_start platforms actor reason process u dependency e every
      found (advanced.sound.consistent dependency e found) admits error v)
  | reached order started t u prepared all starts =>
    obtain ⟨-,-,dependencies,planned,nodup,exact⟩ :=
      prepared_registry platforms action target r sound prepared
    rw [← all] at planned
    subst planned
    have advanced := prepared_advanced platforms action target actor reason r sound prepared starts
      (List.nodup_append.mp nodup).1
    have taken := final_registryControl_mutate platforms action target actor reason u
    rw [every] at taken
    refine ⟨started.map Prod.fst,exact,u,advanced,?_⟩
    rw [show (DependencyAwareControl.new (registryControl platforms)).inner=
      registryControl platforms from rfl,taken,take]
    simp

/-- A stuck dependency is taken for a started one: when nothing refuses the plan, the launcher can
be invoked for the target while the dependency is not up. -/
theorem not_launchWaits_of_stuck (sound : r.Sound) (valid : r.Valid) (launches : action≠.stop)
    (id : String) (path : Relation.TransGen r.DependsOn target id) (e : ServiceEntry P)
    (here : r.services[id]?=some e) (stuck : e.Stuck)
    (admitted : ¬PlanRefused action target actor r)
    (vacant : action=.start → ∀e,r.services[target]?=some e → e.runtime.process=none) :
    ¬LaunchWaits E Q action target actor reason r := by
  intro waits
  obtain ⟨process,-⟩ := Option.isSome_iff_exists.mp stuck.1
  obtain ⟨platforms,every⟩ : ∃platforms : Nat → String → Platform P E Q,
      ∀n id,platforms n id=obliging process := ⟨fun _ _ => obliging process,fun _ _ => rfl⟩
  obtain ⟨_,⟨e₀,found,-⟩,-⟩ := Relation.TransGen.head'_iff.mp path
  have registered : target∈r.services := (ServiceMap.mem_iff _ _).mpr ⟨e₀,found⟩
  obtain ⟨dependencies,exact,s,advanced,mem⟩ := obliging_reaches platforms action target actor
    reason r process sound valid launches registered admitted every
  have absent : target∉dependencies := fun known => valid.acyclic target ((exact target).mp known)
  have unmoved := advanced.others target absent
  have admits : e₀.Admits actor action.lifecycle := by
    by_contra denied
    exact admitted ⟨target,e₀,.refl,found,by rwa [if_pos rfl]⟩
  have lifecycle := mt action.lifecycle_eq_stop.mp launches
  obtain ⟨answer,spawned⟩ := ServiceEntry.obliging_spawn (E := E) (Q := Q) process actor reason e₀
    action.lifecycle lifecycle (sound.consistent target e₀ found) admits
    fun start => vacant (action.lifecycle_eq_start.mp start) e₀ found
  rw [sound.keyed target e₀ found] at spawned
  have invoked : .spawn target e₀.registration.launch answer∈
      ((RegistryOp.request (obliging process : Platform P E Q) action.lifecycle target actor
        reason).apply s.registry).calls := by
    rw [RegistryOp.apply,final_withEntry,unmoved,found]
    exact spawned
  obtain ⟨e',after,up⟩ := waits platforms _ mem e₀.registration.launch answer invoked id path
  obtain ⟨e₁,e₂,before,after',-,outcome⟩ := advanced.started id ((exact id).mpr path)
  cases here.symm.trans before
  cases after.symm.trans after'
  rcases outcome with ⟨vacant,-⟩|⟨rfl,-⟩
  · simp [vacant,ServiceEntry.Stuck] at stuck
  · exact stuck.not_up up

end Obliging

/-- Exactly when a start or restart never invokes the launcher before the target's dependencies
are up. -/
theorem launchWaits_iff (reachable : RegistryOp.Reachable E Q r) (valid : r.Valid)
    (launches : action≠.stop) :
    LaunchWaits E Q action target actor reason r ↔
      (∀id,Relation.TransGen r.DependsOn target id → ∀e,r.services[id]?=some e → ¬e.Stuck) ∨
        PlanRefused action target actor r ∨
        (action=.start ∧ ∃e,r.services[target]?=some e ∧ e.runtime.process≠none) := by
  have sound := reachable.sound
  constructor
  · intro waits
    by_contra otherwise
    simp only [not_or,not_forall,not_not] at otherwise
    obtain ⟨⟨id,path,e,here,stuck⟩,admitted,vacant⟩ := otherwise
    refine not_launchWaits_of_stuck action target actor reason r sound valid launches id path e here
      stuck admitted ?_ waits
    intro start e' found
    by_contra owner
    exact vacant ⟨start,e',found,owner⟩
  · intro h
    rcases h with free|refused|⟨rfl,e,here,owner⟩
    · exact launchWaits_of_not_stuck action target actor reason r sound launches free
    · exact launchWaits_of_refused action target actor reason r sound valid launches refused
    · exact launchWaits_of_owner target actor reason r sound e here owner

end Launches

theorem valid_of_rank {P : Type} (r : ServiceRegistry P) (rank : String → Nat)
    (down : ∀service∈r.services.toList,∀dependency∈service.2.registration.dependencies,
      dependency∈r.services ∧ rank dependency < rank service.1) : r.Valid := by
  have edge : ∀id dependency,r.DependsOn id dependency →
      dependency∈r.services ∧ rank dependency < rank id := by
    intro id dependency h
    obtain ⟨e,here,mem⟩ := h
    exact down (id,e) (Std.ExtTreeMap.mem_toList_iff_getElem?_eq_some.mpr here) dependency mem
  refine ⟨fun id dependency depends => (edge id dependency depends).1,fun id cycle => ?_⟩
  have lower : ∀a b,Relation.TransGen r.DependsOn a b → rank b < rank a := by
    intro a b path
    induction path with
    | single depends => exact (edge _ _ depends).2
    | tail _ depends ih => exact Nat.lt_trans (edge _ _ depends).2 ih
  exact Nat.lt_irrefl _ (lower id id cycle)

/-- A service that depends on another one. -/
def fixturePair : List ServiceRegistration :=
  [fixture "database" "Database",{ fixture "api" "Api" with dependencies := ["database"] }]

theorem launchWaits_pair :
    LaunchWaits Unit Unit .start "api" .userCli fixtureReason (fixtureRegistry fixturePair) ↔
      (∀id,Relation.TransGen (fixtureRegistry fixturePair).DependsOn "api" id →
        ∀e,(fixtureRegistry fixturePair).services[id]?=some e → ¬e.Stuck) ∨
      PlanRefused .start "api" .userCli (fixtureRegistry fixturePair) ∨
      (ControlAction.start=.start ∧ ∃e,(fixtureRegistry fixturePair).services["api"]?=some e ∧
        e.runtime.process≠none) :=
  launchWaits_iff .start "api" .userCli fixtureReason _ (.new fixturePair _ _ rfl)
    (valid_of_rank _ (fun id => if id="api" then 1 else 0) (by decide +kernel)) (by decide)

/-- While the database's stop is pending, the API is launched without it. -/
theorem launch_without_dependency :
    ¬∀(r : ServiceRegistry Nat) (action : ControlAction) (target : String) (actor : Actor)
      (reason : Reason),RegistryOp.Reachable Unit Unit r → r.Valid → action≠.stop →
      LaunchWaits Unit Unit action target actor reason r := by
  intro claim
  let pending : Platform Nat Unit Unit :=
    { fixturePlatform with stop := fun process _ => .ok ⟨[process],[process],true,none,true⟩ }
  let r := Run.final RegistryOp.step
    [.request fixturePlatform .start "database" .userCli fixtureReason,
      .request pending .stop "database" .userCli fixtureReason] (fixtureRegistry fixturePair)
  have reachable : RegistryOp.Reachable Unit Unit r :=
    .step _ _ (.step _ _ (.new fixturePair _ _ rfl))
  have valid : r.Valid :=
    valid_of_rank r (fun id => if id="api" then 1 else 0) (by decide +kernel)
  have api : r.services["api"]?.map (fun e => (e.registration.dependencies,e.runtime.process))=
      some (["database"],none) := by decide +kernel
  have database : r.services["database"]?.map (fun e => decide e.Stuck)=some true := by
    decide +kernel
  have admits : ∀service∈r.services.toList,service.2.Admits .userCli .start := by decide +kernel
  obtain ⟨a,foundApi,shape⟩ := Option.map_eq_some_iff.mp api
  obtain ⟨b,foundDatabase,stuck⟩ := Option.map_eq_some_iff.mp database
  rw [Prod.mk.injEq] at shape
  refine not_launchWaits_of_stuck .start "api" .userCli fixtureReason r reachable.sound valid
    (by decide) "database" (.single ⟨a,foundApi,by simp [shape.1]⟩) b foundDatabase
    (of_decide_eq_true stuck) ?_ ?_
    (claim r .start "api" .userCli fixtureReason reachable valid (by decide))
  · intro h
    obtain ⟨id,e,-,here,denied⟩ := h
    have start : (if id="api" then ControlAction.start.lifecycle else .start)=
        LifecycleAction.start := by
      split_ifs <;> rfl
    rw [start] at denied
    exact denied (admits (id,e) (Std.ExtTreeMap.mem_toList_iff_getElem?_eq_some.mpr here))
  · intro _ e here
    cases foundApi.symm.trans here
    exact shape.2

end ServiceRegistry

end AkuSupervisor

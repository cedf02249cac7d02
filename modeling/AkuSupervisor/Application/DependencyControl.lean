import Mathlib.Data.List.Induction
import AkuSupervisor.Lib.DependencyOrder
import AkuSupervisor.Lib.FailFast
import AkuSupervisor.Application.ControlApi

namespace AkuSupervisor

open StateError

/-- The snapshots by their service IDs. -/
def serviceById (snapshots : List ServiceSnapshot) : ServiceMap ServiceSnapshot :=
  snapshots.foldl (fun services snapshot => services.insert snapshot.id snapshot) ∅

theorem serviceById_concat (snapshots : List ServiceSnapshot) (snapshot : ServiceSnapshot)
    (id : String) :
    (serviceById (snapshots++[snapshot]))[id]?=
      if snapshot.id=id then some snapshot else (serviceById snapshots)[id]? := by
  rw [serviceById,List.foldl_append,List.foldl_cons,List.foldl_nil,ServiceMap.lookup_insert]
  rfl

theorem serviceById_mem (snapshots : List ServiceSnapshot) (id : String)
    (snapshot : ServiceSnapshot) (here : (serviceById snapshots)[id]?=some snapshot) :
    snapshot∈snapshots ∧ snapshot.id=id := by
  induction snapshots using List.reverseRecOn with
  | nil => simp [serviceById] at here
  | append_singleton snapshots last ih =>
    rw [serviceById_concat] at here
    split_ifs at here with same
    · cases here
      exact ⟨by simp,same⟩
    · exact ⟨List.mem_append_left _ (ih here).1,(ih here).2⟩

theorem serviceById_unique (snapshots : List ServiceSnapshot)
    (unique : (snapshots.map (·.id)).Nodup) (id : String) (snapshot : ServiceSnapshot) :
    (serviceById snapshots)[id]?=some snapshot ↔ snapshot∈snapshots ∧ snapshot.id=id := by
  refine ⟨serviceById_mem snapshots id snapshot,?_⟩
  intro h
  obtain ⟨mem,rfl⟩ := h
  induction snapshots using List.reverseRecOn with
  | nil => simp at mem
  | append_singleton snapshots last ih =>
    rw [List.map_append,List.map_singleton,List.nodup_append] at unique
    rw [serviceById_concat]
    rcases List.mem_append.mp mem with earlier|final
    · have differs : last.id≠snapshot.id := fun same =>
        unique.2.2 snapshot.id (List.mem_map_of_mem earlier) last.id (by simp) same.symm
      rw [if_neg differs]
      exact ih unique.1 earlier
    · cases List.mem_singleton.mp final
      rw [if_pos rfl]

/-- The services of the snapshots and what each of them depends on. -/
def dependencyGraph (snapshots : List ServiceSnapshot) : DependencyGraph String where
  registered := snapshots.map (·.id)
  dependencies := fun id => (serviceById snapshots)[id]?.map (·.dependsOn)
  closed := by
    intro id deps here
    obtain ⟨snapshot,found,-⟩ := Option.map_eq_some_iff.mp here
    obtain ⟨mem,rfl⟩ := serviceById_mem snapshots id snapshot found
    exact List.mem_map_of_mem mem

def planError : DependencyGraph.Failure String → ControlError
  | .missing serviceId => .serviceNotFound serviceId
  | .cycle serviceId => .internal s!"service dependency cycle reached at {serviceId}"

/-- Produces a stable topological order for requested services and their transitive dependencies. -/
def stableStartOrder (snapshots : List ServiceSnapshot) (requested : List String) :
    Except ControlError (List String) :=
  ((dependencyGraph snapshots).order requested).mapError planError

/-- One service names the other among its dependencies. -/
def DependsOn (snapshots : List ServiceSnapshot) (id dependency : String) : Prop :=
  ∃snapshot∈snapshots,snapshot.id=id ∧ dependency∈snapshot.dependsOn

/-- The transitive dependencies of a service, each of them after all that it depends on. -/
structure IsStartOrder (snapshots : List ServiceSnapshot) (serviceId : String)
    (dependencies : List String) : Prop where
  nodup : (dependencies++[serviceId]).Nodup
  exact : ∀id,id∈dependencies ↔ Relation.TransGen (DependsOn snapshots) serviceId id
  sorted : ∀before id after,dependencies++[serviceId]=before++id::after →
    ∀dependency,DependsOn snapshots id dependency → dependency∈before

theorem edge_dependencyGraph (snapshots : List ServiceSnapshot)
    (unique : (snapshots.map (·.id)).Nodup) :
    (dependencyGraph snapshots).Edge=DependsOn snapshots := by
  funext id dependency
  refine propext ⟨?_,?_⟩
  · intro h
    obtain ⟨deps,here,mem⟩ := h
    obtain ⟨snapshot,found,rfl⟩ := Option.map_eq_some_iff.mp here
    obtain ⟨known,named⟩ := serviceById_mem snapshots id snapshot found
    exact ⟨snapshot,known,named,mem⟩
  · intro h
    obtain ⟨snapshot,known,named,mem⟩ := h
    have found := (serviceById_unique snapshots unique id snapshot).mpr ⟨known,named⟩
    exact ⟨snapshot.dependsOn,by simp [dependencyGraph,found],mem⟩

theorem stableStartOrder_ok (snapshots : List ServiceSnapshot) (requested order : List String) :
    stableStartOrder snapshots requested=.ok order ↔
      (dependencyGraph snapshots).order requested=.ok order := by
  unfold stableStartOrder
  cases (dependencyGraph snapshots).order requested <;> simp [Except.mapError]

/-- One of the requested services is the given one or depends on it. -/
def Requires (snapshots : List ServiceSnapshot) (requested : List String) (id : String) : Prop :=
  ∃serviceId∈requested,Relation.ReflTransGen (DependsOn snapshots) serviceId id

/-- What a plan of requested services has to be: all they require, each after its dependencies,
and a request before a later one unless the earlier requests require that as well. -/
structure StartPlan (snapshots : List ServiceSnapshot) (requested order : List String) : Prop where
  nodup : order.Nodup
  exact : ∀id,id∈order ↔ Requires snapshots requested id
  sorted : ∀before id after,order=before++id::after →
    ∀dependency,DependsOn snapshots id dependency → dependency∈before
  stable : ∀first id middle later rest,requested=first++id::middle++later::rest →
    ¬Requires snapshots (first++[id]) later →
      ∃before between after,order=before++id::between++later::after

theorem dependencies_known (snapshots : List ServiceSnapshot)
    (unique : (snapshots.map (·.id)).Nodup) (id : String) :
    (dependencyGraph snapshots).dependencies id≠none ↔ ∃snapshot∈snapshots,snapshot.id=id := by
  rw [dependencyGraph,Option.ne_none_iff_exists']
  simp only [Option.map_eq_some_iff,serviceById_unique snapshots unique]
  constructor
  · intro h
    obtain ⟨-,snapshot,⟨mem,named⟩,-⟩ := h
    exact ⟨snapshot,mem,named⟩
  · intro h
    obtain ⟨snapshot,mem,named⟩ := h
    exact ⟨snapshot.dependsOn,snapshot,⟨mem,named⟩,rfl⟩

/-- Services can be planned exactly when all they require is there, without a cycle. -/
theorem stableStartOrder_isOk (snapshots : List ServiceSnapshot)
    (unique : (snapshots.map (·.id)).Nodup) (requested : List String) :
    (∃order,stableStartOrder snapshots requested=.ok order) ↔
      ∀id,Requires snapshots requested id →
        (∃snapshot∈snapshots,snapshot.id=id) ∧ ¬Relation.TransGen (DependsOn snapshots) id id := by
  have exact := DependencyGraph.order_isOk_iff (g := dependencyGraph snapshots) requested
  simp only [DependencyGraph.Needs,edge_dependencyGraph snapshots unique,
    dependencies_known snapshots unique] at exact
  simp only [stableStartOrder_ok]
  exact exact

/-- A target can be planned exactly when it and all it depends on are there, without a cycle. -/
theorem stableStartOrder_isOk_iff (snapshots : List ServiceSnapshot)
    (unique : (snapshots.map (·.id)).Nodup) (serviceId : String) :
    (∃order,stableStartOrder snapshots [serviceId]=.ok order) ↔
      ∀id,Relation.ReflTransGen (DependsOn snapshots) serviceId id →
        (∃snapshot∈snapshots,snapshot.id=id) ∧ ¬Relation.TransGen (DependsOn snapshots) id id := by
  rw [stableStartOrder_isOk snapshots unique]
  simp [Requires]

theorem stableStartOrder_plan (snapshots : List ServiceSnapshot)
    (unique : (snapshots.map (·.id)).Nodup) (requested order : List String)
    (planned : stableStartOrder snapshots requested=.ok order) :
    StartPlan snapshots requested order := by
  have same := edge_dependencyGraph snapshots unique
  have found := (stableStartOrder_ok snapshots requested order).mp planned
  obtain ⟨nodup,closed,exact⟩ := DependencyGraph.order_ok requested order found
  simp only [DependencyGraph.Needs,same] at exact
  refine ⟨nodup,exact,?_,?_⟩
  · intro before id after split dependency depends
    rw [← same] at depends
    obtain ⟨deps,registered,mem⟩ := depends
    obtain ⟨deps',registered',first⟩ := closed before id after split
    cases registered.symm.trans registered'
    exact first dependency mem
  · intro first id middle later rest split outside
    have parts : requested=(first++[id])++(middle++later::rest) := by
      rw [split]
      simp
    rw [parts] at found
    obtain ⟨start,ordered,following,rfl⟩ := DependencyGraph.order_append _ _ order found
    obtain ⟨-,-,started⟩ := DependencyGraph.order_ok _ start ordered
    simp only [DependencyGraph.Needs,same] at started
    obtain ⟨before,between,rfl⟩ := List.append_of_mem ((started id).mpr ⟨id,by simp,.refl⟩)
    have listed := (exact later).mpr ⟨later,by simp [split],.refl⟩
    have behind := (List.mem_append.mp listed).resolve_left fun mem =>
      outside ((started later).mp mem)
    obtain ⟨between',after,rfl⟩ := List.append_of_mem behind
    exact ⟨before,between++between',after,by simp⟩

/-- A planned order is the target's transitive dependencies, then the target. -/
theorem stableStartOrder_target (snapshots : List ServiceSnapshot)
    (unique : (snapshots.map (·.id)).Nodup) (serviceId : String) (order : List String)
    (plan : stableStartOrder snapshots [serviceId]=.ok order) :
    ∃dependencies,order=dependencies++[serviceId] ∧
      IsStartOrder snapshots serviceId dependencies := by
  have found := (stableStartOrder_ok snapshots [serviceId] order).mp plan
  have planned := stableStartOrder_plan snapshots unique [serviceId] order plan
  obtain ⟨dependencies,rfl,exact⟩ := DependencyGraph.order_singleton serviceId order found
  rw [edge_dependencyGraph snapshots unique] at exact
  exact ⟨dependencies,rfl,planned.nodup,exact,planned.sorted⟩

/-- The requested services can be planned unless something they require is not registered or
depends on itself, and then the plan is exact, sorted and stable. -/
theorem stableStartOrder_specified (snapshots : List ServiceSnapshot)
    (unique : (snapshots.map (·.id)).Nodup) (requested : List String) :
    ((∃error,stableStartOrder snapshots requested=.error error) ↔
      ∃id,Requires snapshots requested id ∧
        ((¬∃snapshot∈snapshots,snapshot.id=id) ∨
          Relation.TransGen (DependsOn snapshots) id id)) ∧
    ∀order,stableStartOrder snapshots requested=.ok order →
      StartPlan snapshots requested order := by
  refine ⟨?_,stableStartOrder_plan snapshots unique requested⟩
  have planned := stableStartOrder_isOk snapshots unique requested
  have failed : (∃error,stableStartOrder snapshots requested=.error error) ↔
      ¬∃order,stableStartOrder snapshots requested=.ok order := by
    cases stableStartOrder snapshots requested <;> simp
  rw [failed,planned,not_forall]
  refine exists_congr fun id => ?_
  rw [Classical.not_imp,not_and_or,not_not]

/-- Receives every plan that is longer than its target, before any of it is carried out. -/
structure DependencyPlanObserver (σ : Type) where
  planned : ControlAction → String → List String → List String → σ → σ

/-- Adds dependency-aware start and restart planning to another control. -/
structure DependencyAwareControl (σ : Type) where
  inner : SupervisorControl σ
  observer : DependencyPlanObserver σ

namespace DependencyAwareControl

variable {σ : Type}

/-- Planning whose plans nobody observes. -/
def new (inner : SupervisorControl σ) : DependencyAwareControl σ := ⟨inner,⟨fun _ _ _ _ s => s⟩⟩

/-- The planned services that will have to be launched. -/
def launchIds (snapshots : List ServiceSnapshot) (action : ControlAction) (serviceId : String)
    (order : List String) : List String :=
  order.filter fun plannedId =>
    (plannedId=serviceId && action=.restart) ||
      (serviceById snapshots)[plannedId]?.any (·.rootPid.isNone)

def prepareContext (action : ControlAction) (serviceId launchId : String) :
    ControlError → ControlError :=
  .withContext s!"cannot prepare service {launchId} before {action.debugName} of {serviceId}"

def startContext (serviceId dependency : String) : ControlError → ControlError :=
  .withContext s!"cannot start dependency {dependency} for {serviceId}"

/-- Tells the observer about a plan, unless the target depends on nothing. -/
def announce (control : DependencyAwareControl σ) (action : ControlAction) (serviceId : String)
    (snapshots : List ServiceSnapshot) (order : List String) (s : σ) : σ :=
  if 1<order.length then
    let directDependencies :=
      ((snapshots.find? (·.id=serviceId)).map (·.dependsOn)).getD []
    control.observer.planned action serviceId directDependencies order s
  else s

def plan (snapshots : List ServiceSnapshot) (serviceId : String) :
    EStateM ControlError σ (List String) :=
  match stableStartOrder snapshots [serviceId] with
  | .ok order => pure order
  | .error error => throw error

/-- Launch paths are checked and dependencies started before the action itself. A stop is not
planned at all. -/
def mutate (control : DependencyAwareControl σ) (action : ControlAction) (serviceId : String)
    (actor : Actor) (reason : Reason) : EStateM ControlError σ ControlMutationResult := do
  if action=.start ∨ action=.restart then
    let snapshots ← control.inner.snapshots
    let order ← plan snapshots serviceId
    eachWith (prepareContext action serviceId)
      (fun launchId => control.inner.preflightLaunches [launchId])
      (launchIds snapshots action serviceId order)
    modify (control.announce action serviceId snapshots order)
    eachWith (startContext serviceId)
      (fun dependency => control.inner.mutate .start dependency actor reason)
      (order.take (order.length-1))
  control.inner.mutate action serviceId actor reason

/-- Planning as a control of its own. It checks launch paths in front of its own actions only. -/
def control (control : DependencyAwareControl σ) : SupervisorControl σ where
  snapshots := control.inner.snapshots
  preflightLaunches := fun _ => pure ()
  mutate := control.mutate

section Cases

variable (control : DependencyAwareControl σ) (action : ControlAction) (serviceId : String)
  (actor : Actor) (reason : Reason) (s : σ)

/-- Everything a planned action has got done when it calls for the first dependency: `order` is
planned and the launch paths are checked. -/
inductive Prepared : List String → σ → Prop
  | intro (snapshots : List ServiceSnapshot) (order : List String) (checked : List (String × Unit))
      (t u : σ) (seen : control.inner.snapshots.run s=.ok snapshots t)
      (plan : stableStartOrder snapshots [serviceId]=.ok order)
      (all : checked.map Prod.fst=launchIds snapshots action serviceId order)
      (checks : Passes (fun launchId => control.inner.preflightLaunches [launchId]) checked t u) :
      Prepared order (control.announce action serviceId snapshots order u)

/-- How a planned action ends, and where. -/
inductive Planned : EStateM.Result ControlError σ ControlMutationResult → Prop
  | unobserved (error : ControlError) (t : σ)
      (fails : control.inner.snapshots.run s=.error error t) : Planned (.error error t)
  | unplanned (snapshots : List ServiceSnapshot) (error : ControlError) (t : σ)
      (seen : control.inner.snapshots.run s=.ok snapshots t)
      (fails : stableStartOrder snapshots [serviceId]=.error error) : Planned (.error error t)
  | unprepared (snapshots : List ServiceSnapshot) (order : List String)
      (checked : List (String × Unit)) (launchId : String) (after : List String)
      (error : ControlError) (t u v : σ)
      (seen : control.inner.snapshots.run s=.ok snapshots t)
      (plan : stableStartOrder snapshots [serviceId]=.ok order)
      (split : launchIds snapshots action serviceId order=checked.map Prod.fst++launchId::after)
      (checks : Passes (fun launchId => control.inner.preflightLaunches [launchId]) checked t u)
      (fails : (control.inner.preflightLaunches [launchId]).run u=.error error v) :
      Planned (.error (prepareContext action serviceId launchId error) v)
  | unstarted (order : List String) (started : List (String × ControlMutationResult))
      (dependency : String) (after : List String) (error : ControlError) (t u v : σ)
      (prepared : Prepared control action serviceId s order t)
      (split : order.take (order.length-1)=started.map Prod.fst++dependency::after)
      (starts : Passes (fun dependency => control.inner.mutate .start dependency actor reason)
        started t u)
      (fails : (control.inner.mutate .start dependency actor reason).run u=.error error v) :
      Planned (.error (startContext serviceId dependency error) v)
  | reached (order : List String) (started : List (String × ControlMutationResult)) (t u : σ)
      (prepared : Prepared control action serviceId s order t)
      (all : started.map Prod.fst=order.take (order.length-1))
      (starts : Passes (fun dependency => control.inner.mutate .start dependency actor reason)
        started t u) :
      Planned ((control.inner.mutate action serviceId actor reason).run u)

theorem mutate_stop :
    control.mutate .stop serviceId actor reason=
      control.inner.mutate .stop serviceId actor reason := rfl

theorem mutate_planned (launch : action≠.stop) :
    Planned control action serviceId actor reason s
      ((control.mutate action serviceId actor reason).run s) := by
  have planned := (ControlAction.launches_iff action).mp launch
  unfold mutate
  rw [if_pos planned]
  simp only [EStateM.run_bind]
  cases seen : control.inner.snapshots.run s with
  | error error t => exact .unobserved error t seen
  | ok snapshots t =>
    cases plan : stableStartOrder snapshots [serviceId] with
    | error error =>
      simp only [DependencyAwareControl.plan,plan,run_throw]
      exact .unplanned snapshots error t seen plan
    | ok order =>
      simp only [DependencyAwareControl.plan,plan,EStateM.run_pure]
      rcases eachWith_cases (prepareContext action serviceId)
          (fun launchId => control.inner.preflightLaunches [launchId])
          (launchIds snapshots action serviceId order) t with
        ⟨checked,u,all,checks,run⟩|⟨checked,launchId,after,error,u,v,split,checks,fails,run⟩
      · rw [run]
        have prepared : Prepared control action serviceId s order _ :=
          .intro snapshots order checked t u seen plan all checks
        simp only [EStateM.run_modify]
        rcases eachWith_cases (startContext serviceId)
            (fun dependency => control.inner.mutate .start dependency actor reason)
            (order.take (order.length-1)) (control.announce action serviceId snapshots order u)
          with ⟨started,w,all,starts,run⟩|⟨started,dependency,after,error,w,x,split,starts,fails,run⟩
        · rw [run]
          exact .reached order started _ w prepared all starts
        · rw [run]
          exact .unstarted order started dependency after error _ w x prepared split starts fails
      · rw [run]
        exact .unprepared snapshots order checked launchId after error t u v seen plan split checks
          fails

/-- What every call of the inner control and every observation of a plan keep, an action keeps. -/
theorem mutate_keeps (inv : σ → Prop)
    (snapshots : ∀s,inv s → inv (final (control.inner.snapshots.run s)))
    (preflight : ∀ids s,inv s → inv (final ((control.inner.preflightLaunches ids).run s)))
    (mutates : ∀action id s,inv s →
      inv (final ((control.inner.mutate action id actor reason).run s)))
    (planned : ∀action id direct order s,inv s →
      inv (control.observer.planned action id direct order s)) (start : inv s) :
    inv (final ((control.mutate action serviceId actor reason).run s)) := by
  have announced (services : List ServiceSnapshot) (order : List String) (t : σ) (h : inv t) :
      inv (control.announce action serviceId services order t) := by
    unfold announce
    split_ifs
    · exact planned _ _ _ _ _ h
    · exact h
  have checked {checked : List (String × Unit)} {t u : σ} (h : inv t)
      (checks : Passes (fun launchId => control.inner.preflightLaunches [launchId]) checked t u) :
      inv u := by
    refine checks.keeps inv (fun step _ s t h ran => ?_) h
    have kept := preflight [step.1] s h
    rwa [ran] at kept
  have looked (services : List ServiceSnapshot) (t : σ)
      (seen : control.inner.snapshots.run s=.ok services t) : inv t := by
    have kept := snapshots s start
    rwa [seen] at kept
  have prepared {order : List String} {t : σ}
      (ready : Prepared control action serviceId s order t) : inv t := by
    cases ready with
    | intro services order steps t u seen plan all checks =>
      exact announced services order u (checked (looked services t seen) checks)
  have started {steps : List (String × ControlMutationResult)} {t u : σ} (h : inv t)
      (starts : Passes (fun dependency => control.inner.mutate .start dependency actor reason)
        steps t u) : inv u := by
    refine starts.keeps inv (fun step _ s t h ran => ?_) h
    have kept := mutates .start step.1 s h
    rwa [ran] at kept
  by_cases launch : action≠.stop
  · have cases := control.mutate_planned action serviceId actor reason s launch
    generalize (control.mutate action serviceId actor reason).run s=result at cases
    cases cases with
    | unobserved error t fails =>
      have kept := snapshots s start
      rwa [fails] at kept
    | unplanned services error t seen fails => exact looked services t seen
    | unprepared services order steps launchId after error t u v seen plan split checks fails =>
      have kept := preflight [launchId] u (checked (looked services t seen) checks)
      rwa [fails] at kept
    | unstarted order steps dependency after error t u v ready split starts fails =>
      have kept := mutates .start dependency u (started (prepared ready) starts)
      rwa [fails] at kept
    | reached order steps t u ready all starts =>
      exact mutates action serviceId u (started (prepared ready) starts)
  · cases not_not.mp launch
    exact mutates .stop serviceId s start

end Cases

end DependencyAwareControl

end AkuSupervisor

import AkuSupervisor.Application.DependencyControl

namespace AkuSupervisor

open StateError

/-- A call that was made to a control, with the answer it got. -/
inductive ControlCall where
  | snapshots (answer : Except ControlError (List ServiceSnapshot))
  | preflightLaunches (serviceIds : List String) (answer : Except ControlError Unit)
  | mutate (action : ControlAction) (serviceId : String) (actor : Actor) (reason : Reason)
      (answer : Except ControlError ControlMutationResult)

namespace ControlCall

def failure : ControlCall → Option ControlError
  | .snapshots (.error error) | .preflightLaunches _ (.error error)
  | .mutate _ _ _ _ (.error error) => some error
  | _ => none

def mutation : ControlCall → Option (ControlAction × String × Actor × Reason)
  | .mutate action serviceId actor reason _ => some (action,serviceId,actor,reason)
  | _ => none

def preflighted : ControlCall → List String
  | .preflightLaunches serviceIds _ => serviceIds
  | _ => []

/-- What a planned action reports when one of its calls fails. -/
inductive Reported (action : ControlAction) (serviceId : String) : ControlCall → ControlError → Prop
  | snapshots (error : ControlError) : Reported action serviceId (.snapshots (.error error)) error
  | preflight (launchId : String) (error : ControlError) :
      Reported action serviceId (.preflightLaunches [launchId] (.error error))
        (DependencyAwareControl.prepareContext action serviceId launchId error)
  | dependency (dependency : String) (actor : Actor) (reason : Reason) (error : ControlError)
      (other : dependency≠serviceId) :
      Reported action serviceId (.mutate .start dependency actor reason (.error error))
        (DependencyAwareControl.startContext serviceId dependency error)
  | target (actor : Actor) (reason : Reason) (error : ControlError) :
      Reported action serviceId (.mutate action serviceId actor reason (.error error)) error

end ControlCall

/-- The same control, which also keeps the calls made to it, oldest first. -/
def SupervisorControl.recorded {σ : Type} (inner : SupervisorControl σ) :
    SupervisorControl (σ × List ControlCall) where
  snapshots := record .snapshots inner.snapshots
  preflightLaunches := fun serviceIds =>
    record (.preflightLaunches serviceIds) (inner.preflightLaunches serviceIds)
  mutate := fun action serviceId actor reason =>
    record (.mutate action serviceId actor reason) (inner.mutate action serviceId actor reason)

namespace DependencyAwareControl

variable {σ : Type}

/-- The same planning, over an inner control whose calls are kept. -/
def recorded (control : DependencyAwareControl σ) :
    DependencyAwareControl (σ × List ControlCall) where
  inner := control.inner.recorded
  observer := ⟨fun action serviceId dependencies order s =>
    (control.observer.planned action serviceId dependencies order s.1,s.2)⟩

theorem announce_recorded (control : DependencyAwareControl σ) (action : ControlAction)
    (serviceId : String) (snapshots : List ServiceSnapshot) (order : List String)
    (s : σ × List ControlCall) :
    control.recorded.announce action serviceId snapshots order s=
      (control.announce action serviceId snapshots order s.1,s.2) := by
  unfold announce
  split_ifs <;> rfl

/-- Recording the calls changes nothing else. -/
theorem forgets_mutate (control : DependencyAwareControl σ) (action : ControlAction)
    (serviceId : String) (actor : Actor) (reason : Reason) :
    Forgets (control.recorded.mutate action serviceId actor reason)
      (control.mutate action serviceId actor reason) := by
  have forwards : Forgets (control.recorded.inner.mutate action serviceId actor reason)
      (control.inner.mutate action serviceId actor reason) := forgets_record _ _
  unfold mutate
  split_ifs with planned
  · refine (forgets_record _ _).bind fun snapshots => ?_
    have plans : Forgets (plan snapshots serviceId : EStateM _ (σ × List ControlCall) _)
        (plan snapshots serviceId) := by
      intro s calls
      unfold plan
      cases stableStartOrder snapshots [serviceId] <;> rfl
    refine plans.bind fun order => ?_
    refine (Forgets.eachWith (fun launchId => forgets_record _ _) _ _).bind fun _ => ?_
    have announces : Forgets
        (modify (control.recorded.announce action serviceId snapshots order) :
          EStateM ControlError _ _)
        (modify (control.announce action serviceId snapshots order)) := by
      intro s calls
      simp only [EStateM.run_modify,announce_recorded,forget]
    refine announces.bind fun _ => ?_
    exact (Forgets.eachWith (fun dependency => forgets_record _ _) _ _).bind fun _ => forwards
  · exact forwards

section Calls

variable (control : DependencyAwareControl σ) (action : ControlAction) (serviceId : String)
  (actor : Actor) (reason : Reason) (s : σ)

/-- The calls an action makes to the inner control. -/
def calls : List ControlCall :=
  (final ((control.recorded.mutate action serviceId actor reason).run (s,[]))).2

def answered : Except ControlError ControlMutationResult :=
  answer ((control.mutate action serviceId actor reason).run s)

theorem answered_recorded :
    control.answered action serviceId actor reason s=
      answer ((control.recorded.mutate action serviceId actor reason).run (s,[])) := by
  rw [answered,← control.forgets_mutate action serviceId actor reason s []]
  cases (control.recorded.mutate action serviceId actor reason).run (s,[]) <;> rfl

def checkedCalls (checked : List (String × Unit)) : List ControlCall :=
  checked.map fun step => .preflightLaunches [step.1] (.ok step.2)

def startedCalls (started : List (String × ControlMutationResult)) : List ControlCall :=
  started.map fun step => .mutate .start step.1 actor reason (.ok step.2)

/-- The calls of an action whose plan is `dependencies` and then the service, and its answer. -/
inductive Called (snapshots : List ServiceSnapshot) (dependencies : List String) :
    List ControlCall → Except ControlError ControlMutationResult → Prop
  | unprepared (checked : List (String × Unit)) (launchId : String) (after : List String)
      (error : ControlError)
      (split : launchIds snapshots action serviceId (dependencies++[serviceId])=
        checked.map Prod.fst++launchId::after) :
      Called snapshots dependencies
        (.snapshots (.ok snapshots)::checkedCalls checked++
          [.preflightLaunches [launchId] (.error error)])
        (.error (prepareContext action serviceId launchId error))
  | unstarted (checked : List (String × Unit))
      (started : List (String × ControlMutationResult)) (dependency : String)
      (after : List String) (error : ControlError)
      (all : checked.map Prod.fst=launchIds snapshots action serviceId (dependencies++[serviceId]))
      (split : dependencies=started.map Prod.fst++dependency::after) :
      Called snapshots dependencies
        (.snapshots (.ok snapshots)::checkedCalls checked++
          (startedCalls actor reason started++
            [.mutate .start dependency actor reason (.error error)]))
        (.error (startContext serviceId dependency error))
  | reached (checked : List (String × Unit))
      (started : List (String × ControlMutationResult))
      (answer : Except ControlError ControlMutationResult)
      (all : checked.map Prod.fst=launchIds snapshots action serviceId (dependencies++[serviceId]))
      (starts : started.map Prod.fst=dependencies) :
      Called snapshots dependencies
        (.snapshots (.ok snapshots)::checkedCalls checked++
          (startedCalls actor reason started++[.mutate action serviceId actor reason answer]))
        answer

theorem passes_checked {checked : List (String × Unit)} {t u : σ × List ControlCall}
    (checks : Passes (fun launchId => control.recorded.inner.preflightLaunches [launchId])
      checked t u) : u.2=t.2++checkedCalls checked := by
  have recorded : Passes (fun launchId =>
      record (.preflightLaunches [launchId]) (control.inner.preflightLaunches [launchId]))
      checked t u := checks
  exact (passes_record recorded).2

theorem passes_started {started : List (String × ControlMutationResult)}
    {t u : σ × List ControlCall}
    (starts : Passes (fun dependency =>
      control.recorded.inner.mutate .start dependency actor reason) started t u) :
    u.2=t.2++startedCalls actor reason started := by
  have recorded : Passes (fun dependency =>
      record (.mutate .start dependency actor reason)
        (control.inner.mutate .start dependency actor reason)) started t u := starts
  exact (passes_record recorded).2

/-- What is on record when a planned action has been prepared. -/
theorem prepared_calls {snapshots : List ServiceSnapshot} {t : σ}
    (seen : control.inner.snapshots.run s=.ok snapshots t) {order : List String}
    {u : σ × List ControlCall}
    (prepared : Prepared control.recorded action serviceId (s,[]) order u) :
    stableStartOrder snapshots [serviceId]=.ok order ∧
      ∃checked : List (String × Unit),
        checked.map Prod.fst=launchIds snapshots action serviceId order ∧
          u.2=.snapshots (.ok snapshots)::checkedCalls checked := by
  obtain ⟨snapshots',_,checked,t',u,seen',plan,all,checks⟩ := prepared
  obtain ⟨seen',recorded⟩ := (run_record_ok _ _ _ _ _).mp seen'
  cases seen.symm.trans seen'
  refine ⟨plan,checked,all,?_⟩
  rw [announce_recorded,control.passes_checked checks,recorded]
  rfl

theorem mutate_stop_calls :
    (final ((control.recorded.mutate .stop serviceId actor reason).run (s,[]))).2=
      [.mutate .stop serviceId actor reason
        (answer ((control.recorded.mutate .stop serviceId actor reason).run (s,[])))] := by
  rw [mutate_stop]
  cases ran : (control.recorded.inner.mutate .stop serviceId actor reason).run (s,[]) with
  | ok result t => exact ((run_record_ok _ _ _ _ _).mp ran).2
  | error error t => exact ((run_record_error _ _ _ _ _).mp ran).2

theorem unobserved_calls (launch : action≠.stop) (error : ControlError) (t : σ)
    (fails : control.inner.snapshots.run s=.error error t) :
    control.calls action serviceId actor reason s=[.snapshots (.error error)] ∧
      control.answered action serviceId actor reason s=.error error := by
  have planned := (ControlAction.launches_iff action).mp launch
  have run : (control.recorded.mutate action serviceId actor reason).run (s,[])=
      .error error (t,[.snapshots (.error error)]) := by
    have fails' : (control.recorded.inner.snapshots).run (s,[])=
        .error error (t,[.snapshots (.error error)]) :=
      (run_record_error _ _ _ _ _).mpr ⟨fails,rfl⟩
    simp only [mutate,planned,if_true,EStateM.run_bind,fails']
  rw [calls,answered_recorded,run]
  exact ⟨rfl,rfl⟩

theorem unplanned_calls (launch : action≠.stop) (snapshots : List ServiceSnapshot) (t : σ)
    (seen : control.inner.snapshots.run s=.ok snapshots t) (error : ControlError)
    (fails : stableStartOrder snapshots [serviceId]=.error error) :
    control.calls action serviceId actor reason s=[.snapshots (.ok snapshots)] ∧
      control.answered action serviceId actor reason s=.error error := by
  have planned := (ControlAction.launches_iff action).mp launch
  have run : (control.recorded.mutate action serviceId actor reason).run (s,[])=
      .error error (t,[.snapshots (.ok snapshots)]) := by
    have seen' : (control.recorded.inner.snapshots).run (s,[])=
        .ok snapshots (t,[.snapshots (.ok snapshots)]) :=
      (run_record_ok _ _ _ _ _).mpr ⟨seen,rfl⟩
    simp only [mutate,planned,if_true,EStateM.run_bind,seen',plan,fails,run_throw]
  rw [calls,answered_recorded,run]
  exact ⟨rfl,rfl⟩

theorem mutate_called (launch : action≠.stop) {snapshots : List ServiceSnapshot} {t : σ}
    (seen : control.inner.snapshots.run s=.ok snapshots t) (dependencies : List String)
    (plan : stableStartOrder snapshots [serviceId]=.ok (dependencies++[serviceId])) :
    Called action serviceId actor reason snapshots dependencies
      (control.calls action serviceId actor reason s)
      (control.answered action serviceId actor reason s) := by
  rw [calls,answered_recorded]
  have planned := control.recorded.mutate_planned action serviceId actor reason (s,[]) launch
  generalize (control.recorded.mutate action serviceId actor reason).run (s,[])=result
    at planned ⊢
  cases planned with
  | unobserved error t fails =>
    obtain ⟨fails,-⟩ := (run_record_error _ _ _ _ _).mp fails
    cases seen.symm.trans fails
  | unplanned snapshots' error t seen' fails =>
    obtain ⟨seen',-⟩ := (run_record_ok _ _ _ _ _).mp seen'
    cases seen.symm.trans seen'
    simp [plan] at fails
  | unprepared snapshots' order checked launchId after error t u v seen' plan' split checks fails =>
    obtain ⟨seen',recorded⟩ := (run_record_ok _ _ _ _ _).mp seen'
    cases seen.symm.trans seen'
    cases plan.symm.trans plan'
    obtain ⟨-,failed⟩ := (run_record_error _ _ _ _ _).mp fails
    rw [final_error,failed,control.passes_checked checks,recorded]
    exact .unprepared checked launchId after error split
  | unstarted order started dependency after error t u v prepared split starts fails =>
    obtain ⟨plan',checked,all,recorded⟩ := control.prepared_calls action serviceId s seen prepared
    cases plan.symm.trans plan'
    obtain ⟨-,failed⟩ := (run_record_error _ _ _ _ _).mp fails
    rw [final_error,failed,control.passes_started actor reason starts,recorded,List.append_assoc]
    refine .unstarted checked started dependency after error all ?_
    simpa using split
  | reached order started t u prepared all' starts =>
    obtain ⟨plan',checked,all,recorded⟩ := control.prepared_calls action serviceId s seen prepared
    cases plan.symm.trans plan'
    have calls := control.passes_started actor reason starts
    have starts' : started.map Prod.fst=dependencies := by simpa using all'
    cases ran : (control.recorded.inner.mutate action serviceId actor reason).run u with
    | ok result v =>
      obtain ⟨-,done⟩ := (run_record_ok _ _ _ _ _).mp ran
      rw [final_ok,done,calls,recorded,List.append_assoc]
      exact .reached checked started (.ok result) all starts'
    | error error v =>
      obtain ⟨-,failed⟩ := (run_record_error _ _ _ _ _).mp ran
      rw [final_error,failed,calls,recorded,List.append_assoc]
      exact .reached checked started (.error error) all starts'

/-- How the calls and the answer of an action carry out a plan. -/
structure FollowsPlan (snapshots : List ServiceSnapshot) (dependencies : List String)
    (calls : List ControlCall) (answered : Except ControlError ControlMutationResult) : Prop where
  /-- The mutations are a prefix of the dependencies' starts and then the action itself. -/
  sequence : calls.filterMap ControlCall.mutation <+:
    dependencies.map (.start,·,actor,reason)++[(action,serviceId,actor,reason)]
  /-- A failing call is the last one, and its error is returned. -/
  failFast : ∀before call after error,calls=before++call::after → call.failure=some error →
    after=[] ∧ ∃reported,call.Reported action serviceId reported ∧ answered=.error reported
  /-- Every mutation comes after the check of exactly the planned services that hold no root
  process, and of the target of a restart. -/
  prepared : ∀before call after,calls=before++call::after → call.mutation≠none →
    ∀id,id∈before.flatMap ControlCall.preflighted ↔ id∈dependencies++[serviceId] ∧
      (id=serviceId ∧ action=.restart ∨ ∃snapshot∈snapshots,snapshot.id=id ∧ snapshot.rootPid=none)
  /-- Nothing is mutated when a check fails. -/
  unprepared : ∀serviceIds error,.preflightLaunches serviceIds (.error error)∈calls →
    calls.filterMap ControlCall.mutation=[]
  /-- Without a failing call the whole plan is carried out, and the target's answer returned. -/
  complete : (∀call∈calls,call.failure=none) →
    calls.filterMap ControlCall.mutation=
      dependencies.map (.start,·,actor,reason)++[(action,serviceId,actor,reason)] ∧
    ∃result,answered=.ok result ∧ .mutate action serviceId actor reason (.ok result)∈calls

section Lists

variable (snapshots : List ServiceSnapshot) (checked : List (String × Unit))
  (started : List (String × ControlMutationResult))

/-- The calls before the first mutation, when all of them succeeded. -/
def looks : List ControlCall := .snapshots (.ok snapshots)::checkedCalls checked

theorem looks_spec :
    (∀call∈looks snapshots checked,call.failure=none ∧ call.mutation=none) ∧
      (looks snapshots checked).flatMap ControlCall.preflighted=checked.map Prod.fst := by
  constructor
  · intro call mem
    rcases List.mem_cons.mp mem with rfl|mem
    · exact ⟨rfl,rfl⟩
    · obtain ⟨step,-,rfl⟩ := List.mem_map.mp mem
      exact ⟨rfl,rfl⟩
  · rw [looks,List.flatMap_cons,checkedCalls]
    simp only [ControlCall.preflighted,List.nil_append]
    induction checked with
    | nil => rfl
    | cons step checked ih => simp [ih,ControlCall.preflighted]

theorem looks_mutation : (looks snapshots checked).filterMap ControlCall.mutation=[] :=
  List.filterMap_eq_nil_iff.mpr fun call mem => ((looks_spec snapshots checked).1 call mem).2

theorem startedCalls_spec :
    (∀call∈startedCalls actor reason started,
      call.failure=none ∧ call.preflighted=[] ∧ call.mutation≠none) ∧
    (startedCalls actor reason started).filterMap ControlCall.mutation=
      (started.map Prod.fst).map (.start,·,actor,reason) := by
  constructor
  · intro call mem
    obtain ⟨step,-,rfl⟩ := List.mem_map.mp mem
    exact ⟨rfl,rfl,by simp [ControlCall.mutation]⟩
  · induction started with
    | nil => rfl
    | cons step started ih =>
      rw [startedCalls,List.map_cons,List.filterMap_cons]
      simpa [ControlCall.mutation,startedCalls] using ih

/-- In a list of calls that all succeed but the last, a failing call is the last. -/
theorem failing_last {good : List ControlCall} {last : ControlCall}
    (succeed : ∀call∈good,call.failure=none) {before after : List ControlCall}
    {call : ControlCall} {error : ControlError} (split : good++[last]=before++call::after)
    (fails : call.failure=some error) : after=[] ∧ call=last := by
  rcases List.eq_nil_or_concat after with rfl|⟨after',final,rfl⟩
  · obtain ⟨-,eq⟩ := List.append_inj' split rfl
    cases eq
    exact ⟨rfl,rfl⟩
  · rw [List.concat_eq_append,← List.cons_append,← List.append_assoc] at split
    obtain ⟨rfl,-⟩ := List.append_inj' split rfl
    have none := succeed call (by simp)
    rw [fails] at none
    cases none

/-- All that comes before a mutation is the looks and other mutations. -/
theorem before_mutation {looks mutations before after : List ControlCall} {call : ControlCall}
    (quiet : ∀call∈looks,call.mutation=none) (checksNothing : ∀call∈mutations,call.preflighted=[])
    (split : looks++mutations=before++call::after) (mutates : call.mutation≠none) :
    before.flatMap ControlCall.preflighted=looks.flatMap ControlCall.preflighted := by
  rcases List.append_eq_append_iff.mp split with ⟨earlier,rfl,rest⟩|⟨later,rfl,rest⟩
  · rw [List.flatMap_append]
    have nothing : earlier.flatMap ControlCall.preflighted=[] :=
      List.flatMap_eq_nil_iff.mpr fun call mem =>
        checksNothing call (by rw [rest]; exact List.mem_append_left _ mem)
    rw [nothing,List.append_nil]
  · rcases later with _|⟨first,later⟩
    · simp
    · obtain ⟨rfl,-⟩ := List.cons.inj rest
      exact absurd (quiet call (by simp)) mutates

end Lists

theorem mem_launchIds {snapshots : List ServiceSnapshot}
    (unique : (snapshots.map (·.id)).Nodup) (order : List String) (id : String) :
    id∈launchIds snapshots action serviceId order ↔ id∈order ∧
      (id=serviceId ∧ action=.restart ∨
        ∃snapshot∈snapshots,snapshot.id=id ∧ snapshot.rootPid=none) := by
  rw [launchIds,List.mem_filter]
  refine and_congr_right fun _ => ?_
  rw [Bool.or_eq_true,Bool.and_eq_true,decide_eq_true_eq,decide_eq_true_eq]
  refine or_congr_right ?_
  rw [Option.any_eq_true]
  constructor
  · intro h
    obtain ⟨snapshot,found,vacant⟩ := h
    obtain ⟨mem,named⟩ := serviceById_mem snapshots id snapshot found
    exact ⟨snapshot,mem,named,by simpa using vacant⟩
  · intro h
    obtain ⟨snapshot,mem,named,vacant⟩ := h
    exact ⟨snapshot,(serviceById_unique snapshots unique id snapshot).mpr ⟨mem,named⟩,
      by simp [vacant]⟩

/-- The plan is followed by looks that all succeed and then mutations of which at most the last
one fails. -/
theorem followsPlan_of {snapshots : List ServiceSnapshot} {dependencies : List String}
    (unique : (snapshots.map (·.id)).Nodup) (checked : List (String × Unit))
    (started : List (String × ControlMutationResult)) (last : ControlCall)
    (answered : Except ControlError ControlMutationResult)
    (all : checked.map Prod.fst=launchIds snapshots action serviceId (dependencies++[serviceId]))
    (mutates : last.mutation≠none) (checksNothing : last.preflighted=[])
    (sequence : (started.map Prod.fst).map (.start,·,actor,reason)++last.mutation.toList <+:
      dependencies.map (.start,·,actor,reason)++[(action,serviceId,actor,reason)])
    (reports : ∀error,last.failure=some error →
      ∃reported,last.Reported action serviceId reported ∧ answered=.error reported)
    (succeeds : last.failure=none → started.map Prod.fst=dependencies ∧
      ∃result,answered=.ok result ∧ last=.mutate action serviceId actor reason (.ok result)) :
    FollowsPlan action serviceId actor reason snapshots dependencies
      (looks snapshots checked++(startedCalls actor reason started++[last])) answered := by
  obtain ⟨looking,preflighted⟩ := looks_spec snapshots checked
  obtain ⟨starting,mutations⟩ := startedCalls_spec actor reason started
  have sequenced : (looks snapshots checked++(startedCalls actor reason started++[last])).filterMap
      ControlCall.mutation=
      (started.map Prod.fst).map (.start,·,actor,reason)++last.mutation.toList := by
    rw [List.filterMap_append,List.filterMap_append,looks_mutation,mutations,List.nil_append]
    cases mutation : last.mutation <;> simp [mutation]
  refine ⟨by rwa [sequenced],?_,?_,?_,?_⟩
  · intro before call after error split fails
    rw [← List.append_assoc] at split
    have succeed : ∀call∈looks snapshots checked++startedCalls actor reason started,
        call.failure=none := by
      intro call mem
      rcases List.mem_append.mp mem with look|start
      · exact (looking call look).1
      · exact (starting call start).1
    obtain ⟨ends,rfl⟩ := failing_last succeed split fails
    exact ⟨ends,reports error fails⟩
  · intro before call after split mutates id
    have nothing : ∀call∈startedCalls actor reason started++[last],call.preflighted=[] := by
      intro call mem
      rcases List.mem_append.mp mem with start|final
      · exact (starting call start).2.1
      · rwa [List.mem_singleton.mp final]
    rw [before_mutation (fun call look => (looking call look).2) nothing split mutates,preflighted,
      all]
    exact mem_launchIds action serviceId unique (dependencies++[serviceId]) id
  · intro serviceIds error mem
    rcases List.mem_append.mp mem with look|mem
    · cases (looking _ look).1
    · rcases List.mem_append.mp mem with start|final
      · cases (starting _ start).1
      · rw [← List.mem_singleton.mp final] at mutates
        exact absurd rfl mutates
  · intro succeed
    obtain ⟨starts,result,answers,final⟩ := succeeds (succeed last (by simp))
    refine ⟨?_,result,answers,by simp [final]⟩
    rw [sequenced,starts,final]
    rfl

theorem Called.followsPlan {snapshots : List ServiceSnapshot} {dependencies : List String}
    {calls : List ControlCall} {answered : Except ControlError ControlMutationResult}
    (h : Called action serviceId actor reason snapshots dependencies calls answered)
    (unique : (snapshots.map (·.id)).Nodup) (absent : serviceId∉dependencies) :
    FollowsPlan action serviceId actor reason snapshots dependencies calls answered := by
  cases h with
  | unprepared checked launchId after error split =>
    obtain ⟨looking,-⟩ := looks_spec snapshots checked
    have nothing : List.filterMap ControlCall.mutation
        (looks snapshots checked++[.preflightLaunches [launchId] (.error error)])=[] := by
      rw [List.filterMap_append,looks_mutation]
      rfl
    refine ⟨?_,?_,?_,fun _ _ _ => nothing,?_⟩
    · change List.filterMap _ (looks snapshots checked++_) <+: _
      rw [nothing]
      exact List.nil_prefix
    · intro before call after error' eq fails
      have succeed : ∀call∈looks snapshots checked,call.failure=none :=
        fun call look => (looking call look).1
      obtain ⟨ends,rfl⟩ := failing_last succeed eq fails
      cases fails
      exact ⟨ends,_,.preflight launchId error,rfl⟩
    · intro before call after eq mutates
      have mem : call∈looks snapshots checked++[.preflightLaunches [launchId] (.error error)] := by
        change call∈_::_++_
        rw [eq]
        simp
      rcases List.mem_append.mp mem with look|final
      · exact absurd (looking call look).2 mutates
      · rw [List.mem_singleton.mp final] at mutates
        exact absurd rfl mutates
    · intro succeed
      have fails := succeed (.preflightLaunches [launchId] (.error error)) (by simp)
      cases fails
  | unstarted checked started dependency after error all split =>
    have other : dependency≠serviceId := by
      intro same
      subst same
      exact absent (by rw [split]; simp)
    refine followsPlan_of action serviceId actor reason unique checked started _ _ all
      (by simp [ControlCall.mutation]) rfl ?_ ?_ ?_
    · rw [split,List.map_append,List.map_cons,List.append_assoc]
      exact List.prefix_append_right_inj _ |>.mpr ⟨_,rfl⟩
    · intro _ same
      cases same
      exact ⟨_,.dependency dependency actor reason error other,rfl⟩
    · intro succeeds
      cases succeeds
  | reached checked started answered all starts =>
    refine followsPlan_of action serviceId actor reason unique checked started _ _ all
      (by simp [ControlCall.mutation]) rfl ?_ ?_ ?_
    · rw [starts]
      exact List.prefix_refl _
    · intro error fails
      cases answered with
      | ok result => cases fails
      | error error' => exact ⟨error',.target actor reason error',rfl⟩
    · intro succeeds
      cases answered with
      | ok result => exact ⟨starts,result,rfl,rfl⟩
      | error error => cases succeeds

/-- A stop is one call, for the target alone. A start or restart that can be planned carries out
its plan; one that cannot makes no mutation. -/
theorem mutate_followsPlan
    (unique : ∀snapshots t,control.inner.snapshots.run s=.ok snapshots t →
      (snapshots.map (·.id)).Nodup) :
    (action=.stop → control.calls action serviceId actor reason s=
      [.mutate .stop serviceId actor reason (control.answered action serviceId actor reason s)]) ∧
    (action≠.stop →
      (∀error t,control.inner.snapshots.run s=.error error t →
        control.calls action serviceId actor reason s=[.snapshots (.error error)] ∧
          control.answered action serviceId actor reason s=.error error) ∧
      ∀snapshots t,control.inner.snapshots.run s=.ok snapshots t →
        (∀error,stableStartOrder snapshots [serviceId]=.error error →
          control.calls action serviceId actor reason s=[.snapshots (.ok snapshots)] ∧
            control.answered action serviceId actor reason s=.error error) ∧
        ∀order,stableStartOrder snapshots [serviceId]=.ok order →
          ∃dependencies,order=dependencies++[serviceId] ∧
            IsStartOrder snapshots serviceId dependencies ∧
            FollowsPlan action serviceId actor reason snapshots dependencies
              (control.calls action serviceId actor reason s)
              (control.answered action serviceId actor reason s)) := by
  constructor
  · intro same
    subst same
    rw [answered_recorded,calls,mutate_stop]
    exact mutate_stop_calls control serviceId actor reason s
  · intro launch
    refine ⟨fun error t fails => unobserved_calls control action serviceId actor reason s launch
      error t fails,fun snapshots t seen => ⟨fun error fails => ?_,fun order plan => ?_⟩⟩
    · exact unplanned_calls control action serviceId actor reason s launch snapshots t seen error
        fails
    · obtain ⟨dependencies,rfl,sorted⟩ := stableStartOrder_target snapshots
        (unique snapshots t seen) serviceId order plan
      refine ⟨dependencies,rfl,sorted,?_⟩
      have called := control.mutate_called action serviceId actor reason s launch seen dependencies
        plan
      refine called.followsPlan action serviceId actor reason (unique snapshots t seen) ?_
      intro mem
      exact (List.nodup_append.mp sorted.nodup).2.2 serviceId mem serviceId (by simp) rfl

end Calls

/-- A service at rest that depends on others. -/
def fixtureSnapshot (id : String) (dependencies : List String) : ServiceSnapshot where
  id := id
  label := id
  dependsOn := dependencies
  ports := []
  lifecycle := .stopped
  rootPid := none
  ownedPids := []
  ownedProcesses := []
  health := .unknown
  desiredState := .stopped
  startedAtUnixMs := none
  lastExitCode := none
  lastExitAtUnixMs := none
  restartCount := 0
  operatorHold := .none
  lastAction := none

def fixtureChainSnapshots : List ServiceSnapshot :=
  [fixtureSnapshot "database" [],fixtureSnapshot "platform" ["koc"],
    fixtureSnapshot "koc" ["database"]]

/-- The chain is planned bottom up, before the request that stands alone. -/
theorem stableStartOrder_chain :
    stableStartOrder fixtureChainSnapshots ["platform","database"]=
        .ok ["database","koc","platform"] ∧
      StartPlan fixtureChainSnapshots ["platform","database"] ["database","koc","platform"] := by
  have planned : stableStartOrder fixtureChainSnapshots ["platform","database"]=
      .ok ["database","koc","platform"] := by decide +kernel
  have specified := stableStartOrder_specified fixtureChainSnapshots (by decide)
    ["platform","database"]
  exact ⟨planned,specified.2 _ planned⟩

/-- A control that shows three services in a chain and does all it is asked to. -/
def fixtureControl : DependencyAwareControl Unit where
  inner :=
    { snapshots := pure [fixtureSnapshot "database" [],fixtureSnapshot "platform" ["koc"],
        fixtureSnapshot "koc" ["database"]]
      preflightLaunches := fun _ => pure ()
      mutate := fun action _ _ _ => pure ⟨match action with
        | .start => .started
        | .stop => .stopped
        | .restart => .restarted,none⟩ }
  observer := ⟨fun _ _ _ _ s => s⟩

theorem mutate_followsPlan_chain :
    ∃dependencies,["database","koc","platform"]=dependencies++["platform"] ∧
      IsStartOrder [fixtureSnapshot "database" [],fixtureSnapshot "platform" ["koc"],
        fixtureSnapshot "koc" ["database"]] "platform" dependencies ∧
      FollowsPlan .restart "platform" .userCli ⟨"restart",by decide,by decide⟩
        [fixtureSnapshot "database" [],fixtureSnapshot "platform" ["koc"],
          fixtureSnapshot "koc" ["database"]] dependencies
        (fixtureControl.calls .restart "platform" .userCli ⟨"restart",by decide,by decide⟩ ())
        (fixtureControl.answered .restart "platform" .userCli
          ⟨"restart",by decide,by decide⟩ ()) := by
  have planned := mutate_followsPlan fixtureControl .restart "platform" .userCli
    ⟨"restart",by decide,by decide⟩ () (by rintro snapshots t ⟨⟩; decide)
  exact ((planned.2 (by decide)).2 _ () rfl).2 _ (by decide +kernel)

end DependencyAwareControl

end AkuSupervisor

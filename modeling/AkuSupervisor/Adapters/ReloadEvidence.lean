import Mathlib.Data.List.Infix
import AkuSupervisor.Adapters.ChromeExtensionReload
import AkuSupervisor.Application.ExtensionValidation

namespace AkuSupervisor

open StateError

section Stages

/-- The statuses that tell of a delivery, an acceptance and a heartbeat. -/
def showsProgress (action : JsonValue) : Bool :=
  relayStatus action=some .accepted ∨ relayStatus action=some .completed

def showsDelivery (action : JsonValue) : Bool :=
  relayStatus action=some .delivered ∨
    (showsProgress action ∧ (action.stringField "deliveredAt").isSome)

def showsAcceptance (action : JsonValue) : Bool :=
  showsProgress action ∧ (action.stringField "acceptedAt").isSome

def showsNewBuild (build : Option String) (action : JsonValue) : Bool :=
  showsProgress action ∧ newlyObserved action build

/-- The last build that was shown. -/
def lastBuild (build : Option String) (action : JsonValue) : Option String :=
  if showsNewBuild build action then action.stringField "observedBuildId" else build

/-- How often the statuses show another build than before. -/
def newBuilds (build : Option String) : List JsonValue → Nat
  | [] => 0
  | action::actions =>
    (if showsNewBuild build action then 1 else 0)+newBuilds (lastBuild build action) actions

/-- No status shows an acceptance before a delivery was shown, and none shows another build before
an acceptance was. -/
def ShownInOrder (delivered accepted : Bool) (build : Option String) : List JsonValue → Prop
  | [] => True
  | action::actions =>
    (showsAcceptance action=true → (delivered || showsDelivery action)=true) ∧
    (showsNewBuild build action=true → (accepted || showsAcceptance action)=true) ∧
    ShownInOrder (delivered || showsDelivery action) (accepted || showsAcceptance action)
      (lastBuild build action) actions

/-- The stages that a status adds to the audit after `last`, where it shows a delivery, an
acceptance or another build. -/
def addedStages (last : CooperativeActionStage) (delivery acceptance build : Bool) :
    List CooperativeActionStage :=
  (if last=.relayCreated ∧ delivery=true then [.delivered] else [])++
    (if (last=.relayCreated ∨ last=.delivered) ∧ acceptance=true then [.accepted] else [])++
    (if build=true then [.heartbeatObserved] else [])

def stagesOf (state : PollState) (action : JsonValue) : List CooperativeActionStage :=
  addedStages state.lastStage (showsDelivery action) (showsAcceptance action)
    (showsNewBuild state.lastObservedBuildId action)

def following (state : PollState) (action : JsonValue) : PollState where
  lastStage := (stagesOf state action).getLastD state.lastStage
  lastObservedBuildId := lastBuild state.lastObservedBuildId action

def trail (state : PollState) : List JsonValue → List CooperativeActionStage
  | [] => []
  | action::actions => stagesOf state action++trail (following state action) actions

/-- What may still come before the first heartbeat. -/
def pendingStages : CooperativeActionStage → List CooperativeActionStage
  | .relayCreated => [.delivered,.accepted]
  | .delivered => [.accepted]
  | _ => []

/-- A status adds some of the stages that are due, in their order, and a heartbeat for another
build; after a heartbeat nothing is due. -/
theorem addedStages_eq (last : CooperativeActionStage) (delivery acceptance build : Bool) :
    ∃base,addedStages last delivery acceptance build=
        base++List.replicate (if build=true then 1 else 0) .heartbeatObserved ∧
      List.Sublist
        (base++pendingStages ((addedStages last delivery acceptance build).getLastD last))
        (pendingStages last) ∧
      (build=true →
        pendingStages ((addedStages last delivery acceptance build).getLastD last)=[]) := by
  refine ⟨addedStages last delivery acceptance false,?_,?_,?_⟩
  · cases build <;> simp [addedStages]
  · cases last <;> cases delivery <;> cases acceptance <;> cases build <;> decide
  · intro shown
    subst shown
    simp [addedStages,pendingStages]

/-- The trail tells every build that is new, and before that some of the stages that are due. -/
theorem trail_eq (actions : List JsonValue) (state : PollState) :
    ∃base,List.Sublist base (pendingStages state.lastStage) ∧
      trail state actions=
        base++List.replicate (newBuilds state.lastObservedBuildId actions) .heartbeatObserved := by
  induction actions generalizing state with
  | nil => exact ⟨[],List.nil_sublist _,rfl⟩
  | cons action actions ih =>
    obtain ⟨first,added,due,after⟩ := addedStages_eq state.lastStage (showsDelivery action)
      (showsAcceptance action) (showsNewBuild state.lastObservedBuildId action)
    obtain ⟨rest,still,told⟩ := ih (following state action)
    have all : List.Sublist (first++rest) (pendingStages state.lastStage) :=
      ((List.Sublist.refl first).append still).trans due
    refine ⟨first++rest,all,?_⟩
    rw [trail,stagesOf,added,told,newBuilds,List.replicate_add]
    cases shown : showsNewBuild state.lastObservedBuildId action with
    | false => simp [following]
    | true =>
      have none_due : rest=[] := by
        have empty : pendingStages (following state action).lastStage=[] := after shown
        rw [empty] at still
        exact List.sublist_nil.mp still
      simp [none_due,following]

/-- How far the stages have come, told by what was shown so far. -/
def Reached (delivered accepted : Bool) (last : CooperativeActionStage) : Prop :=
  if accepted=true then delivered=true ∧ (last=.accepted ∨ last=.heartbeatObserved)
  else if delivered=true then last=.delivered
  else last=.relayCreated

/-- The stages that are due if a delivery and an acceptance are still shown. -/
def dueStages (delivered accepted delivery acceptance : Bool) : List CooperativeActionStage :=
  (if delivered=false ∧ delivery=true then [.delivered] else [])++
    (if accepted=false ∧ acceptance=true then [.accepted] else [])

theorem reached_added {delivered accepted delivery acceptance build : Bool}
    (last : CooperativeActionStage) (reached : Reached delivered accepted last)
    (ordered : acceptance=true → (delivered || delivery)=true)
    (settled : build=true → (accepted || acceptance)=true) :
    addedStages last delivery acceptance build=
        dueStages delivered accepted delivery acceptance++
          List.replicate (if build=true then 1 else 0) .heartbeatObserved ∧
      Reached (delivered || delivery) (accepted || acceptance)
        ((addedStages last delivery acceptance build).getLastD last) := by
  cases delivered <;> cases accepted <;> cases delivery <;> cases acceptance <;> cases build <;>
    cases last <;> simp_all [Reached,addedStages,dueStages]

theorem due_after {delivered accepted delivery acceptance more moreAcceptance build : Bool}
    {last : CooperativeActionStage} {n : Nat} (reached : Reached delivered accepted last)
    (ordered : acceptance=true → (delivered || delivery)=true)
    (settled : build=true → (accepted || acceptance)=true) :
    dueStages delivered accepted delivery acceptance++
        (List.replicate (if build=true then 1 else 0) .heartbeatObserved++
          (dueStages (delivered || delivery) (accepted || acceptance) more moreAcceptance++
            List.replicate n .heartbeatObserved))=
      dueStages delivered accepted (delivery || more) (acceptance || moreAcceptance)++
        List.replicate ((if build=true then 1 else 0)+n) .heartbeatObserved := by
  rw [List.replicate_add]
  cases delivered <;> cases accepted <;> cases delivery <;> cases acceptance <;> cases build <;>
    simp_all [Reached,dueStages]

/-- Where everything is shown in order, the trail tells each stage that is shown, and a heartbeat
for each new build. -/
theorem trail_shownInOrder (actions : List JsonValue) (delivered accepted : Bool)
    (state : PollState) (reached : Reached delivered accepted state.lastStage)
    (ordered : ShownInOrder delivered accepted state.lastObservedBuildId actions) :
    trail state actions=
      dueStages delivered accepted (actions.any showsDelivery) (actions.any showsAcceptance)++
        List.replicate (newBuilds state.lastObservedBuildId actions) .heartbeatObserved := by
  induction actions generalizing delivered accepted state with
  | nil => simp [trail,dueStages,newBuilds]
  | cons action actions ih =>
    obtain ⟨acceptance,build,rest⟩ := ordered
    obtain ⟨added,still⟩ := reached_added state.lastStage reached acceptance build
    have told := ih _ _ (following state action) still rest
    rw [trail,stagesOf,added,told,List.append_assoc,due_after reached acceptance build]
    rfl

theorem added_in_order {delivered accepted delivery acceptance build : Bool}
    {last : CooperativeActionStage} {rest : List CooperativeActionStage} {n : Nat}
    (reached : Reached delivered accepted last)
    (told : addedStages last delivery acceptance build++rest=
      pendingStages last++List.replicate n .heartbeatObserved) :
    (acceptance=true → (delivered || delivery)=true) ∧
    (build=true → (accepted || acceptance)=true) ∧
    ∃m,rest=pendingStages ((addedStages last delivery acceptance build).getLastD last)++
      List.replicate m .heartbeatObserved := by
  have after (build : Bool) (rest : List CooperativeActionStage)
      (told : (if build=true then [.heartbeatObserved] else [])++rest=
        List.replicate n .heartbeatObserved) :
      ∃m,rest=List.replicate m .heartbeatObserved := by
    cases build with
    | false => exact ⟨n,told⟩
    | true =>
      cases n with
      | zero => cases told
      | succ n => exact ⟨n,(List.cons.inj told).2⟩
  cases last <;> cases delivered <;> cases accepted <;> simp [Reached] at reached <;>
    cases delivery <;> cases acceptance <;> cases build <;>
    simp_all [addedStages,pendingStages]

/-- Where the trail tells everything that is due and then only heartbeats, everything was shown in
order. -/
theorem shownInOrder_of_trail (actions : List JsonValue) (delivered accepted : Bool)
    (state : PollState) (n : Nat) (reached : Reached delivered accepted state.lastStage)
    (told : trail state actions=
      pendingStages state.lastStage++List.replicate n .heartbeatObserved) :
    ShownInOrder delivered accepted state.lastObservedBuildId actions := by
  induction actions generalizing delivered accepted state n with
  | nil => trivial
  | cons action actions ih =>
    obtain ⟨acceptance,build,m,rest⟩ := added_in_order reached told
    have still := (reached_added state.lastStage reached acceptance build).2
    exact ⟨acceptance,build,ih _ _ (following state action) m still rest⟩

end Stages

def ReloadState.statuses (s : ReloadState) : List String := s.written.map (·.status)

def stageNames (stages : List CooperativeActionStage) : List String :=
  stages.map CooperativeActionStage.name

namespace ChromeExtensionReloadClient

variable {client : ChromeExtensionReloadClient} {request : ReloadRequest} {α β : Type}

/-- The audit file takes every line. -/
def Accepting (client : ChromeExtensionReloadClient) : Prop :=
  ∀n,(client.disk n).failure=none

/-- `x` adds `stages` to the audit if it returns, and the first of them if it fails; it fails before
the last of them only if the audit file does not take a line. -/
def Tells (client : ChromeExtensionReloadClient) (stages : List String) (x : Reload α)
    (returns : α → Prop) (fails : Prop) : Prop :=
  ∀s,Ends x s (fun a t => t.statuses=s.statuses++stages ∧ returns a)
    (fun _ t => ∃told,told<+:stages ∧ t.statuses=s.statuses++told ∧
      (client.Accepting → told=stages ∧ fails))

theorem tells_pure (a : α) (returns : α → Prop) (fails : Prop) (h : returns a) :
    Tells client [] (pure a) returns fails := by
  intro s
  exact ⟨(List.append_nil _).symm,h⟩

theorem tells_throw (error : CooperativeActionError) (returns : α → Prop) (fails : Prop)
    (h : fails) : Tells client [] (throw error) returns fails := by
  intro s
  exact ⟨[],List.prefix_rfl,(List.append_nil _).symm,fun _ => ⟨rfl,h⟩⟩

theorem Tells.bind {first second : List String} {x : Reload α} {f : α → Reload β}
    {middle : α → Prop} {returns : β → Prop} {fails : Prop}
    (h : Tells client first x middle (second=[] ∧ fails))
    (k : ∀a,middle a → Tells client second (f a) returns fails) :
    Tells client (first++second) (x >>= f) returns fails := by
  intro s
  rw [ends_bind]
  apply (h s).mono
  · intro a t told
    apply (k a told.2 t).mono
    · intro b u more
      exact ⟨by rw [more.1,told.1,List.append_assoc],more.2⟩
    · intro error u more
      obtain ⟨part,inside,same,whole⟩ := more
      refine ⟨first++part,(List.prefix_append_right_inj first).mpr inside,?_,fun accepting => ?_⟩
      · rw [same,told.1,List.append_assoc]
      · obtain ⟨all,h⟩ := whole accepting
        exact ⟨by rw [all],h⟩
  · intro error t more
    obtain ⟨part,inside,same,whole⟩ := more
    refine ⟨part,inside.trans (List.prefix_append _ _),same,fun accepting => ?_⟩
    obtain ⟨all,last,h⟩ := whole accepting
    exact ⟨by rw [all,last,List.append_nil],h⟩

theorem Tells.mono {stages : List String} {x : Reload α} {returns returns' : α → Prop}
    {fails fails' : Prop} (h : Tells client stages x returns fails)
    (ok : ∀a,returns a → returns' a) (err : fails → fails') :
    Tells client stages x returns' fails' := by
  intro s
  apply (h s).mono
  · intro a t told
    exact ⟨told.1,ok a told.2⟩
  · intro error t told
    obtain ⟨part,inside,same,whole⟩ := told
    exact ⟨part,inside,same,fun accepting => ⟨(whole accepting).1,err (whole accepting).2⟩⟩

theorem tells_answered (x : Except CooperativeActionError α) :
    Tells client [] (answered x) (fun a => x=.ok a) (x.toOption=none) := by
  cases x with
  | ok a => exact tells_pure a _ _ rfl
  | error error => exact tells_throw error _ _ rfl

theorem tells_required (value : Option α) (message : String) :
    Tells client [] (required value message) (fun a => value=some a) (value=none) := by
  cases value with
  | some a => exact tells_pure a _ _ rfl
  | none => exact tells_throw _ _ _ rfl

theorem append_ends (client : ChromeExtensionReloadClient) (record : CooperativeAuditRecord)
    (s : ReloadState) :
    Ends (client.append record) s (fun _ t => t.statuses=s.statuses++[record.status])
      (fun _ t => t.statuses=s.statuses ∧ ¬client.Accepting) := by
  cases taken : (client.disk s.attempts).failure with
  | none =>
    simp only [Ends,EStateM.run,append,taken,ReloadState.statuses,List.map_append]
    rfl
  | some error =>
    simp only [Ends,EStateM.run,append,taken]
    refine ⟨rfl,fun accepting => ?_⟩
    rw [accepting] at taken
    cases taken

theorem tells_append (record : CooperativeAuditRecord) :
    Tells client [record.status] (client.append record) (fun _ => True) False := by
  intro s
  apply (append_ends client record s).mono
  · intro _ t told
    exact ⟨told,trivial⟩
  · intro _ t failed
    refine ⟨[],List.nil_prefix,?_,fun accepting => absurd accepting failed.2⟩
    rw [failed.1,List.append_nil]

theorem tells_reportProgress (update : CooperativeActionProgress) :
    Tells client [update.stage.name] (client.reportProgress request update) (fun _ => True)
      False := by
  intro s
  rw [reportProgress,ends_bind]
  apply (tells_append _ s).mono
  · intro a t told
    exact ⟨told.1,trivial⟩
  · intro error t told
    exact told

theorem tells_reportEvidenced (action : JsonValue) (stages : List CooperativeActionStage) :
    Tells client (stageNames stages) (client.reportEvidenced request action stages)
      (fun _ => True) False := by
  rw [reportEvidenced,List.forM_eq_forM]
  induction stages with
  | nil => exact tells_pure _ _ _ trivial
  | cons stage stages ih =>
    rw [List.forM_cons]
    apply (Tells.mono (tells_reportProgress (progressFromAction action stage
      stage.intermediateMessage)) (fun _ h => h) False.elim).bind
    intro _ _
    exact ih

theorem evidencedIntermediateStages_eq (action : JsonValue) (last : CooperativeActionStage)
    (progress : showsProgress action=true) (build : Bool) :
    evidencedIntermediateStages action last++(if build=true then [.heartbeatObserved] else [])=
      addedStages last (showsDelivery action) (showsAcceptance action) build := by
  have delivered : relayStatus action≠some .delivered := by
    intro delivered
    rw [showsProgress,delivered] at progress
    simp at progress
  simp only [evidencedIntermediateStages,addedStages,showsDelivery,showsAcceptance,progress,
    delivered,false_or,true_and,decide_eq_true_eq]
  cases last with
  | relayCreated =>
    cases (action.stringField "deliveredAt").isSome <;>
      cases (action.stringField "acceptedAt").isSome <;> rfl
  | delivered => cases (action.stringField "acceptedAt").isSome <;> rfl
  | _ => rfl

/-- A status that ends the loop. -/
def settles (action : JsonValue) : Bool :=
  relayStatus action=some .completed ∨ relayStatus action=some .failed ∨ relayStatus action=none

def IsCompleted (action : JsonValue) : Prop := relayStatus action=some .completed

instance (action : JsonValue) : Decidable (IsCompleted action) :=
  inferInstanceAs (Decidable (relayStatus action=some .completed))

theorem stagesOf_delivered (action : JsonValue) (state : PollState)
    (delivered : relayStatus action=some .delivered) :
    stagesOf state action=if state.lastStage=.relayCreated then [.delivered] else [] := by
  simp [stagesOf,addedStages,showsDelivery,showsAcceptance,showsNewBuild,showsProgress,delivered]

theorem stagesOf_other (action : JsonValue) (state : PollState)
    (delivered : relayStatus action≠some .delivered) (progress : showsProgress action=false) :
    stagesOf state action=[] := by
  simp [stagesOf,addedStages,showsDelivery,showsAcceptance,showsNewBuild,progress,delivered]

theorem lastBuild_other (action : JsonValue) (build : Option String)
    (progress : showsProgress action=false) : lastBuild build action=build := by
  simp [lastBuild,showsNewBuild,progress]

theorem following_new (action : JsonValue) (state : PollState)
    (shown : showsNewBuild state.lastObservedBuildId action=true) :
    following state action=⟨.heartbeatObserved,action.stringField "observedBuildId"⟩ := by
  simp only [following,stagesOf,addedStages,shown,lastBuild,if_true,List.getLastD_concat]

theorem following_same (action : JsonValue) (state : PollState)
    (progress : showsProgress action=true)
    (shown : showsNewBuild state.lastObservedBuildId action=false) :
    following state action={ state with
      lastStage := (evidencedIntermediateStages action state.lastStage).getLastD
        state.lastStage } := by
  have stages := evidencedIntermediateStages_eq action state.lastStage progress false
  simp only [Bool.false_eq_true,if_false,List.append_nil] at stages
  simp only [following,stagesOf,shown,lastBuild,stages,Bool.false_eq_true,if_false]

/-- One look at the action adds its stages; it ends the loop or goes on with the next state. -/
theorem tells_look (client : ChromeExtensionReloadClient) (request : ReloadRequest)
    (actionId : String) (action : JsonValue) (state : PollState) :
    Tells client (stageNames (stagesOf state action))
      (client.look request actionId action state)
      (fun step => if IsCompleted action then ∃outcome,step=.done outcome
        else settles action=false ∧ step=.again (following state action))
      (settles action=true ∧ ¬IsCompleted action) := by
  cases status : relayStatus action with
  | none =>
    have progress : showsProgress action=false := by simp [showsProgress,status]
    rw [stagesOf_other action state (by simp [status]) progress,look,status]
    apply tells_throw
    simp [settles,IsCompleted,status]
  | some known =>
    cases known with
    | pending =>
      have progress : showsProgress action=false := by simp [showsProgress,status]
      have stages := stagesOf_other action state (by simp [status]) progress
      rw [stages,look,status]
      apply tells_pure
      simp [settles,IsCompleted,status,following,stages,lastBuild_other action _ progress]
    | failed =>
      have progress : showsProgress action=false := by simp [showsProgress,status]
      rw [stagesOf_other action state (by simp [status]) progress,look,status]
      apply tells_throw
      simp [settles,IsCompleted,status]
    | delivered =>
      have progress : showsProgress action=false := by simp [showsProgress,status]
      have stages := stagesOf_delivered action state status
      rw [stages,look,status]
      by_cases first : state.lastStage=.relayCreated
      · simp only [first,if_true]
        rw [← List.append_nil (stageNames _)]
        apply (Tells.mono (tells_reportProgress _) (fun _ h => h) False.elim).bind
        intro _ _
        apply tells_pure
        simp [settles,IsCompleted,status,following,stages,first,lastBuild_other action _ progress]
      · simp only [first,if_false]
        apply tells_pure
        simp [settles,IsCompleted,status,following,stages,first,lastBuild_other action _ progress]
    | accepted =>
      have progress : showsProgress action=true := by simp [showsProgress,status]
      have shown : showsNewBuild state.lastObservedBuildId action=
          newlyObserved action state.lastObservedBuildId := by simp [showsNewBuild,progress]
      have stages := evidencedIntermediateStages_eq action state.lastStage progress
        (showsNewBuild state.lastObservedBuildId action)
      rw [stagesOf,← stages,stageNames,List.map_append,look,status]
      apply (Tells.mono (tells_reportEvidenced action _) (fun _ h => h) False.elim).bind
      intro _ _
      cases new : newlyObserved action state.lastObservedBuildId with
      | false =>
        rw [new] at shown
        rw [shown]
        apply tells_pure
        simp [settles,IsCompleted,status,following_same action state progress shown]
      | true =>
        rw [new] at shown
        rw [shown,← List.append_nil (List.map _ _)]
        apply (Tells.mono (tells_reportProgress _) (fun _ h => h) False.elim).bind
        intro _ _
        apply tells_pure
        simp [settles,IsCompleted,status,following_new action state shown]
    | completed =>
      have progress : showsProgress action=true := by simp [showsProgress,status]
      have shown : showsNewBuild state.lastObservedBuildId action=
          newlyObserved action state.lastObservedBuildId := by simp [showsNewBuild,progress]
      have stages := evidencedIntermediateStages_eq action state.lastStage progress
        (showsNewBuild state.lastObservedBuildId action)
      rw [stagesOf,← stages,stageNames,List.map_append,look,status]
      apply (Tells.mono (tells_reportEvidenced action _) (fun _ h => h) False.elim).bind
      intro _ _
      cases new : newlyObserved action state.lastObservedBuildId with
      | false =>
        rw [new] at shown
        rw [shown]
        apply tells_pure
        simp [IsCompleted,status]
      | true =>
        rw [new] at shown
        rw [shown,← List.append_nil (List.map _ _)]
        apply (Tells.mono (tells_reportProgress _) (fun _ h => h) False.elim).bind
        intro _ _
        apply tells_pure
        simp [IsCompleted,status]

end ChromeExtensionReloadClient

section Relay

/-- The action in an answer of the relay. -/
def answeredAction (response : Except CooperativeActionError JsonValue) : Option JsonValue :=
  response.toOption.bind (·.get "action")

/-- The statuses the loop looks at: the last one ends it, or meets the deadline, or is followed by
an answer without an action. -/
def handled : List PollAnswer → List JsonValue
  | [] => []
  | answer::answers =>
    match answeredAction answer.response with
    | none => []
    | some action =>
      action::if ChromeExtensionReloadClient.settles action || answer.expired then []
        else handled answers

namespace RelayAnswers

/-- The action that was created, if the relay answers bootstrap and creation as it should. -/
def createdAction (relay : RelayAnswers) : Option JsonValue := do
  let bootstrap ← relay.bootstrap.toOption
  let _token ← bootstrap.stringField "bridgeToken"
  let _contract ← bootstrap.stringField "bridgeContractVersion"
  let action ← answeredAction relay.created
  let _actionId ← action.stringField "id"
  return action

def statuses (relay : RelayAnswers) : List JsonValue :=
  if relay.createdAction.isSome then handled relay.polls else []

def completedAction (relay : RelayAnswers) : Option JsonValue :=
  relay.statuses.find? fun action => ChromeExtensionReloadClient.IsCompleted action

def createdBuild (relay : RelayAnswers) : Option String :=
  relay.createdAction.bind (·.stringField "observedBuildId")

/-- The stages between the request and its end. -/
def stages (relay : RelayAnswers) : List CooperativeActionStage :=
  if relay.createdAction.isSome then
    .relayCreated::trail ⟨.relayCreated,relay.createdBuild⟩ relay.statuses
  else []

end RelayAnswers

end Relay

namespace ChromeExtensionReloadClient

variable {client : ChromeExtensionReloadClient} {request : ReloadRequest}

theorem Tells.guard {stages : List String} {x : Reload α} {f : α → Reload β} {middle : α → Prop}
    {returns : β → Prop} {none_left fails : Prop} (h : Tells client [] x middle none_left)
    (stuck : none_left → stages=[] ∧ fails)
    (k : ∀a,middle a → Tells client stages (f a) returns fails) :
    Tells client stages (x >>= f) returns fails :=
  (h.mono (fun _ known => known) stuck).bind k

theorem handled_none (answer : PollAnswer) (answers : List PollAnswer)
    (missing : answeredAction answer.response=none) : handled (answer::answers)=[] := by
  rw [handled,missing]

theorem handled_some (answer : PollAnswer) (answers : List PollAnswer) (action : JsonValue)
    (there : answeredAction answer.response=some action) :
    handled (answer::answers)=
      action::if settles action || answer.expired then [] else handled answers := by
  rw [handled,there]

theorem settles_of_completed (action : JsonValue) (completed : IsCompleted action) :
    settles action=true := by
  have status : relayStatus action=some .completed := completed
  simp [settles,status]

theorem tells_poll (actionId : String) (answers : List PollAnswer) (state : PollState) :
    Tells client (stageNames (trail state (handled answers)))
      (client.poll request actionId answers state)
      (fun outcome => outcome.isSome=true ↔ ∃action∈handled answers,IsCompleted action)
      (¬∃action∈handled answers,IsCompleted action) := by
  induction answers generalizing state with
  | nil =>
    apply tells_pure
    simp [handled]
  | cons answer answers ih =>
    rw [poll]
    apply Tells.guard (tells_answered answer.response)
    · intro none_answered
      have missing : answeredAction answer.response=none := by simp [answeredAction,none_answered]
      rw [handled_none answer answers missing]
      exact ⟨rfl,by simp⟩
    intro response known
    apply Tells.guard (tells_required (response.get "action") _)
    · intro no_action
      have missing : answeredAction answer.response=none := by
        rw [known]
        exact no_action
      rw [handled_none answer answers missing]
      exact ⟨rfl,by simp⟩
    intro action found
    have there : answeredAction answer.response=some action := by
      rw [known]
      exact found
    rw [handled_some answer answers action there,trail,stageNames,List.map_append]
    have looked := tells_look client request actionId action state
    cases settled : settles action with
    | true =>
      rw [Bool.true_or,if_pos rfl,trail]
      apply (looked.mono (fun _ h => h) (fun h => ⟨rfl,by simpa using h.2⟩)).bind
      intro step taken
      by_cases completed : IsCompleted action
      · rw [if_pos completed] at taken
        obtain ⟨outcome,rfl⟩ := taken
        apply tells_pure
        simp [completed]
      · rw [if_neg completed,settled] at taken
        cases taken.1
    | false =>
      have going : ¬IsCompleted action := by
        intro completed
        rw [settles_of_completed action completed] at settled
        cases settled
      rw [Bool.false_or]
      apply (looked.mono (fun _ h => h) (fun h => absurd h.1 (by simp [settled]))).bind
      intro step taken
      rw [if_neg going] at taken
      rw [taken.2]
      cases expired : answer.expired with
      | true =>
        apply tells_throw
        simp [going]
      | false =>
        apply (ih (following state action)).mono
        · intro outcome h
          simpa [going] using h
        · intro h
          simpa [going] using h

theorem tells_executeRelay (relay : RelayAnswers) :
    Tells client (stageNames relay.stages) (client.executeRelay request relay)
      (fun outcome => outcome.isSome=true ↔ relay.completedAction.isSome=true)
      (relay.completedAction=none) := by
  have uncreated (missing : relay.createdAction=none) :
      stageNames relay.stages=[] ∧ relay.completedAction=none := by
    simp [RelayAnswers.stages,RelayAnswers.completedAction,RelayAnswers.statuses,missing,stageNames]
  rw [executeRelay]
  apply Tells.guard (tells_answered relay.bootstrap)
  · intro none_answered
    exact uncreated (by simp [RelayAnswers.createdAction,none_answered])
  intro bootstrap booted
  apply Tells.guard (tells_required (bootstrap.stringField "bridgeToken") _)
  · intro no_token
    exact uncreated (by simp [RelayAnswers.createdAction,booted,no_token,Except.toOption])
  intro token tokened
  apply Tells.guard (tells_required (bootstrap.stringField "bridgeContractVersion") _)
  · intro no_contract
    exact uncreated (by simp [RelayAnswers.createdAction,booted,no_contract,Except.toOption])
  intro contract contracted
  apply Tells.guard (tells_answered relay.created)
  · intro none_answered
    exact uncreated (by simp [RelayAnswers.createdAction,answeredAction,none_answered])
  intro created known
  apply Tells.guard (tells_required (created.get "action") _)
  · intro no_action
    exact uncreated (by simp [RelayAnswers.createdAction,answeredAction,known,no_action,
      Except.toOption])
  intro action found
  apply Tells.guard (tells_required (action.stringField "id") _)
  · intro no_id
    exact uncreated (by simp [RelayAnswers.createdAction,answeredAction,known,found,no_id,
      Except.toOption])
  intro actionId identified
  have there : relay.createdAction=some action := by
    simp [RelayAnswers.createdAction,answeredAction,booted,tokened,contracted,known,found,
      identified,Except.toOption]
  have stages : stageNames relay.stages=[CooperativeActionStage.relayCreated.name]++
      stageNames (trail ⟨.relayCreated,action.stringField "observedBuildId"⟩
        (handled relay.polls)) := by
    simp [RelayAnswers.stages,RelayAnswers.createdBuild,RelayAnswers.statuses,there,stageNames]
  have completed : relay.completedAction=
      (handled relay.polls).find? fun action => IsCompleted action := by
    simp [RelayAnswers.completedAction,RelayAnswers.statuses,there]
  rw [stages,completed]
  apply (Tells.mono (tells_reportProgress _) (fun _ h => h) False.elim).bind
  intro _ _
  apply (tells_poll actionId relay.polls _).mono
  · intro outcome h
    simpa using h
  · intro h
    simpa using h

/-- What a whole reload writes: the request, the stages of the relay as far as the audit file takes
them, and the end. -/
theorem execute_ends (client : ChromeExtensionReloadClient) (request : ReloadRequest)
    (relay : RelayAnswers) (s : ReloadState) :
    Ends (client.execute request relay) s
      (fun outcome t => (outcome.isSome=true ↔ relay.completedAction.isSome=true) ∧
        t.statuses=s.statuses++("requested"::stageNames relay.stages++
          if outcome.isSome=true then ["completed"] else []))
      (fun _ t => ∃told ending,told<+:"requested"::stageNames relay.stages ∧
        (ending=[] ∨ ending=["failed"]) ∧ t.statuses=s.statuses++(told++ending) ∧
        (client.Accepting → told="requested"::stageNames relay.stages ∧
          relay.completedAction=none)) := by
  rw [execute,ends_bind]
  apply (append_ends client _ s).mono
  · intro _ asked requested
    rw [ends_bind,ends_attempt]
    apply (tells_executeRelay relay asked).mono
    · intro outcome told relayed
      have so_far : told.statuses=s.statuses++("requested"::stageNames relay.stages) := by
        rw [relayed.1,requested,List.append_assoc]
        rfl
      cases outcome with
      | none =>
        refine ⟨relayed.2,?_⟩
        rw [so_far]
        simp
      | some outcome =>
        rw [ends_bind]
        apply (append_ends client _ told).mono
        · intro _ finished ended
          refine ⟨relayed.2,?_⟩
          rw [ended,so_far,List.append_assoc]
          rfl
        · intro _ finished failed
          refine ⟨"requested"::stageNames relay.stages,[],List.prefix_rfl,.inl rfl,?_,?_⟩
          · rw [failed.1,so_far,List.append_nil]
          · intro accepting
            exact absurd accepting failed.2
    · intro error told relayed
      obtain ⟨part,inside,same,whole⟩ := relayed
      have so_far : told.statuses=s.statuses++("requested"::part) := by
        rw [same,requested,List.append_assoc]
        rfl
      have within : "requested"::part<+:"requested"::stageNames relay.stages :=
        (List.prefix_cons_inj _).mpr inside
      have all (accepting : client.Accepting) :
          "requested"::part="requested"::stageNames relay.stages ∧ relay.completedAction=none :=
        ⟨congrArg _ (whole accepting).1,(whole accepting).2⟩
      rw [ends_bind]
      apply (append_ends client _ told).mono
      · intro _ finished ended
        refine ⟨"requested"::part,["failed"],within,.inr rfl,?_,all⟩
        rw [ended,so_far,List.append_assoc]
      · intro _ finished failed
        refine ⟨"requested"::part,[],within,.inl rfl,?_,all⟩
        rw [failed.1,so_far,List.append_nil]
  · intro error t failed
    refine ⟨[],[],List.nil_prefix,.inl rfl,?_,fun accepting => absurd accepting failed.2⟩
    rw [failed.1,List.append_nil,List.append_nil]

/-- The audit lines of a reload that starts with nothing written. -/
def auditOf (client : ChromeExtensionReloadClient) (request : ReloadRequest) (relay : RelayAnswers)
    (nextSequence : Nat) : List CooperativeAuditRecord :=
  (final ((client.execute request relay).run ⟨nextSequence,0,[],[]⟩)).written

def answerOf (client : ChromeExtensionReloadClient) (request : ReloadRequest) (relay : RelayAnswers)
    (nextSequence : Nat) : Except CooperativeActionError (Option CooperativeActionOutcome) :=
  answer ((client.execute request relay).run ⟨nextSequence,0,[],[]⟩)

end ChromeExtensionReloadClient

/-- Every stage an audit can tell, in order. -/
def allStages : List String :=
  ["requested","relay_created","delivered","accepted","heartbeat_observed","completed","failed"]

/-- A completed action with all that the release needs: it was delivered and accepted, and the build
that was expected was observed. -/
structure HasAllEvidence (action : JsonValue) : Prop where
  delivered : (action.stringField "deliveredAt").isSome=true
  accepted : (action.stringField "acceptedAt").isSome=true
  observed : (action.stringField "observedBuildId").isSome=true
  expected : action.stringField "observedBuildId"=action.stringField "expectedBuildId"

/-- The audit of a reload tells every stage at most once and in order, and the validator finds its
six stages wherever the action completed with all its evidence. -/
structure EvidenceAgrees (client : ChromeExtensionReloadClient) (request : ReloadRequest)
    (relay : RelayAnswers) (nextSequence : Nat) : Prop where
  ordered : List.Sublist ((client.auditOf request relay nextSequence).map (·.status)) allStages
  validated : ∀outcome action,client.answerOf request relay nextSequence=.ok (some outcome) →
    relay.completedAction=some action → HasAllEvidence action → ∀actor operation active,
    ∃check∈(validateExtensionRelease request.requestId actor operation active
        ((client.auditOf request relay nextSequence).map (·.value))).checks,
      check.id="six_stage_audit" ∧ check.passed=true

theorem checks_six (requestId : String) (actor operation active : JsonValue)
    (records : List JsonValue) :
    (∃check∈(validateExtensionRelease requestId actor operation active records).checks,
      check.id="six_stage_audit" ∧ check.passed=true) ↔
      auditStages records=requiredAuditStages := by
  simp [validateExtensionRelease,cooperativeReloadCompleted,sixStageAudit,actorAndRequestIdentity,
    expectedObservedHeartbeat,noZombieAction]

theorem auditStages_value (records : List CooperativeAuditRecord) :
    auditStages (records.map (·.value))=records.map (·.status) := by
  rw [auditStages,List.filterMap_map]
  apply List.filterMap_eq_map_iff_forall_eq_some.mpr
  intro record _
  rfl

namespace RelayAnswers

theorem stages_eq (relay : RelayAnswers) :
    ∃base,List.Sublist base [CooperativeActionStage.relayCreated,.delivered,.accepted] ∧
      relay.stages=
        base++List.replicate (newBuilds relay.createdBuild relay.statuses) .heartbeatObserved := by
  by_cases created : relay.createdAction.isSome=true
  · obtain ⟨base,due,told⟩ := trail_eq relay.statuses ⟨.relayCreated,relay.createdBuild⟩
    refine ⟨.relayCreated::base,due.cons_cons _,?_⟩
    rw [stages,if_pos created,told,List.cons_append]
  · refine ⟨[],List.nil_sublist _,?_⟩
    rw [stages,statuses,if_neg created,if_neg created]
    rfl

theorem completed_created (relay : RelayAnswers) (action : JsonValue)
    (completed : relay.completedAction=some action) : relay.createdAction.isSome=true := by
  by_contra missing
  rw [completedAction,statuses,if_neg missing] at completed
  cases completed

/-- Where everything is shown in order, a completed action with all its evidence leaves the stages
between its request and its end. -/
theorem stages_shownInOrder (relay : RelayAnswers) (action : JsonValue)
    (completed : relay.completedAction=some action) (evidence : HasAllEvidence action)
    (one : newBuilds relay.createdBuild relay.statuses=1)
    (ordered : ShownInOrder false false relay.createdBuild relay.statuses) :
    relay.stages=[.relayCreated,.delivered,.accepted,.heartbeatObserved] := by
  have told := trail_shownInOrder relay.statuses false false ⟨.relayCreated,relay.createdBuild⟩ rfl
    ordered
  have shown : action∈relay.statuses := List.mem_of_find?_eq_some completed
  have status : relayStatus action=some .completed := by
    have found := List.find?_some completed
    exact of_decide_eq_true found
  have progress : showsProgress action=true := by simp [showsProgress,status]
  have delivery : relay.statuses.any showsDelivery=true := by
    apply List.any_eq_true.mpr
    exact ⟨action,shown,by simp [showsDelivery,progress,evidence.delivered]⟩
  have acceptance : relay.statuses.any showsAcceptance=true := by
    apply List.any_eq_true.mpr
    exact ⟨action,shown,by simp [showsAcceptance,progress,evidence.accepted]⟩
  rw [stages,if_pos (relay.completed_created action completed),told,delivery,acceptance,one]
  rfl

/-- The stages of a whole release come only from a relay that shows everything in order. -/
theorem shownInOrder_of_stages (relay : RelayAnswers)
    (whole : relay.stages=[.relayCreated,.delivered,.accepted,.heartbeatObserved]) :
    newBuilds relay.createdBuild relay.statuses=1 ∧
      ShownInOrder false false relay.createdBuild relay.statuses := by
  constructor
  · obtain ⟨base,due,told⟩ := relay.stages_eq
    have none_due : base.count .heartbeatObserved=0 := by
      have bound := due.count_le CooperativeActionStage.heartbeatObserved
      simpa using bound
    have count := congrArg (List.count .heartbeatObserved) (told.symm.trans whole)
    rw [List.count_append,none_due,List.count_replicate_self,Nat.zero_add] at count
    exact count
  · have created : relay.createdAction.isSome=true := by
      by_contra missing
      rw [stages,if_neg missing] at whole
      cases whole
    rw [stages,if_pos created] at whole
    exact shownInOrder_of_trail relay.statuses false false ⟨.relayCreated,relay.createdBuild⟩ 1
      rfl (List.cons.inj whole).2

end RelayAnswers

theorem CooperativeActionStage.name_injective : Function.Injective CooperativeActionStage.name := by
  intro a b same
  cases a <;> cases b <;> first | rfl | (exact absurd same (by decide))

/-- The relay shows at most one new build; and where the action completes with all its evidence, it
shows one, and everything in order. -/
structure ShowsOneBuildInOrder (relay : RelayAnswers) : Prop where
  once : newBuilds relay.createdBuild relay.statuses≤1
  completed : ∀action,relay.completedAction=some action → HasAllEvidence action →
    newBuilds relay.createdBuild relay.statuses=1 ∧
      ShownInOrder false false relay.createdBuild relay.statuses

section Agreement

variable (client : ChromeExtensionReloadClient) (request : ReloadRequest) (relay : RelayAnswers)
  (nextSequence : Nat)

open ChromeExtensionReloadClient

/-- What the audit of a whole reload tells, by how the reload ends. -/
theorem audit_cases :
    (∃outcome,client.answerOf request relay nextSequence=.ok outcome ∧
      (outcome.isSome=true ↔ relay.completedAction.isSome=true) ∧
      (client.auditOf request relay nextSequence).map (·.status)=
        "requested"::stageNames relay.stages++
          if outcome.isSome=true then ["completed"] else []) ∨
    ∃error told ending,client.answerOf request relay nextSequence=.error error ∧
      told<+:"requested"::stageNames relay.stages ∧ (ending=[] ∨ ending=["failed"]) ∧
      (client.auditOf request relay nextSequence).map (·.status)=told++ending ∧
      (client.Accepting → told="requested"::stageNames relay.stages ∧
        relay.completedAction=none) := by
  have ends := execute_ends client request relay ⟨nextSequence,0,[],[]⟩
  rw [answerOf,auditOf]
  unfold Ends at ends
  cases ran : (client.execute request relay).run ⟨nextSequence,0,[],[]⟩ with
  | ok outcome t =>
    rw [ran] at ends
    exact .inl ⟨outcome,rfl,ends⟩
  | error error t =>
    rw [ran] at ends
    obtain ⟨told,ending,within,last,same,all⟩ := ends
    exact .inr ⟨error,told,ending,rfl,within,last,same,all⟩

theorem relayed_sublist (once : newBuilds relay.createdBuild relay.statuses≤1) :
    List.Sublist ("requested"::stageNames relay.stages)
      ["requested","relay_created","delivered","accepted","heartbeat_observed"] := by
  obtain ⟨base,due,told⟩ := relay.stages_eq
  have beat : List.Sublist (List.replicate (newBuilds relay.createdBuild relay.statuses)
      CooperativeActionStage.heartbeatObserved) [.heartbeatObserved] :=
    List.replicate_sublist_replicate _ |>.mpr once
  rw [told]
  exact ((due.append beat).map CooperativeActionStage.name).cons_cons _

theorem ordered_of_once (once : newBuilds relay.createdBuild relay.statuses≤1) :
    List.Sublist ((client.auditOf request relay nextSequence).map (·.status)) allStages := by
  have relayed := relayed_sublist relay once
  rcases audit_cases client request relay nextSequence with
    ⟨outcome,-,-,same⟩|⟨error,told,ending,-,within,last,same,-⟩
  · have finish : List.Sublist (if outcome.isSome=true then ["completed"] else [])
        ["completed","failed"] := by
      split <;> decide
    rw [same]
    exact relayed.append finish
  · have finish : List.Sublist ending ["completed","failed"] := by
      rcases last with rfl|rfl <;> decide
    rw [same]
    exact (within.sublist.trans relayed).append finish

theorem once_of_ordered (accepting : client.Accepting)
    (ordered : List.Sublist ((client.auditOf request relay nextSequence).map (·.status))
      allStages) : newBuilds relay.createdBuild relay.statuses≤1 := by
  obtain ⟨base,-,told⟩ := relay.stages_eq
  have inside : List.Sublist (stageNames relay.stages)
      ((client.auditOf request relay nextSequence).map (·.status)) := by
    rcases audit_cases client request relay nextSequence with
      ⟨outcome,-,-,same⟩|⟨error,part,ending,-,-,-,same,all⟩
    · rw [same]
      exact (List.sublist_cons_self _ _).trans (List.sublist_append_left _ _)
    · rw [same,(all accepting).1]
      exact (List.sublist_cons_self _ _).trans (List.sublist_append_left _ _)
  have beats : List.Sublist (List.replicate (newBuilds relay.createdBuild relay.statuses)
      "heartbeat_observed") (stageNames relay.stages) := by
    rw [told,stageNames,List.map_append,List.map_replicate]
    exact List.sublist_append_right _ _
  have count := ((beats.trans inside).trans ordered).count_le "heartbeat_observed"
  rw [List.count_replicate_self] at count
  exact count

/-- The evidence agrees where the relay shows one new build and everything in order, and, if the
audit file takes every line, only there. -/
theorem reload_evidence_agrees_iff :
    (ShowsOneBuildInOrder relay → EvidenceAgrees client request relay nextSequence) ∧
    (client.Accepting → EvidenceAgrees client request relay nextSequence →
      ShowsOneBuildInOrder relay) := by
  constructor
  · intro shows
    refine ⟨ordered_of_once client request relay nextSequence shows.once,?_⟩
    intro outcome action answered completed evidence actor operation active
    rw [checks_six,auditStages_value]
    obtain ⟨one,ordered⟩ := shows.completed action completed evidence
    have stages := relay.stages_shownInOrder action completed evidence one ordered
    rcases audit_cases client request relay nextSequence with
      ⟨outcome',known,-,same⟩|⟨error,-,-,known,-⟩
    · cases answered.symm.trans known
      rw [same,stages]
      rfl
    · cases answered.symm.trans known
  · intro accepting agrees
    refine ⟨once_of_ordered client request relay nextSequence accepting agrees.ordered,?_⟩
    intro action completed evidence
    apply relay.shownInOrder_of_stages
    rcases audit_cases client request relay nextSequence with
      ⟨outcome,known,returned,same⟩|⟨error,told,ending,-,-,-,-,all⟩
    · rw [completed] at returned
      obtain ⟨value,rfl⟩ := Option.isSome_iff_exists.mp (returned.mpr rfl)
      have passed := agrees.validated value action known completed evidence .null .null .null
      rw [checks_six,auditStages_value,same] at passed
      have names : stageNames relay.stages=
          stageNames [.relayCreated,.delivered,.accepted,.heartbeatObserved] :=
        List.append_cancel_right (List.cons.inj passed).2
      exact CooperativeActionStage.name_injective.list_map names
    · rw [completed] at all
      cases (all accepting).2

/-- A client whose audit file takes every line. -/
def fixtureReloadClient : ChromeExtensionReloadClient where
  target := "aku-bridge"
  configurationFingerprint := "sha256:fixture"
  disk n := ⟨n,none⟩

def fixtureReloadRequest : ReloadRequest :=
  ⟨.codex,⟨"load extension build",by decide,by decide⟩,"request-1"⟩

def fixtureAction (fields : List (String × String)) : JsonValue :=
  .object [("action",.object (fields.map fun field => (field.1,.string field.2)))]

/-- The old build is seen once more between the acceptance and the reload. -/
def fixtureTwoBuilds : RelayAnswers where
  bootstrap := .ok (.object [("bridgeContractVersion",.string "2"),("bridgeToken",.string "token")])
  created := .ok (fixtureAction [("expectedBuildId","build-2"),("id","relay-1"),
    ("status","pending")])
  polls := [
    ⟨.ok (fixtureAction [("acceptedAt","t2"),("deliveredAt","t1"),("expectedBuildId","build-2"),
      ("id","relay-1"),("observedBuildId","build-1"),("status","accepted")]),false⟩,
    ⟨.ok (fixtureAction [("acceptedAt","t2"),("deliveredAt","t1"),("expectedBuildId","build-2"),
      ("id","relay-1"),("observedBuildId","build-2"),("status","completed")]),false⟩]

theorem reload_evidence_two_builds :
    ¬EvidenceAgrees fixtureReloadClient fixtureReloadRequest fixtureTwoBuilds 1 := by
  intro agrees
  exact absurd agrees.ordered (by decide +kernel)

end Agreement

end AkuSupervisor

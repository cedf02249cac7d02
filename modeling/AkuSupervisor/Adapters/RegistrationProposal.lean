import AkuSupervisor.Adapters.RegistrationWorkflow

namespace AkuSupervisor

/-- No service has an environment key that looks like a secret. -/
theorem ensureRegistrationSafeEnvironment_ok {config : SupervisorConfig} :
    ensureRegistrationSafeEnvironment config=.ok () ↔
      ∀(serviceId : String) (service : ServiceConfig),config.services[serviceId]?=some service →
        sensitiveEnvironmentKeys service.environment=[] := by
  have listed : ensureRegistrationSafeEnvironment config=.ok () ↔
      ∀service∈config.services.toList,sensitiveEnvironmentKeys service.2.environment=[] := by
    unfold ensureRegistrationSafeEnvironment
    simp only [List.isEmpty_iff,List.flatMap_eq_nil_iff,List.map_eq_nil_iff]
    constructor
    · intro h
      by_contra unsafeKey
      rw [if_neg unsafeKey] at h
      cases h
    · exact fun h => if_pos h
  rw [listed]
  constructor
  · intro h serviceId service there
    exact h (serviceId,service) (Std.ExtTreeMap.mem_toList_iff_getElem?_eq_some.mpr there)
  · intro h service mem
    exact h service.1 service.2 (Std.ExtTreeMap.mem_toList_iff_getElem?_eq_some.mp mem)

/-- Merging loses no issue that was there before. -/
theorem mergeIssues_eq_nil {issues more : List ConfigIssue} (none : mergeIssues issues more=[]) :
    issues=[] := by
  induction more generalizing issues with
  | nil => exact none
  | cons issue more ih =>
    have merged := ih none
    dsimp only at merged
    split_ifs at merged with known
    · exact merged
    · simp at merged

namespace RegistrationAuthority

variable (authority : RegistrationAuthority)

/-- The checks that a configuration passes when it is read. -/
structure Accepts (config : SupervisorConfig) : Prop where
  structural : SupervisorConfig.validateStructure authority.facts config=.ok ()
  environment : ensureRegistrationSafeEnvironment config=.ok ()

/-- The change leads from `current` to `proposed`, and nothing is wrong with it except, maybe, its
launch files. -/
structure Proposes (current : SupervisorConfig) (operation : RegistrationOperation)
    (serviceId : String) (service : Option ServiceConfig) (proposed : SupervisorConfig) : Prop where
  target : checkTarget current operation serviceId=.ok ()
  change : ∃warnings,proposeChange current operation serviceId service=.ok (proposed,[],warnings)
  contract : SupervisorConfig.structuralContractIssues authority.facts proposed=[]

/-- The commit of the draft makes `config` of `current`. -/
structure Applies (draft : RegistrationDraft) (current config : SupervisorConfig) : Prop where
  verified : authority.verifyDraft draft=.ok ()
  approved : draft.status=.approved
  based : authority.fingerprint current=draft.baseRevision
  accepted : authority.Accepts current
  proposed : ∃service,proposedService draft=.ok service ∧
    authority.Proposes current draft.operation draft.serviceId service config
  revision : authority.fingerprint config=draft.proposedRevision

variable {authority : RegistrationAuthority}

/-- A proposal without issues is accepted like the configuration it changes. -/
theorem Proposes.accepts {current proposed : SupervisorConfig} {operation : RegistrationOperation}
    {serviceId : String} {service : Option ServiceConfig} (accepted : authority.Accepts current)
    (proposes : authority.Proposes current operation serviceId service proposed) :
    authority.Accepts proposed := by
  refine ⟨SupervisorConfig.validateStructure_ok.mpr proposes.contract,?_⟩
  have before := ensureRegistrationSafeEnvironment_ok.mp accepted.environment
  obtain ⟨warnings,change⟩ := proposes.change
  -- an insertion adds a service without such keys, and a removal adds none
  have inserted (added : ServiceConfig)
      (keys : sensitiveEnvironmentKeys added.environment=[]) :
      ensureRegistrationSafeEnvironment
        { current with services := current.services.insert serviceId added }=.ok () := by
    refine ensureRegistrationSafeEnvironment_ok.mpr fun id found there => ?_
    rw [Std.ExtTreeMap.getElem?_insert] at there
    split_ifs at there with same
    · cases there
      exact keys
    · exact before id found there
  unfold proposeChange at change
  cases operation with
  | register =>
    cases service with
    | none => cases change
    | some added =>
      simp only [Except.ok.injEq,Prod.mk.injEq,List.map_eq_nil_iff] at change
      obtain ⟨rfl,keys,-⟩ := change
      exact inserted added keys
  | update =>
    cases service with
    | none => cases change
    | some added =>
      simp only [Except.ok.injEq,Prod.mk.injEq,List.map_eq_nil_iff] at change
      obtain ⟨rfl,keys,-⟩ := change
      exact inserted added keys
  | unregister =>
    cases service with
    | some added => cases change
    | none =>
      simp only [Except.ok.injEq,Prod.mk.injEq] at change
      obtain ⟨rfl,-,-⟩ := change
      refine ensureRegistrationSafeEnvironment_ok.mpr fun id found there => ?_
      rw [Std.ExtTreeMap.getElem?_erase] at there
      split_ifs at there with same
      exact before id found there

/-- The configuration that a commit writes is accepted when it is read again. -/
theorem Applies.accepts {draft : RegistrationDraft} {current config : SupervisorConfig}
    (applies : authority.Applies draft current config) : authority.Accepts config := by
  obtain ⟨service,-,proposes⟩ := applies.proposed
  exact proposes.accepts applies.accepted

end RegistrationAuthority

end AkuSupervisor

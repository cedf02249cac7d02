import AkuSupervisor.Application.ServiceRegistry

namespace AkuSupervisor

namespace ServiceRegistry

open Std

variable {P : Type}

/-- The entry a service has after a reconciliation, from the one it had before. -/
def retained (before : Option (ServiceEntry P)) (registration : ServiceRegistration) :
    ServiceEntry P :=
  match before with
  | some entry =>
    if entry.registration=registration then entry else ServiceEntry.new registration
  | none => ServiceEntry.new registration

/-- Whether a service is registered before and after, with a different registration. -/
def differs (before : Option (ServiceEntry P)) (registration : ServiceRegistration) : Bool :=
  match before with
  | some entry => entry.registration≠registration
  | none => false

theorem retained_registration (before : Option (ServiceEntry P))
    (registration : ServiceRegistration) :
    (retained before registration).registration=registration := by
  unfold retained
  split
  · split_ifs with same
    · exact same
    · rfl
  · rfl

theorem collect_from (registrations : List ServiceRegistration)
    (m desired : ServiceMap ServiceRegistration)
    (h : registrations.foldlM (fun desired registration =>
      if registration.id∈desired then .error registration.id
      else .ok (desired.insert registration.id registration)) m=(.ok desired : Except String _))
    (id : String) (registration : ServiceRegistration) :
    desired[id]?=some registration ↔
      m[id]?=some registration ∨ registration∈registrations ∧ registration.id=id := by
  induction registrations generalizing m with
  | nil =>
    cases h
    simp
  | cons first rest ih =>
    rw [List.foldlM_cons] at h
    by_cases taken : first.id∈m
    · simp [taken,bind,Except.bind] at h
    · simp only [taken,if_false,bind,Except.bind] at h
      have absent : m[first.id]?=none := ExtTreeMap.getElem?_eq_none taken
      rw [ih _ h,ServiceMap.lookup_insert]
      by_cases here : first.id=id
      · subst here
        simp only [if_true,absent,Option.some.injEq,List.mem_cons,reduceCtorEq,false_or]
        grind
      · simp only [here,if_false,List.mem_cons]
        grind

/-- Collecting loses nothing and invents nothing. -/
theorem collect_ok (registrations : List ServiceRegistration)
    (desired : ServiceMap ServiceRegistration) (h : collect registrations=.ok desired)
    (id : String) (registration : ServiceRegistration) :
    desired[id]?=some registration ↔ registration∈registrations ∧ registration.id=id := by
  rw [collect_from registrations ∅ desired h]
  simp

theorem collect_distinct (registrations : List ServiceRegistration)
    (m desired : ServiceMap ServiceRegistration)
    (h : registrations.foldlM (fun desired registration =>
      if registration.id∈desired then .error registration.id
      else .ok (desired.insert registration.id registration)) m=(.ok desired : Except String _)) :
    (registrations.map ServiceRegistration.id).Nodup ∧
      ∀registration∈registrations,registration.id∉m := by
  induction registrations generalizing m with
  | nil => simp
  | cons first rest ih =>
    rw [List.foldlM_cons] at h
    by_cases taken : first.id∈m
    · simp [taken,bind,Except.bind] at h
    · simp only [taken,if_false,bind,Except.bind] at h
      obtain ⟨distinct,fresh⟩ := ih _ h
      simp only [ExtTreeMap.mem_insert,LawfulEqCmp.compare_eq_iff_eq,not_or] at fresh
      refine ⟨List.nodup_cons.mpr ⟨?_,distinct⟩,?_⟩
      · intro repeated
        obtain ⟨registration,mem,same⟩ := List.mem_map.mp repeated
        exact (fresh registration mem).1 same.symm
      · intro registration mem
        rcases List.mem_cons.mp mem with rfl|mem
        · exact taken
        · exact (fresh registration mem).2

theorem collect_nodup (registrations : List ServiceRegistration)
    (desired : ServiceMap ServiceRegistration) (h : collect registrations=.ok desired) :
    (registrations.map ServiceRegistration.id).Nodup :=
  (collect_distinct registrations ∅ desired h).1

theorem collect_isOk (registrations : List ServiceRegistration)
    (m : ServiceMap ServiceRegistration)
    (distinct : (registrations.map ServiceRegistration.id).Nodup)
    (fresh : ∀registration∈registrations,registration.id∉m) :
    ∃desired,registrations.foldlM (fun desired registration =>
      if registration.id∈desired then .error registration.id
      else .ok (desired.insert registration.id registration)) m=
        (.ok desired : Except String (ServiceMap ServiceRegistration)) := by
  induction registrations generalizing m with
  | nil => exact ⟨m,rfl⟩
  | cons first rest ih =>
    obtain ⟨new,distinct⟩ := List.nodup_cons.mp distinct
    rw [List.foldlM_cons,if_neg (fresh first List.mem_cons_self)]
    refine ih (m.insert first.id first) distinct fun registration mem => ?_
    rw [ExtTreeMap.mem_insert,LawfulEqCmp.compare_eq_iff_eq,not_or]
    refine ⟨fun same => new ?_,fresh registration (List.mem_cons_of_mem first mem)⟩
    rw [same]
    exact List.mem_map_of_mem mem

/-- One service's step of the bulk update. -/
theorem reconcileOne_eq (state : Reconciliation P) (id : String)
    (registration : ServiceRegistration) :
    reconcileOne state (id,registration)=
      ⟨state.current.erase id,state.next.insert id (retained state.current[id]? registration),
        state.added++(if state.current[id]?.isNone then [id] else []),
        state.updated++(if differs state.current[id]? registration then [id] else [])⟩ := by
  unfold reconcileOne retained differs
  cases found : state.current[id]? with
  | none =>
    have absent : state.current.erase id=state.current := by
      refine ExtTreeMap.ext_getElem? fun key => ?_
      rw [ServiceMap.lookup_erase]
      split_ifs with same
      · rw [← same,found]
      · rfl
    simp [absent]
  | some entry =>
    by_cases same : entry.registration=registration <;> simp [same]

/-- The bulk update over distinct services, whichever entries were there before. -/
theorem foldl_reconcileOne (desired : List (String × ServiceRegistration))
    (distinct : (desired.map Prod.fst).Nodup) (state : Reconciliation P) :
    let after := desired.foldl reconcileOne state
    (∀id,after.current[id]?=if id∈desired.map Prod.fst then none else state.current[id]?) ∧
    (∀id,id∉desired.map Prod.fst → after.next[id]?=state.next[id]?) ∧
    (∀id registration,(id,registration)∈desired →
      after.next[id]?=some (retained state.current[id]? registration)) ∧
    after.added=state.added++
      (desired.filter fun service => state.current[service.1]?.isNone).map Prod.fst ∧
    after.updated=state.updated++
      (desired.filter fun service => differs state.current[service.1]? service.2).map
        Prod.fst := by
  induction desired generalizing state with
  | nil => simp
  | cons service rest ih =>
    obtain ⟨first,registration⟩ := service
    simp only [List.map_cons,List.nodup_cons] at distinct
    obtain ⟨fresh,distinct⟩ := distinct
    have elsewhere : ∀service∈rest,
        (reconcileOne state (first,registration)).current[service.1]?=
          state.current[service.1]? := by
      intro service mem
      rw [reconcileOne_eq,ServiceMap.lookup_erase,if_neg]
      intro same
      subst same
      exact fresh (List.mem_map_of_mem mem)
    obtain ⟨current,missed,next,added,updated⟩ :=
      ih distinct (reconcileOne state (first,registration))
    refine ⟨?_,?_,?_,?_,?_⟩
    · intro id
      rw [List.foldl_cons,current,reconcileOne_eq,ServiceMap.lookup_erase]
      by_cases later : id∈rest.map Prod.fst <;> by_cases here : first=id <;>
        simp [later,here,eq_comm]
    · intro id missing
      rw [List.map_cons,List.mem_cons,not_or] at missing
      rw [List.foldl_cons,missed id missing.2,reconcileOne_eq,ServiceMap.lookup_insert,
        if_neg (Ne.symm missing.1)]
    · intro id registration' mem
      rcases List.mem_cons.mp mem with eq|mem
      · cases eq
        rw [List.foldl_cons,missed first fresh,reconcileOne_eq,ServiceMap.lookup_insert,
          if_pos rfl]
      · rw [List.foldl_cons,next id registration' mem,elsewhere _ mem]
    · rw [List.foldl_cons,added,List.filter_congr fun service mem => by rw [elsewhere service mem],
        reconcileOne_eq,List.filter_cons,List.append_assoc]
      cases state.current[first]? <;> simp
    · rw [List.foldl_cons,updated,
        List.filter_congr fun service mem => by rw [elsewhere service mem],
        reconcileOne_eq,List.filter_cons,List.append_assoc]
      cases differs state.current[first]? registration <;> simp

theorem forM_requireInactive (desired : ServiceMap ServiceRegistration)
    (services : List (String × ServiceEntry P)) (self : ServiceRegistry P) :
    (services.forM (requireInactive desired)).run self=
      match services.find? fun service =>
          changedOrRemoved desired service.1 service.2 && active service.2 with
      | some service => .error (.serviceActive service.1) self
      | none => .ok () self := by
  induction services with
  | nil => rfl
  | cons service rest ih =>
    rw [List.forM,EStateM.run_bind,requireInactive,List.find?_cons]
    cases changedOrRemoved desired service.1 service.2 && active service.2 with
    | true => simp
    | false => simpa using ih

/-- Either nothing happens, or the whole update does. -/
theorem run_reconcileRegistrations (self : ServiceRegistry P)
    (registrations : List ServiceRegistration) :
    (∃error,(reconcileRegistrations registrations).run self=.error error self) ∨
    ∃desired,collect registrations=.ok desired ∧
      (∀service∈self.services.toList,
        ¬(changedOrRemoved desired service.1 service.2=true ∧ active service.2=true)) ∧
      (reconcileRegistrations registrations).run self=
        let state := desired.toList.foldl reconcileOne ⟨self.services,∅,[],[]⟩
        .ok ⟨state.added,state.updated,state.current.keys⟩ { self with services := state.next } := by
  unfold reconcileRegistrations
  cases collected : collect registrations with
  | error serviceId => exact .inl ⟨_,rfl⟩
  | ok desired =>
    simp only [EStateM.run_bind,EStateM.run_get,forM_requireInactive]
    cases refusal : self.services.toList.find? fun service =>
        changedOrRemoved desired service.1 service.2 && active service.2 with
    | some service => exact .inl ⟨_,rfl⟩
    | none =>
      refine .inr ⟨desired,rfl,?_,rfl⟩
      simpa using refusal

/-- What a reconciliation to `desired` that is not refused does. -/
structure Reconciles (before : ServiceRegistry P) (desired : ServiceMap ServiceRegistration)
    (outcome : RegistryReconcileOutcome) (after : ServiceRegistry P) : Prop where
  window : after.restartStabilityWindow=before.restartStabilityWindow
  lookup : ∀id : String,after.services[id]?=desired[id]?.map (retained before.services[id]?)
  kept : ∀(id : String) (entry : ServiceEntry P),before.services[id]?=some entry →
    active entry=true → desired[id]?=some entry.registration
  added : outcome.added=
    (desired.toList.filter fun service => before.services[service.1]?.isNone).map Prod.fst
  updated : outcome.updated=
    (desired.toList.filter fun service => differs before.services[service.1]? service.2).map Prod.fst
  removed_nodup : outcome.removed.Nodup
  removed : ∀id : String,id∈outcome.removed ↔ id∈before.services ∧ id∉desired

theorem reconcileRegistrations_cases (self : ServiceRegistry P)
    (registrations : List ServiceRegistration) :
    (∃error,(reconcileRegistrations registrations).run self=.error error self) ∨
    ∃desired outcome after,collect registrations=.ok desired ∧
      (reconcileRegistrations registrations).run self=.ok outcome after ∧
      Reconciles self desired outcome after := by
  rcases run_reconcileRegistrations self registrations with
    refused|⟨desired,collected,inactive,run⟩
  · exact .inl refused
  · have distinct : (desired.toList.map Prod.fst).Nodup := by
      rw [ExtTreeMap.map_fst_toList_eq_keys]
      exact ExtTreeMap.nodup_keys
    have listed (id : String) : id∈desired.toList.map Prod.fst ↔ id∈desired := by
      rw [ExtTreeMap.map_fst_toList_eq_keys,ExtTreeMap.mem_keys]
    obtain ⟨current,missed,next,added,updated⟩ :=
      foldl_reconcileOne desired.toList distinct ⟨self.services,∅,[],[]⟩
    refine .inr ⟨desired,_,_,collected,run,rfl,?_,?_,added,updated,ExtTreeMap.nodup_keys,?_⟩
    · intro id
      cases wanted : desired[id]? with
      | none =>
        have absent : id∉desired.toList.map Prod.fst := by
          rw [listed,ExtTreeMap.mem_iff_isSome_getElem?,wanted]
          simp
        rw [missed id absent]
        simp
      | some registration =>
        exact next id registration (ExtTreeMap.mem_toList_iff_getElem?_eq_some.mpr wanted)
    · intro id entry here busy
      have allowed := inactive (id,entry) (ExtTreeMap.mem_toList_iff_getElem?_eq_some.mpr here)
      simp only [busy,and_true,changedOrRemoved] at allowed
      split at allowed
      · simp at allowed
      · rename_i registration wanted
        rw [wanted]
        simpa using allowed
    · intro id
      rw [ExtTreeMap.mem_keys,ExtTreeMap.mem_iff_isSome_getElem?,current]
      simp only [listed]
      by_cases wanted : id∈desired
      · simp [wanted]
      · simp only [wanted,if_false,ExtTreeMap.mem_iff_isSome_getElem?,not_false_eq_true,and_true]

theorem names_nodup (desired : ServiceMap ServiceRegistration)
    (p : String × ServiceRegistration → Bool) :
    ((desired.toList.filter p).map Prod.fst).Nodup := by
  have distinct : (desired.toList.map Prod.fst).Nodup := by
    rw [ExtTreeMap.map_fst_toList_eq_keys]
    exact ExtTreeMap.nodup_keys
  exact distinct.sublist (List.filter_sublist.map _)

namespace Reconciles

variable {before after : ServiceRegistry P} {desired : ServiceMap ServiceRegistration}
  {outcome : RegistryReconcileOutcome} (h : Reconciles before desired outcome after)

include h

theorem mem_services (id : String) : id∈after.services ↔ id∈desired := by
  rw [ExtTreeMap.mem_iff_isSome_getElem?,h.lookup,Option.isSome_map,
    ExtTreeMap.mem_iff_isSome_getElem?]

theorem unchanged (id : String) (entry : ServiceEntry P) (here : before.services[id]?=some entry)
    (same : desired[id]?=some entry.registration) : after.services[id]?=some entry := by
  rw [h.lookup,same,here]
  simp [retained]

theorem fresh (id : String) (registration : ServiceRegistration)
    (wanted : desired[id]?=some registration)
    (new : ∀entry,before.services[id]?=some entry → entry.registration≠registration) :
    after.services[id]?=some (ServiceEntry.new registration) := by
  rw [h.lookup,wanted]
  cases here : before.services[id]? with
  | none => rfl
  | some entry => simp [retained,new entry here]

theorem active_kept (id : String) (entry : ServiceEntry P)
    (here : before.services[id]?=some entry) (busy : active entry=true) :
    after.services[id]?=some entry :=
  h.unchanged id entry here (h.kept id entry here busy)

theorem mem_added (id : String) : id∈outcome.added ↔ id∈after.services ∧ id∉before.services := by
  rw [h.added,h.mem_services]
  simp only [List.mem_map,List.mem_filter,Prod.exists,ExtTreeMap.mem_toList_iff_getElem?_eq_some,
    Option.isNone_iff_eq_none,ServiceMap.mem_iff desired,ServiceMap.not_mem_iff]
  constructor
  · intro h
    obtain ⟨id,registration,⟨wanted,absent⟩,rfl⟩ := h
    exact ⟨⟨registration,wanted⟩,absent⟩
  · intro h
    obtain ⟨⟨registration,wanted⟩,absent⟩ := h
    exact ⟨id,registration,⟨wanted,absent⟩,rfl⟩

theorem mem_updated (id : String) :
    id∈outcome.updated ↔ ∃old entry,before.services[id]?=some old ∧
      after.services[id]?=some entry ∧ old.registration≠entry.registration := by
  rw [h.updated]
  simp only [List.mem_map,List.mem_filter,Prod.exists,ExtTreeMap.mem_toList_iff_getElem?_eq_some]
  constructor
  · intro h
    obtain ⟨id,registration,⟨wanted,changed⟩,rfl⟩ := h
    cases here : before.services[id]? with
    | none => simp [differs,here] at changed
    | some old =>
      refine ⟨old,retained (some old) registration,rfl,by rw [h.lookup,wanted,here]; rfl,?_⟩
      rw [retained_registration]
      simpa [differs,here] using changed
  · intro h
    obtain ⟨old,entry,here,there,changed⟩ := h
    rw [h.lookup,Option.map_eq_some_iff] at there
    obtain ⟨registration,wanted,rfl⟩ := there
    rw [retained_registration] at changed
    exact ⟨id,registration,⟨wanted,by simpa [differs,here] using changed⟩,rfl⟩

end Reconciles

/-- The registrations are refused: an ID comes twice, or something active would change or go. -/
def Refuses (registrations : List ServiceRegistration) (r : ServiceRegistry P) : Prop :=
  ¬(registrations.map ServiceRegistration.id).Nodup ∨
    ∃(id : String) (e : ServiceEntry P),r.services[id]?=some e ∧ active e=true ∧
      e.registration∉registrations

theorem run_of_refuses (registrations : List ServiceRegistration) (r : ServiceRegistry P)
    (refuses : Refuses registrations r) :
    ∃error,(reconcileRegistrations registrations).run r=.error error r := by
  rcases reconcileRegistrations_cases r registrations with
    refused|⟨desired,outcome,after,collected,run,h⟩
  · exact refused
  · rcases refuses with repeated|⟨id,e,here,busy,missing⟩
    · exact absurd (collect_nodup registrations desired collected) repeated
    · have kept := (collect_ok registrations desired collected id _).mp (h.kept id e here busy)
      exact absurd kept.1 missing

/-- What is not refused is applied. -/
theorem run_of_not_refuses (registrations : List ServiceRegistration) (r : ServiceRegistry P)
    (keyed : ∀(id : String) (e : ServiceEntry P),r.services[id]?=some e → e.registration.id=id)
    (accepts : ¬Refuses registrations r) :
    ∃outcome after,(reconcileRegistrations registrations).run r=.ok outcome after := by
  obtain ⟨distinct,kept⟩ := not_or.mp accepts
  obtain ⟨desired,collected⟩ := collect_isOk registrations ∅ (not_not.mp distinct) (by simp)
  have collected : collect registrations=.ok desired := collected
  unfold reconcileRegistrations
  rw [collected]
  simp only [EStateM.run_bind,EStateM.run_get,forM_requireInactive]
  cases refusal : r.services.toList.find? fun service =>
      changedOrRemoved desired service.1 service.2 && active service.2 with
  | none => exact ⟨_,_,rfl⟩
  | some service =>
    have both := List.find?_some refusal
    obtain ⟨changed,busy⟩ := Bool.and_eq_true_iff.mp both
    have here := ExtTreeMap.mem_toList_iff_getElem?_eq_some.mp (List.mem_of_find?_eq_some refusal)
    exfalso
    apply kept
    refine ⟨service.1,service.2,here,busy,fun mem => ?_⟩
    have wanted := (collect_ok registrations desired collected service.1 _).mpr
      ⟨mem,keyed service.1 service.2 here⟩
    simp [changedOrRemoved,wanted] at changed

/-- A reconciliation of the live topology is atomic. Refused, it changes nothing. Applied, the
services are exactly the desired ones, an unchanged registration keeps its whole entry, a changed
or new one gets a fresh entry, the outcome names the differences, and nothing that was active is
replaced or dropped. -/
theorem reconcileRegistrations_atomic (self : ServiceRegistry P)
    (registrations : List ServiceRegistration) :
    match (reconcileRegistrations registrations).run self with
    | .error _ after => after=self
    | .ok outcome after =>
      (∀id : String,id∈after.services ↔ ∃registration∈registrations,registration.id=id) ∧
      (∀registration∈registrations,∀entry,self.services[registration.id]?=some entry →
        entry.registration=registration → after.services[registration.id]?=some entry) ∧
      (∀registration∈registrations,
        (∀entry,self.services[registration.id]?=some entry → entry.registration≠registration) →
        after.services[registration.id]?=some (ServiceEntry.new registration)) ∧
      outcome.added.Nodup ∧
      (∀id,id∈outcome.added ↔ id∈after.services ∧ id∉self.services) ∧
      outcome.updated.Nodup ∧
      (∀id,id∈outcome.updated ↔ ∃before entry,self.services[id]?=some before ∧
        after.services[id]?=some entry ∧ before.registration≠entry.registration) ∧
      outcome.removed.Nodup ∧
      (∀id,id∈outcome.removed ↔ id∈self.services ∧ id∉after.services) ∧
      ∀(id : String) (entry : ServiceEntry P),self.services[id]?=some entry →
        entry.runtime.process.isSome=true ∨ entry.supervision.desiredState=.running →
        after.services[id]?=some entry := by
  rcases reconcileRegistrations_cases self registrations with
    ⟨error,run⟩|⟨desired,outcome,after,collected,run,h⟩
  · rw [run]
  · rw [run]
    refine ⟨?_,?_,?_,?_,h.mem_added,?_,h.mem_updated,h.removed_nodup,?_,?_⟩
    · intro id
      rw [h.mem_services,ExtTreeMap.mem_iff_isSome_getElem?,Option.isSome_iff_exists]
      simp only [collect_ok registrations desired collected]
    · intro registration mem entry here same
      refine h.unchanged registration.id entry here ?_
      rw [same]
      exact (collect_ok registrations desired collected _ _).mpr ⟨mem,rfl⟩
    · intro registration mem new
      exact h.fresh registration.id registration
        ((collect_ok registrations desired collected _ _).mpr ⟨mem,rfl⟩) new
    · rw [h.added]
      exact names_nodup desired _
    · rw [h.updated]
      exact names_nodup desired _
    · intro id
      rw [h.removed,h.mem_services]
    · intro id entry here busy
      refine h.active_kept id entry here ?_
      rcases busy with owner|wanted
      · simp [active,ServiceRuntime.hasProcess,owner]
      · simp [active,wanted]

end ServiceRegistry

end AkuSupervisor

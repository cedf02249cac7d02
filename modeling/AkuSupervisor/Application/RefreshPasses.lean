import AkuSupervisor.Application.Recovery
import Mathlib.Data.List.Forall2

namespace AkuSupervisor

open StateError ServiceRegistry

/-- A `refresh_services` call under way: the services it has still to visit, and what it has
collected from the others. -/
structure RefreshPass where
  todo : List String
  collected : List ServiceRefresh

def RefreshPass.exits (pass : RefreshPass) : List ProcessExitEvent :=
  pass.collected.filterMap (·.processExit)

/-- A registry with the refresh passes under way on it, the exits that the platform has reported
so far, and those in the lists that passes have returned to their callers. -/
structure WatchedRegistry (P : Type) where
  registry : ServiceRegistry P
  passes : List RefreshPass
  observed : List ProcessExitEvent
  returned : List ProcessExitEvent

/-- Steps of several threads on one registry. A pass visits its services one at a time, and lets
requests and other passes in between. -/
inductive WatchOp (P E Q : Type) where
  | request (platform : Platform P E Q) (action : LifecycleAction) (serviceId : String)
      (actor : Actor) (reason : Reason)
  | reconcile (registrations : List ServiceRegistration)
  | begin
  | visit (pass : Nat) (platform : Platform P E Q)
  | finish (pass : Nat)

namespace WatchOp

variable {P E Q : Type}

/-- The exit status among the answers of one visit. -/
def exitStatus (calls : List (TreeCall P E)) : Option ExitStatus :=
  calls.findSome? fun
    | .tryWait _ (.ok status) => status
    | _ => none

/-- The event for the exit that the platform reports on a visit. -/
def observedExit (platform : Platform P E Q) (serviceId : String) (r : ServiceRegistry P) :
    Option ProcessExitEvent :=
  r.services[serviceId]?.bind fun e =>
    (exitStatus ((RegistryOp.refresh platform serviceId).apply r).calls).map
      (e.exitEvent platform r.restartStabilityWindow)

/-- A pass ends with the list it has collected, or with the first error of a visit. Reconciliation
needs the write lock, which it does not get while a pass is under way. -/
def step (op : WatchOp P E Q) (s : WatchedRegistry P) : WatchedRegistry P :=
  match op with
  | .request platform action serviceId actor reason =>
    { s with
      registry := (RegistryOp.request platform action serviceId actor reason).step s.registry }
  | .reconcile registrations =>
    if s.passes.isEmpty then
      { s with registry :=
          (RegistryOp.reconcile registrations : RegistryOp P E Q).step s.registry }
    else s
  | .begin => { s with passes := s.passes++[⟨s.registry.serviceIds,[]⟩] }
  | .visit n platform =>
    match s.passes[n]? with
    | some ⟨serviceId::todo,collected⟩ =>
      { s with
        registry := (RegistryOp.refresh platform serviceId).step s.registry
        observed := s.observed++(observedExit platform serviceId s.registry).toList
        passes := match (refreshEntry platform serviceId).run ⟨s.registry,[]⟩ with
          | .ok refresh _ => s.passes.set n ⟨todo,collected++[refresh]⟩
          | .error _ _ => s.passes.eraseIdx n }
    | _ => s
  | .finish n =>
    match s.passes[n]? with
    | some ⟨[],collected⟩ =>
      { s with
        passes := s.passes.eraseIdx n
        returned := s.returned++collected.filterMap (·.processExit) }
    | _ => s

end WatchOp

namespace WatchedRegistry

variable {P : Type}

def new (r : ServiceRegistry P) : WatchedRegistry P := ⟨r,[],[],[]⟩

/-- The exits that callers know of or will, if their passes do not fail. -/
def accounted (s : WatchedRegistry P) : List ProcessExitEvent :=
  s.returned++s.passes.flatMap RefreshPass.exits

/-- Every exit the platform has reported is in exactly one event, which its pass has returned or
is still carrying. -/
def ExactlyOnce (s : WatchedRegistry P) : Prop := s.observed.Perm s.accounted

structure Sound (s : WatchedRegistry P) : Prop where
  registry : s.registry.Sound
  listed : ∀pass∈s.passes,∀id∈pass.todo,id∈s.registry.services

/-- What `s'` has observed more than `s` is accounted for, but for the exits in `lost`. -/
def Balances (s s' : WatchedRegistry P) (lost : List ProcessExitEvent) : Prop :=
  (s'.observed++s.accounted).Perm (s.observed++(s'.accounted++lost))

theorem Balances.refl (s : WatchedRegistry P) : Balances s s [] := by
  unfold Balances
  rw [List.append_nil]

theorem Balances.trans {s t u : WatchedRegistry P} {lost lost' : List ProcessExitEvent}
    (h : Balances s t lost) (k : Balances t u lost') : Balances s u (lost++lost') := by
  unfold Balances at h k ⊢
  rw [List.perm_iff_count] at h k ⊢
  intro event
  have first := h event
  have second := k event
  simp only [List.count_append] at first second ⊢
  omega

/-- Nothing is observed and nothing leaves a pass. -/
theorem balanced_of_eq {s s' : WatchedRegistry P} (observed : s'.observed=s.observed)
    (accounted : s'.accounted=s.accounted) : Balances s s' [] := by
  unfold Balances
  rw [observed,accounted,List.append_nil]

end WatchedRegistry

namespace WatchOp

open WatchedRegistry

variable {P E Q : Type}

/-- The visit fails while its pass is already carrying an exit. -/
def Loses (s : WatchedRegistry P) (op : WatchOp P E Q) : Prop :=
  ∃n platform serviceId todo collected e,op=.visit n platform ∧
    s.passes[n]?=some ⟨serviceId::todo,collected⟩ ∧
    s.registry.services[serviceId]?=some e ∧ (∃error,e.sighting platform=.error error) ∧
    ∃refresh∈collected,refresh.processExit≠none

theorem exitStatus_noExit (calls : List (TreeCall P E)) (looked : ServiceEntry.NoExit calls) :
    exitStatus calls=none := by
  refine List.findSome?_eq_none_iff.mpr fun call mem => ?_
  obtain ⟨process,answer,rfl,silent⟩ := looked call mem
  rcases answer with error|(_|status)
  · rfl
  · rfl
  · exact absurd rfl (silent status)

/-- A visit fails and sees no exit exactly when its observation fails. Otherwise it returns the
exit that it sees, if any. -/
theorem visit_cases (platform : Platform P E Q) (serviceId : String) (r : ServiceRegistry P)
    (sound : r.Sound) (e : ServiceEntry P) (here : r.services[serviceId]?=some e) :
    (∃error failure t,e.sighting platform=.error error ∧
      (refreshEntry platform serviceId).run ⟨r,[]⟩=.error failure t ∧
      observedExit platform serviceId r=none) ∨
    ∃status refresh t,e.sighting platform=.ok status ∧
      (refreshEntry platform serviceId).run ⟨r,[]⟩=.ok refresh t ∧
      observedExit platform serviceId r=refresh.processExit := by
  have cases := ServiceEntry.refresh_cases platform r.restartStabilityWindow e
    (sound.consistent serviceId e here)
  have calls : ((RegistryOp.refresh platform serviceId).apply r).calls=
      (final ((ServiceEntry.refresh platform r.restartStabilityWindow).run ⟨e,[]⟩)).calls := by
    rw [RegistryOp.apply,run_refreshEntry,final_withEntry,here]
    rfl
  rw [observedExit,here,Option.bind_some,calls,run_refreshEntry,run_withEntry,here]
  simp only
  generalize (ServiceEntry.refresh platform r.restartStabilityWindow).run ⟨e,[]⟩=result at cases ⊢
  cases cases with
  | failed error e' calls seen quiet looked =>
    refine .inl ⟨error,_,_,seen,rfl,?_⟩
    rw [final_error,exitStatus_noExit calls looked]
    rfl
  | live health e' calls seen quiet looked =>
    refine .inr ⟨_,_,_,seen,rfl,?_⟩
    rw [final_ok,exitStatus_noExit calls looked]
    rfl
  | exited process status seen owned => exact .inr ⟨_,_,_,seen,rfl,rfl⟩

theorem sound_step (op : WatchOp P E Q) (s : WatchedRegistry P) (sound : s.Sound) :
    (op.step s).Sound := by
  have kept (op : RegistryOp P E Q) (other : ∀registrations,op≠.reconcile registrations)
      (id : String) (here : id∈s.registry.services) : id∈(op.step s.registry).services :=
    op.registered_step s.registry sound.registry other id here
  cases op with
  | request platform action serviceId actor reason =>
    exact ⟨RegistryOp.sound_step _ _ sound.registry,fun pass mem id todo =>
      kept _ (by simp) id (sound.listed pass mem id todo)⟩
  | reconcile registrations =>
    rw [step]
    split_ifs with idle
    · refine ⟨RegistryOp.sound_step _ _ sound.registry,fun pass mem => ?_⟩
      rw [List.isEmpty_iff.mp idle] at mem
      simp at mem
    · exact sound
  | begin =>
    refine ⟨sound.registry,fun pass mem id todo => ?_⟩
    rcases List.mem_append.mp mem with earlier|last
    · exact sound.listed pass earlier id todo
    · rw [List.mem_singleton.mp last] at todo
      exact Std.ExtTreeMap.mem_keys.mp todo
  | visit n platform =>
    rw [step]
    split
    · rename_i serviceId todo collected here
      refine ⟨RegistryOp.sound_step _ _ sound.registry,fun pass mem id left => ?_⟩
      refine kept _ (by simp) id ?_
      have listed := sound.listed _ (List.mem_of_getElem? here)
      split at mem
      · rcases List.mem_or_eq_of_mem_set mem with old|rfl
        · exact sound.listed pass old id left
        · exact listed id (List.mem_cons_of_mem serviceId left)
      · exact sound.listed pass (List.mem_of_mem_eraseIdx mem) id left
    · exact sound
  | finish n =>
    rw [step]
    split
    · exact ⟨sound.registry,fun pass mem => sound.listed pass (List.mem_of_mem_eraseIdx mem)⟩
    · exact sound

/-- A pass in the middle of the passes under way. -/
theorem split_at {passes : List RefreshPass} {n : Nat} {pass : RefreshPass}
    (here : passes[n]?=some pass) :
    ∃before after,passes=before++pass::after ∧ passes.eraseIdx n=before++after ∧
      ∀pass',passes.set n pass'=before++pass'::after := by
  obtain ⟨bound,rfl⟩ := List.getElem?_eq_some_iff.mp here
  refine ⟨passes.take n,passes.drop (n+1),?_,List.eraseIdx_eq_take_drop_succ passes n,?_⟩
  · rw [← List.drop_eq_getElem_cons bound,List.take_append_drop]
  · intro pass'
    exact List.set_eq_take_append_cons_drop.trans (if_pos bound)

theorem balanced_visit (s : WatchedRegistry P) (sound : s.Sound) (n : Nat)
    (platform : Platform P E Q) (serviceId : String) (todo : List String)
    (collected : List ServiceRefresh) (here : s.passes[n]?=some ⟨serviceId::todo,collected⟩) :
    ∃lost,(lost=[] ↔ ¬Loses s (.visit n platform)) ∧
      Balances s (step (.visit n platform) s) lost := by
  have listed := sound.listed _ (List.mem_of_getElem? here) serviceId List.mem_cons_self
  obtain ⟨e,found⟩ := (ServiceMap.mem_iff _ _).mp listed
  obtain ⟨before,after,split,removed,replaced⟩ := split_at here
  rw [step,here]
  simp only
  rcases visit_cases platform serviceId s.registry sound.registry e found with
    ⟨error,failure,t,seen,run,unseen⟩|⟨status,refresh,t,seen,run,observed⟩
  · -- what the failing pass carries is lost
    refine ⟨collected.filterMap (·.processExit),?_,?_⟩
    · rw [List.filterMap_eq_nil_iff]
      constructor
      · intro nothing h
        obtain ⟨n',platform',serviceId',todo',collected',e',visit,pass,-,-,refresh,mem,exit⟩ := h
        cases visit
        cases here.symm.trans pass
        exact exit (nothing refresh mem)
      · intro keeps refresh mem
        by_contra exit
        exact keeps ⟨n,platform,serviceId,todo,collected,e,rfl,here,found,⟨error,seen⟩,refresh,mem,
          exit⟩
    · rw [run,unseen]
      simp only [Balances,accounted,removed,Option.toList_none,List.append_nil]
      rw [split,List.perm_iff_count]
      intro event
      simp only [List.flatMap_append,List.flatMap_cons,List.count_append,RefreshPass.exits]
      omega
  · refine ⟨[],?_,?_⟩
    · simp only [true_iff]
      intro h
      obtain ⟨n',platform',serviceId',todo',collected',e',visit,pass,found',⟨error,fails⟩,-⟩ := h
      cases visit
      cases here.symm.trans pass
      cases found.symm.trans found'
      cases seen.symm.trans fails
    · have single : [refresh].filterMap (·.processExit)=refresh.processExit.toList := by
        cases exit : refresh.processExit <;> simp [exit]
      rw [run,observed]
      simp only [Balances,accounted,replaced]
      rw [split,List.perm_iff_count]
      intro event
      simp only [List.flatMap_append,List.flatMap_cons,List.count_append,RefreshPass.exits,
        List.filterMap_append,single,List.count_nil]
      omega

theorem balanced_step (op : WatchOp P E Q) (s : WatchedRegistry P) (sound : s.Sound) :
    ∃lost,(lost=[] ↔ ¬Loses s op) ∧ Balances s (op.step s) lost := by
  have harmless (other : ∀n platform,op≠.visit n platform) : ¬Loses s op := by
    intro h
    obtain ⟨n,platform,-,-,-,-,visit,-⟩ := h
    exact other n platform visit
  cases op with
  | request => exact ⟨[],by simpa using harmless (by simp),balanced_of_eq rfl rfl⟩
  | reconcile registrations =>
    refine ⟨[],by simpa using harmless (by simp),?_⟩
    rw [step]
    split_ifs
    · exact balanced_of_eq rfl rfl
    · exact .refl s
  | begin =>
    refine ⟨[],by simpa using harmless (by simp),balanced_of_eq rfl ?_⟩
    simp [accounted,step,RefreshPass.exits]
  | visit n platform =>
    cases here : s.passes[n]? with
    | none =>
      refine ⟨[],?_,?_⟩
      · simp only [true_iff]
        intro h
        obtain ⟨n',platform',serviceId,todo,collected,e,visit,pass,-⟩ := h
        cases visit
        cases here.symm.trans pass
      · rw [step,here]
        exact .refl s
    | some pass =>
      obtain ⟨todo,collected⟩ := pass
      cases todo with
      | nil =>
        refine ⟨[],?_,?_⟩
        · simp only [true_iff]
          intro h
          obtain ⟨n',platform',serviceId,todo,collected',e,visit,pass,-⟩ := h
          cases visit
          cases here.symm.trans pass
        · rw [step,here]
          exact .refl s
      | cons serviceId todo =>
        exact balanced_visit s sound n platform serviceId todo collected here
  | finish n =>
    refine ⟨[],by simpa using harmless (by simp),?_⟩
    rw [step]
    split
    · rename_i collected here
      obtain ⟨before,after,split,removed,-⟩ := split_at here
      simp only [Balances,accounted,removed]
      rw [split,List.perm_iff_count]
      intro event
      simp only [List.flatMap_append,List.flatMap_cons,List.count_append,RefreshPass.exits,
        List.count_nil]
      omega
    · exact .refl s

/-- A run loses exits exactly when one of its steps does. -/
theorem balanced_run (ops : List (WatchOp P E Q)) (s : WatchedRegistry P) (sound : s.Sound) :
    ∃lost,(lost=[] ↔ Run.Along step (fun s op => ¬Loses s op) ops s) ∧
      Balances s (Run.final step ops s) lost := by
  induction ops generalizing s with
  | nil => exact ⟨[],by simp,.refl s⟩
  | cons op ops ih =>
    obtain ⟨first,losesFirst,balancedFirst⟩ := balanced_step op s sound
    obtain ⟨rest,losesRest,balancedRest⟩ := ih (op.step s) (sound_step op s sound)
    refine ⟨first++rest,?_,balancedFirst.trans balancedRest⟩
    rw [List.append_eq_nil_iff,losesFirst,losesRest,Run.along_cons]

/-- Every exit is reported exactly once along a run if and only if no visit of the run fails while
its pass is carrying an exit. Once no pass is under way, all of them have been returned. -/
theorem exactlyOnce_iff (r : ServiceRegistry P) (reachable : RegistryOp.Reachable E Q r)
    (ops : List (WatchOp P E Q)) :
    ((Run.final step ops (.new r)).ExactlyOnce ↔
      Run.Along step (fun s op => ¬Loses s op) ops (.new r)) ∧
    ((Run.final step ops (.new r)).passes=[] →
      ((Run.final step ops (.new r)).observed.Perm (Run.final step ops (.new r)).returned ↔
        Run.Along step (fun s op => ¬Loses s op) ops (.new r))) := by
  have sound : (WatchedRegistry.new r).Sound := ⟨reachable.sound,by simp [WatchedRegistry.new]⟩
  obtain ⟨lost,loses,balanced⟩ := balanced_run ops (.new r) sound
  have total : (Run.final step ops (.new r)).observed.Perm
      ((Run.final step ops (.new r)).accounted++lost) := by
    simpa [Balances,WatchedRegistry.new,accounted] using balanced
  have once : (Run.final step ops (.new r)).ExactlyOnce ↔
      Run.Along step (fun s op => ¬Loses s op) ops (.new r) := by
    rw [← loses]
    constructor
    · intro exact
      have lengths := exact.length_eq.symm.trans total.length_eq
      rw [List.length_append] at lengths
      exact List.length_eq_zero_iff.mp (by omega)
    · intro same
      subst same
      simpa [ExactlyOnce] using total
  refine ⟨once,fun ended => ?_⟩
  rw [← once,ExactlyOnce,accounted,ended,List.flatMap_nil,List.append_nil]

/-- One crashed service, watched by one pass. -/
theorem exactlyOnce_crash :
    let s := Run.final step
      [.request fixturePlatform .start "fixture" .codex fixtureReason,.begin,
        .visit 0 (RegistryOp.crashedPlatform 0),.finish 0]
      (.new (fixtureRegistry [fixture "fixture" "Fixture"]))
    s.passes=[] ∧ s.observed.length=1 ∧ (s.observed.Perm s.returned ↔
      Run.Along step (fun s op => ¬Loses s op)
        [.request fixturePlatform .start "fixture" .codex fixtureReason,.begin,
          .visit 0 (RegistryOp.crashedPlatform 0),.finish 0]
        (.new (fixtureRegistry [fixture "fixture" "Fixture"]))) := by
  have ended : (Run.final step
      [.request fixturePlatform .start "fixture" .codex fixtureReason,.begin,
        .visit 0 (RegistryOp.crashedPlatform 0),.finish 0]
      (.new (fixtureRegistry [fixture "fixture" "Fixture"]))).passes=[] :=
    List.eq_nil_iff_length_eq_zero.mpr (by decide +kernel)
  exact ⟨ended,by decide +kernel,(exactlyOnce_iff _ (.new [fixture "fixture" "Fixture"] _ _ rfl)
    _).2 ended⟩

/-- The API's exit is gone when the database, visited after it, cannot be observed. -/
theorem exit_dropped :
    ¬∀(r : ServiceRegistry Nat) (ops : List (WatchOp Nat Unit Unit)),
      RegistryOp.Reachable Unit Unit r → (Run.final step ops (.new r)).ExactlyOnce := by
  intro claim
  let blind : Platform Nat Unit Unit := { fixturePlatform with ownedPids := fun _ _ => .error () }
  have once := claim (fixtureRegistry [fixture "api" "Api",fixture "database" "Database"])
    [.request fixturePlatform .start "api" .codex fixtureReason,
      .request fixturePlatform .start "database" .codex fixtureReason,.begin,
      .visit 0 (RegistryOp.crashedPlatform 0),.visit 0 blind]
    (.new [fixture "api" "Api",fixture "database" "Database"] _ _ rfl)
  have lengths := once.length_eq
  revert lengths
  decide +kernel

section Uninterrupted

/-- A visit does not depend on what was called before it. -/
theorem refreshEntry_calls (platform : Platform P E Q) (serviceId : String)
    (r : ServiceRegistry P) (calls : List (TreeCall P E)) :
    (refreshEntry platform serviceId).run ⟨r,calls⟩=
      match (refreshEntry platform serviceId).run ⟨r,[]⟩ with
      | .ok a t => .ok a ⟨t.registry,calls++t.calls⟩
      | .error e t => .error e ⟨t.registry,calls++t.calls⟩ := by
  rw [run_refreshEntry,run_refreshEntry,run_withEntry,run_withEntry]
  simp only
  cases r.services[serviceId]? with
  | none => simp
  | some entry =>
    simp only
    cases (ServiceEntry.refresh platform r.restartStabilityWindow).run ⟨entry,[]⟩ <;> rfl

/-- The steps of one pass that nothing interrupts, after the passes under way. -/
def visits (platforms : String → Platform P E Q) (n : Nat) (todo : List String) :
    List (WatchOp P E Q) :=
  todo.map fun serviceId => .visit n (platforms serviceId)

/-- Nothing is left to do for a pass that has failed. -/
theorem visits_ended (platforms : String → Platform P E Q) (todo : List String)
    (s : WatchedRegistry P) :
    Run.final step (visits platforms s.passes.length todo++[.finish s.passes.length]) s=s := by
  have ended : s.passes[s.passes.length]?=none := List.getElem?_eq_none_iff.mpr (Nat.le_refl _)
  induction todo with
  | nil => simp [visits,step]
  | cons serviceId todo ih =>
    rw [visits,List.map_cons,List.cons_append,Run.final_cons,step,ended]
    exact ih

/-- The exits that one pass returns to its caller. -/
def returnedBy {ε σ : Type} : EStateM.Result ε σ (List ServiceRefresh) → List ProcessExitEvent
  | .ok refreshes _ => refreshes.filterMap (·.processExit)
  | .error _ _ => []

theorem visits_mapM (platforms : String → Platform P E Q) (todo : List String)
    (collected : List ServiceRefresh) (passes : List RefreshPass) (r : ServiceRegistry P)
    (calls : List (TreeCall P E)) (observed returned : List ProcessExitEvent) :
    ∃observed',
      Run.final step (visits platforms passes.length todo++[.finish passes.length])
        ⟨r,passes++[⟨todo,collected⟩],observed,returned⟩=
      match (todo.mapM fun id => refreshEntry (platforms id) id).run ⟨r,calls⟩ with
      | .ok refreshes t =>
        ⟨t.registry,passes,observed',
          returned++(collected++refreshes).filterMap (·.processExit)⟩
      | .error _ t => ⟨t.registry,passes,observed',returned⟩ := by
  induction todo generalizing collected r calls observed with
  | nil =>
    refine ⟨observed,?_⟩
    simp [visits,step,List.eraseIdx_append_of_length_le]
  | cons serviceId todo ih =>
    rw [List.mapM_cons,EStateM.run_bind,refreshEntry_calls,visits,List.map_cons,List.cons_append,
      Run.final_cons,step]
    simp only [List.getElem?_concat_length]
    rw [show (RegistryOp.refresh (platforms serviceId) serviceId).step r=
      (final ((refreshEntry (platforms serviceId) serviceId).run ⟨r,[]⟩)).registry from rfl]
    cases (refreshEntry (platforms serviceId) serviceId).run ⟨r,[]⟩ with
    | error error t =>
      simp only [final_error,List.eraseIdx_append_of_length_le (Nat.le_refl _),Nat.sub_self,
        List.eraseIdx_cons_zero,List.append_nil]
      exact ⟨_,visits_ended platforms todo _⟩
    | ok refresh t =>
      simp only [final_ok,List.set_append_right _ _ (Nat.le_refl _),Nat.sub_self,
        List.set_cons_zero]
      obtain ⟨observed',run⟩ := ih (collected++[refresh]) t.registry (calls++t.calls)
        (observed++(observedExit (platforms serviceId) serviceId r).toList)
      refine ⟨observed',?_⟩
      rw [visits] at run
      rw [run,EStateM.run_bind]
      cases (todo.mapM fun id => refreshEntry (platforms id) id).run
        ⟨t.registry,calls++t.calls⟩ <;> simp [EStateM.run_pure]

/-- A pass that nothing interrupts is the function `refresh_services`. -/
theorem refreshServices_pass (platforms : String → Platform P E Q) (s : WatchedRegistry P) :
    ∃observed,
      Run.final step (.begin::visits platforms s.passes.length s.registry.serviceIds++
        [.finish s.passes.length]) s=
      ⟨(final ((refreshServices platforms).run ⟨s.registry,[]⟩)).registry,s.passes,observed,
        s.returned++returnedBy ((refreshServices platforms).run ⟨s.registry,[]⟩)⟩ := by
  obtain ⟨observed,run⟩ := visits_mapM platforms s.registry.serviceIds [] s.passes s.registry []
    s.observed s.returned
  refine ⟨observed,?_⟩
  rw [List.cons_append,Run.final_cons]
  refine run.trans ?_
  rw [show (refreshServices platforms).run ⟨s.registry,[]⟩=
    (s.registry.serviceIds.mapM fun id => refreshEntry (platforms id) id).run ⟨s.registry,[]⟩
    from rfl]
  cases (s.registry.serviceIds.mapM fun id => refreshEntry (platforms id) id).run
    ⟨s.registry,[]⟩ <;> simp [returnedBy]

end Uninterrupted

section Outcome

variable (platforms : String → Platform P E Q)

/-- What the turn of one service in a pass over `r` gives, and the entry that it leaves. -/
def TurnGives (r : ServiceRegistry P) (serviceId : String) (refresh : ServiceRefresh)
    (left : Option (ServiceEntry P)) : Prop :=
  ∃e e' calls,r.services[serviceId]?=some e ∧ left=some e' ∧
    (ServiceEntry.refresh (platforms serviceId) r.restartStabilityWindow).run ⟨e,[]⟩=
      .ok refresh ⟨e',calls⟩

/-- When no turn fails, the turns of a pass are those of its services on the registry before it. -/
theorem mapM_turns (todo : List String) (distinct : todo.Nodup) (r : ServiceRegistry P)
    (calls : List (TreeCall P E))
    (gives : ∀id∈todo,∃refresh left,TurnGives platforms r id refresh left) :
    ∃refreshes t,
      (todo.mapM fun id => refreshEntry (platforms id) id).run ⟨r,calls⟩=.ok refreshes t ∧
      (∀id,id∉todo → t.registry.services[id]?=r.services[id]?) ∧
      List.Forall₂ (fun id refresh => TurnGives platforms r id refresh t.registry.services[id]?)
        todo refreshes := by
  induction todo generalizing r calls with
  | nil => exact ⟨[],⟨r,calls⟩,rfl,fun _ _ => rfl,.nil⟩
  | cons id todo ih =>
    obtain ⟨fresh,distinct⟩ := List.nodup_cons.mp distinct
    obtain ⟨refresh,-,e,e',made,here,-,turn⟩ := gives id List.mem_cons_self
    have first : (refreshEntry (platforms id) id).run ⟨r,calls⟩=
        .ok refresh ⟨{ r with services := r.services.insert id e' },calls++made⟩ := by
      rw [run_refreshEntry,run_withEntry]
      simp only [here,turn]
    have other (later : String) (mem : later∈todo) :
        (r.services.insert id e')[later]?=r.services[later]? := by
      rw [ServiceMap.lookup_insert,if_neg]
      exact fun same => fresh (same ▸ mem)
    obtain ⟨refreshes,t,run,untouched,turns⟩ := ih distinct
      { r with services := r.services.insert id e' } (calls++made) (by
        intro later mem
        obtain ⟨refresh,left,gives⟩ := gives later (List.mem_cons_of_mem id mem)
        refine ⟨refresh,left,?_⟩
        rw [TurnGives] at gives ⊢
        rwa [other later mem])
    refine ⟨refresh::refreshes,t,?_,?_,?_⟩
    · rw [List.mapM_cons,EStateM.run_bind,first]
      simp only [EStateM.run_bind,run]
      rfl
    · intro later apart
      obtain ⟨differs,apart⟩ := not_or.mp fun mem => apart (List.mem_cons.mpr mem)
      rw [untouched later apart]
      exact (ServiceMap.lookup_insert _ _ _ _).trans (if_neg (Ne.symm differs))
    · refine .cons ⟨e,e',made,here,?_,turn⟩ ?_
      · rw [untouched id fresh]
        exact (ServiceMap.lookup_insert _ _ _ _).trans (if_pos rfl)
      · refine List.Forall₂.imp ?_ ((List.forall₂_and_left _ _).mpr ⟨fun _ mem => mem,turns⟩)
        intro later refresh pair
        obtain ⟨mem,gives⟩ := pair
        rw [TurnGives] at gives ⊢
        rwa [other later mem] at gives

/-- The turns of a pass that `refresh_services` makes. -/
theorem refreshServices_turns (r : ServiceRegistry P)
    (gives : ∀id∈r.services,∃refresh left,TurnGives platforms r id refresh left) :
    ∃refreshes t,(refreshServices platforms).run ⟨r,[]⟩=.ok refreshes t ∧
      List.Forall₂ (fun id refresh => TurnGives platforms r id refresh t.registry.services[id]?)
        r.serviceIds refreshes := by
  obtain ⟨refreshes,t,run,-,turns⟩ := mapM_turns platforms r.serviceIds
    Std.ExtTreeMap.nodup_keys r []
    fun id mem => gives id (Std.ExtTreeMap.mem_keys.mp mem)
  exact ⟨refreshes,t,run,turns⟩

/-- The exits of one service in a pass are those of its turn. -/
theorem exits_of_turn {R : String → ServiceRefresh → Prop} {ids : List String}
    {refreshes : List ServiceRefresh} (turns : List.Forall₂ R ids refreshes)
    (named : ∀id refresh,R id refresh →
      ∀event,refresh.processExit=some event → event.serviceId=id)
    (distinct : ids.Nodup) {id : String} (mem : id∈ids) :
    ∃refresh,R id refresh ∧
      (refreshes.filterMap (·.processExit)).filter (·.serviceId=id)=
        refresh.processExit.toList := by
  have others {ids : List String} {refreshes : List ServiceRefresh}
      (turns : List.Forall₂ R ids refreshes) (absent : id∉ids) :
      (refreshes.filterMap (·.processExit)).filter (·.serviceId=id)=[] := by
    induction turns with
    | nil => rfl
    | cons turn turns ih =>
      rename_i first refresh ids refreshes
      obtain ⟨other,absent⟩ := not_or.mp fun mem => absent (List.mem_cons.mpr mem)
      rw [List.filterMap_cons]
      cases exit : refresh.processExit with
      | none => exact ih absent
      | some event =>
        rw [List.filter_cons_of_neg]
        · exact ih absent
        · rw [decide_eq_true_eq,named _ refresh turn event exit]
          exact Ne.symm other
  induction turns with
  | nil => cases mem
  | cons turn turns ih =>
    rename_i first refresh ids refreshes
    obtain ⟨fresh,distinct⟩ := List.nodup_cons.mp distinct
    rcases List.mem_cons.mp mem with rfl|later
    · refine ⟨refresh,turn,?_⟩
      rw [List.filterMap_cons]
      cases exit : refresh.processExit with
      | none => exact others turns fresh
      | some event =>
        rw [List.filter_cons_of_pos,others turns fresh]
        · rfl
        · simpa using named _ refresh turn event exit
    · obtain ⟨refresh',turn',exits⟩ := ih distinct later
      refine ⟨refresh',turn',?_⟩
      rw [← exits,List.filterMap_cons]
      cases exit : refresh.processExit with
      | none => rfl
      | some event =>
        rw [List.filter_cons_of_neg]
        rw [decide_eq_true_eq,named _ refresh turn event exit]
        exact fun same => fresh (same ▸ later)

end Outcome

end WatchOp

end AkuSupervisor

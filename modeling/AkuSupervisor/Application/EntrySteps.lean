import AkuSupervisor.Application.ServiceEntry

namespace AkuSupervisor

namespace ServiceEntry

open ServiceRuntime StateError

variable {P E Q α F : Type}

@[simp] theorem run_get (s : EntrySys P E) :
    EStateM.run (get : EntryM P E Q _) s=.ok s.entry s := rfl

@[simp] theorem run_update (f : ServiceEntry P → ServiceEntry P) (s : EntrySys P E) :
    EStateM.run (update f : EntryM P E Q _) s=.ok () ⟨f s.entry,s.calls⟩ := rfl

@[simp] theorem run_log (call : TreeCall P E) (s : EntrySys P E) :
    EStateM.run (log call : EntryM P E Q _) s=.ok () ⟨s.entry,s.calls++[call]⟩ := rfl

@[simp] theorem run_liftExcept_ok (a : α) (s : EntrySys P E) :
    EStateM.run (liftExcept (.ok a) : EntryM P E Q α) s=.ok a s := rfl

@[simp] theorem run_liftExcept_error (e : RegistryError E Q) (s : EntrySys P E) :
    EStateM.run (liftExcept (.error e) : EntryM P E Q α) s=.error e s := rfl

theorem run_withRuntime (mapError : ServiceRuntimeError F → RegistryError E Q)
    (x : RuntimeM (List (TreeCall P E)) P F α) (s : EntrySys P E) :
    (withRuntime mapError x).run s=
      match x.run ⟨s.entry.runtime,s.calls⟩ with
      | .ok a t => .ok a ⟨{ s.entry with runtime := t.inner },t.outer⟩
      | .error e t => .error (mapError e) ⟨{ s.entry with runtime := t.inner },t.outer⟩ := rfl

/-- Changes no control decision looks at: health, the pids kept for an exit event, and a retained
owner's moves between `running` and `unhealthy`. -/
structure Quiet (e e' : ServiceEntry P) : Prop where
  registration : e'.registration=e.registration
  control : e'.control=e.control
  supervision : ∃pids,e'.supervision={ e.supervision with lastOwnedPids := pids }
  runtime : e'.runtime=e.runtime ∨ ∃healthy,e'.runtime=withHealth healthy e.runtime

namespace Quiet

variable {e e' e'' : ServiceEntry P}

theorem refl (e : ServiceEntry P) : Quiet e e := ⟨rfl,rfl,⟨_,rfl⟩,.inl rfl⟩

theorem withHealth_twice (a b : Bool) (state : RuntimeState P) :
    withHealth b (withHealth a state)=withHealth b state := by
  obtain ⟨lifecycle,process⟩ := state
  cases a <;> cases process <;> cases lifecycle <;> simp [withHealth]

theorem trans (h : Quiet e e') (k : Quiet e' e'') : Quiet e e'' := by
  obtain ⟨pids,hs⟩ := h.supervision
  obtain ⟨pids',ks⟩ := k.supervision
  refine ⟨k.registration.trans h.registration,k.control.trans h.control,⟨pids',?_⟩,?_⟩
  · rw [ks,hs]
  · rcases h.runtime with hr|⟨a,hr⟩ <;> rcases k.runtime with kr|⟨b,kr⟩
    · exact .inl (kr.trans hr)
    · exact .inr ⟨b,by rw [kr,hr]⟩
    · exact .inr ⟨a,by rw [kr,hr]⟩
    · exact .inr ⟨b,by rw [kr,hr,withHealth_twice]⟩

theorem process (h : Quiet e e') : e'.runtime.process=e.runtime.process := by
  rcases h.runtime with hr|⟨a,hr⟩
  · rw [hr]
  · rw [hr,withHealth_process]

theorem consistent (h : Quiet e e') (c : Consistent e.runtime) : Consistent e'.runtime := by
  rcases h.runtime with hr|⟨a,hr⟩
  · rwa [hr]
  · rw [hr]
    exact c.withHealth a _

/-- A quiet change leaves the lifecycle alone unless the service is up. -/
theorem lifecycle (h : Quiet e e') (down : e.runtime.lifecycle≠.running ∧
    e.runtime.lifecycle≠.unhealthy) : e'.runtime.lifecycle=e.runtime.lifecycle := by
  rcases h.runtime with hr|⟨a,hr⟩
  · rw [hr]
  · rw [hr]
    simp [withHealth,down.1,down.2]

end Quiet

theorem observeHealth_ends (platform : Platform P E Q) (attempt : Nat) (cap : Option Nat)
    (s : EntrySys P E) :
    Ends (observeHealth platform attempt cap) s
      (fun observation t => (∃pids,ownedPids platform attempt s.entry=.ok pids) ∧
        t.calls=s.calls ∧ Quiet s.entry t.entry ∧
        t.entry.runtime=withHealth observation.isHealthy s.entry.runtime)
      (fun error t => ownedPids platform attempt s.entry=.error error ∧ t=s) := by
  unfold Ends observeHealth
  cases owned : ownedPids platform attempt s.entry with
  | error e => simp [owned]
  | ok pids =>
    simp only [EStateM.run_bind,run_get,owned,run_liftExcept_ok,run_withRuntime,
      run_applyHealth,run_update,EStateM.run_pure]
    exact ⟨⟨pids,rfl⟩,trivial,⟨rfl,rfl,⟨s.entry.supervision.lastOwnedPids,rfl⟩,.inr ⟨_,rfl⟩⟩,
      trivial⟩

theorem waitUntilHealthyFrom_ends (platform : Platform P E Q) (deadline attempt elapsed : Nat)
    (s : EntrySys P E) :
    Ends (waitUntilHealthyFrom platform deadline attempt elapsed) s
      (fun _ t => t.calls=s.calls ∧ Quiet s.entry t.entry ∧
        t.entry.runtime=withHealth true s.entry.runtime)
      (fun _ t => t.calls=s.calls ∧ Quiet s.entry t.entry) := by
  induction left : deadline-elapsed using Nat.strongRecOn generalizing attempt elapsed s with
  | ind n ih =>
    rw [waitUntilHealthyFrom,ends_bind]
    refine (observeHealth_ends platform attempt _ s).mono ?_ ?_
    · intro observation t ⟨_,calls,quiet,runtime⟩
      unfold Ends
      cases healthy : observation.isHealthy with
      | true => simpa [healthy] using ⟨calls,quiet,by rw [runtime,healthy]⟩
      | false =>
        by_cases late : deadline≤elapsed+((platform.lag 0 attempt).1+(platform.lag 0 attempt).2)
        · simpa [healthy,late] using ⟨calls,quiet⟩
        · have closer := pause_advances _ _ _ late
          have rest := ih _ (left ▸ closer) (attempt+1) _ t rfl
          simp only [late,if_false]
          refine rest.mono ?_ ?_
          · intro _ u ⟨calls',quiet',runtime'⟩
            exact ⟨calls'.trans calls,quiet.trans quiet',by
              rw [runtime',runtime,Quiet.withHealth_twice]⟩
          · intro _ u ⟨calls',quiet'⟩
            exact ⟨calls'.trans calls,quiet.trans quiet'⟩
    · intro _ t h
      obtain ⟨_,rfl⟩ := h
      exact ⟨rfl,.refl _⟩

/-- The entry right after its spawned tree was recorded. -/
def spawnedBy (platform : Platform P E Q) (action : LifecycleAction) (process : P)
    (e : ServiceEntry P) : ServiceEntry P :=
  { e with
    runtime := ⟨.running,some process⟩
    supervision :=
      e.supervision.recordStarted platform.now platform.unixMilliseconds action }

/-- A startup prerequisite, a port or the launcher itself stands in the way of a launch. -/
def LaunchFails (platform : Platform P E Q) (e : ServiceEntry P) : Prop :=
  (∃error,waitUntilStartupPrerequisites platform e=.error error) ∨
    (∃error,ensurePortsAvailable platform e.registration.ports=.error error) ∨
    ∃error,platform.spawn e.registration.id e.registration.launch=.error error

theorem launchFails_congr (platform : Platform P E Q) (e e' : ServiceEntry P)
    (same : e'.registration=e.registration) : LaunchFails platform e' ↔ LaunchFails platform e := by
  unfold LaunchFails waitUntilStartupPrerequisites
  rw [same]

/-- How a launch of `e` ends, once no owner stands in its way. -/
inductive Launch (platform : Platform P E Q) (action : LifecycleAction) (e : ServiceEntry P)
    (before : List (TreeCall P E)) (outcome : α) :
    EStateM.Result (RegistryError E Q) (EntrySys P E) α → Prop
  | blocked (error : BackendOperationError E Q) (fails : LaunchFails platform e) :
      Launch platform action e before outcome
        (.error (.runtime (.start error)) ⟨{ e with runtime := ⟨.failed,none⟩ },before⟩)
  | failed (error : E) (answer : platform.spawn e.registration.id e.registration.launch=
        .error error) :
      Launch platform action e before outcome
        (.error (.runtime (.start (.process error))) ⟨{ e with runtime := ⟨.failed,none⟩ },
          before++[.spawn e.registration.id e.registration.launch (.error error)]⟩)
  | unready (process : P) (e' : ServiceEntry P) (error : RegistryError E Q)
      (answer : platform.spawn e.registration.id e.registration.launch=.ok process)
      (quiet : Quiet (e.spawnedBy platform action process) e')
      (waits : failure ((waitUntilHealthy platform).run ⟨e.spawnedBy platform action process,
        before++[.spawn e.registration.id e.registration.launch (.ok process),
          .recordStarted e.registration.id platform.now]⟩)=some error) :
      Launch platform action e before outcome
        (.error error ⟨e',before++[.spawn e.registration.id e.registration.launch (.ok process),
          .recordStarted e.registration.id platform.now]⟩)
  | ready (process : P) (e' : ServiceEntry P)
      (answer : platform.spawn e.registration.id e.registration.launch=.ok process)
      (quiet : Quiet (e.spawnedBy platform action process) e')
      (running : e'.runtime=⟨.running,some process⟩) :
      Launch platform action e before outcome
        (.ok outcome ⟨e',before++[.spawn e.registration.id e.registration.launch (.ok process),
          .recordStarted e.registration.id platform.now]⟩)

/-- The part of start and restart after the runtime has launched the service. -/
theorem waitUntilHealthy_launch (platform : Platform P E Q) (action : LifecycleAction)
    (e : ServiceEntry P) (before : List (TreeCall P E)) (outcome : α) (process : P)
    (answer : platform.spawn e.registration.id e.registration.launch=.ok process) :
    Launch platform action e before outcome
      (EStateM.run (do recordStarted platform action; waitUntilHealthy platform; return outcome)
        ⟨{ e with runtime := ⟨.running,some process⟩ },
          before++[.spawn e.registration.id e.registration.launch (.ok process)]⟩) := by
  have waits := waitUntilHealthyFrom_ends platform e.registration.health.startupDeadline 0 0
    ⟨e.spawnedBy platform action process,
      before++[.spawn e.registration.id e.registration.launch (.ok process),
        .recordStarted e.registration.id platform.now]⟩
  simp only [recordStarted,waitUntilHealthy,EStateM.run_bind,run_update,run_get,run_log,
    List.append_assoc,List.cons_append,List.nil_append]
  unfold Ends at waits
  simp only [spawnedBy] at waits
  split at waits
  all_goals
    rename_i ran
    rw [ran]
    simp only [EStateM.run_pure]
  · rename_i t
    obtain ⟨calls,quiet,runtime⟩ := waits
    have ready : Launch platform action e before outcome _ :=
      .ready process t.entry answer quiet (by simpa [withHealth] using runtime)
    rw [← calls] at ready
    exact ready
  · rename_i error t
    obtain ⟨calls,quiet⟩ := waits
    have waits : failure ((waitUntilHealthy platform).run ⟨e.spawnedBy platform action process,
        before++[.spawn e.registration.id e.registration.launch (.ok process),
          .recordStarted e.registration.id platform.now]⟩)=some error := by
      simp only [waitUntilHealthy,EStateM.run_bind,run_get,spawnedBy,ran,failure_error]
    have unready : Launch platform action e before outcome _ :=
      .unready process t.entry error answer quiet waits
    rw [← calls] at unready
    exact unready

theorem launch_cases (platform : Platform P E Q) (e : ServiceEntry P)
    (calls : List (TreeCall P E)) :
    (LaunchFails platform e ∧ ∃error,launch platform e calls=(.error error,calls)) ∨
    (∃error,platform.spawn e.registration.id e.registration.launch=.error error ∧
      launch platform e calls=(.error (.process error),
        calls++[.spawn e.registration.id e.registration.launch (.error error)])) ∨
    ∃process,platform.spawn e.registration.id e.registration.launch=.ok process ∧
      launch platform e calls=(.ok process,
        calls++[.spawn e.registration.id e.registration.launch (.ok process)]) := by
  unfold launch
  split
  · rename_i error stuck
    refine .inl ⟨?_,_,rfl⟩
    cases ready : waitUntilStartupPrerequisites platform e with
    | error error => exact .inl ⟨error,ready⟩
    | ok => exact .inr (.inl ⟨error,by simpa [ready,bind,Except.bind] using stuck⟩)
  · cases answer : platform.spawn e.registration.id e.registration.launch with
    | error error => exact .inr (.inl ⟨error,rfl,rfl⟩)
    | ok process => exact .inr (.inr ⟨process,rfl,rfl⟩)

/-- A runtime operation that ends in a launch, and the bookkeeping of start and restart. -/
theorem bind_launched (platform : Platform P E Q) (action : LifecycleAction)
    (e : ServiceEntry P) (calls before : List (TreeCall P E)) (kind : F) (outcome : α)
    (x : RuntimeM (List (TreeCall P E)) P (BackendOperationError E Q) F)
    (next : F → EntryM P E Q α)
    (runs : x.run ⟨e.runtime,calls⟩=launched kind (launch platform e before))
    (records : next kind=do
      recordStarted platform action
      waitUntilHealthy platform
      return outcome) :
    Launch platform action e before outcome
      (EStateM.run (withRuntime .runtime x >>= next) ⟨e,calls⟩) := by
  rw [EStateM.run_bind,run_withRuntime,runs]
  rcases launch_cases platform e before with
    ⟨fails,error,answer⟩|⟨error,spawn,answer⟩|⟨process,spawn,answer⟩
  · rw [answer]
    exact .blocked error fails
  · rw [answer]
    exact .failed error spawn
  · rw [answer]
    simp only [launched]
    rw [records]
    exact waitUntilHealthy_launch platform action e before outcome process spawn

end ServiceEntry

end AkuSupervisor

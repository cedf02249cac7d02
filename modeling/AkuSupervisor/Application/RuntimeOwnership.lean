import AkuSupervisor.Application.ServiceRuntime

namespace AkuSupervisor

/-- One callback the runtime invoked, with the answer it got. -/
inductive Invocation (P E : Type) where
  | spawn (answer : Except E P)
  | stop (process : P) (answer : Except E StopProgress)
  | observe (process : P) (answer : Except E (Option ExitStatus))

/-- What ownership of a process tree is for, without any lifecycle: callbacks invoked one after
another, each with the owner retained at that moment. Only a complete stop and an observed exit
release the owner, and only a spawn that no owner stands in the way of makes a new one. -/
inductive Ledger {P E : Type} : Option P → List (Invocation P E) → Option P → Prop where
  | nil (owner : Option P) : Ledger owner [] owner
  | spawned {process rest final} (next : Ledger (some process) rest final) :
      Ledger none (.spawn (.ok process)::rest) final
  | spawnFailed {error rest final} (next : Ledger none rest final) :
      Ledger none (.spawn (.error error)::rest) final
  | stopped {process rest final} (next : Ledger none rest final) :
      Ledger (some process) (.stop process (.ok .complete)::rest) final
  | stopRetained {process answer rest final} (pending : answer≠.ok .complete)
      (next : Ledger (some process) rest final) :
      Ledger (some process) (.stop process answer::rest) final
  | exited {process status rest final} (next : Ledger none rest final) :
      Ledger (some process) (.observe process (.ok (some status))::rest) final
  | observeRetained {process answer rest final} (live : ∀status,answer≠.ok (some status))
      (next : Ledger (some process) rest final) :
      Ledger (some process) (.observe process answer::rest) final

namespace Ledger

variable {P E : Type} {a b c : Option P} {xs ys : List (Invocation P E)}

/-- A ledger can be read up to any invocation. -/
theorem split (h : Ledger a (xs++ys) c) : ∃b,Ledger a xs b ∧ Ledger b ys c := by
  induction xs generalizing a with
  | nil => exact ⟨a,.nil a,h⟩
  | cons x xs ih =>
    rcases h with _|next|next|next|⟨pending,next⟩|next|⟨live,next⟩
    all_goals obtain ⟨b,first,last⟩ := ih next
    · exact ⟨b,.spawned first,last⟩
    · exact ⟨b,.spawnFailed first,last⟩
    · exact ⟨b,.stopped first,last⟩
    · exact ⟨b,.stopRetained pending first,last⟩
    · exact ⟨b,.exited first,last⟩
    · exact ⟨b,.observeRetained live first,last⟩

theorem spawn_unowned (answer : Except E P) (h : Ledger a (xs++.spawn answer::ys) c) :
    Ledger a xs none := by
  obtain ⟨b,first,last⟩ := h.split
  cases last <;> exact first

/-- An owner that is gone at the end was released by a complete stop or an observed exit. -/
theorem released (process : P) (h : Ledger (some process) xs c) (gone : c≠some process) :
    .stop process (.ok .complete)∈xs ∨ ∃status,.observe process (.ok (some status))∈xs := by
  generalize start : some process=owner at h
  induction h with
  | nil => exact absurd start.symm gone
  | spawned _ _ => cases start
  | spawnFailed _ _ => cases start
  | stopped _ _ =>
    cases start
    exact .inl (by simp)
  | stopRetained _ _ ih =>
    rcases ih gone start with done|⟨status,done⟩
    · exact .inl (List.mem_cons_of_mem _ done)
    · exact .inr ⟨status,List.mem_cons_of_mem _ done⟩
  | exited _ _ =>
    cases start
    exact .inr ⟨_,List.mem_cons_self⟩
  | observeRetained _ _ ih =>
    rcases ih gone start with done|⟨status,done⟩
    · exact .inl (List.mem_cons_of_mem _ done)
    · exact .inr ⟨status,List.mem_cons_of_mem _ done⟩

end Ledger

/-- One operation of the runtime, with the answers its callbacks would give. -/
inductive RuntimeOp (P E : Type) where
  | start (spawn : Except E P)
  | stop (stop : P → Except E StopProgress)
  | restart (stop : P → Except E StopProgress) (spawn : Except E P)
  | applyHealth (healthy : Bool)
  | reconcileExit (observe : P → Except E (Option ExitStatus))

namespace RuntimeOp

open ServiceRuntime StateError

variable {P E : Type}

def recordSpawn (answer : Except E P) : StateM (List (Invocation P E)) (Except E P) :=
  fun log => (answer,log++[.spawn answer])

def recordStop (stop : P → Except E StopProgress) (process : P) :
    StateM (List (Invocation P E)) (Except E StopProgress) :=
  fun log => (stop process,log++[.stop process (stop process)])

def recordObserve (observe : P → Except E (Option ExitStatus)) (process : P) :
    StateM (List (Invocation P E)) (Except E (Option ExitStatus)) :=
  fun log => (observe process,log++[.observe process (observe process)])

def perform : RuntimeOp P E → RuntimeM (List (Invocation P E)) P E Unit
  | .start spawn => (fun _ => ()) <$> startWith (recordSpawn spawn)
  | .stop answers => (fun _ => ()) <$> stopWith (recordStop answers)
  | .restart answers spawn =>
    (fun _ => ()) <$> restartWith (recordStop answers) (recordSpawn spawn)
  | .applyHealth healthy => ServiceRuntime.applyHealth healthy
  | .reconcileExit observe => (fun _ => ()) <$> reconcileExitWith (recordObserve observe)

/-- Runs one operation with an empty log. -/
def step (op : RuntimeOp P E) (state : RuntimeState P) :
    EStateM.Result (ServiceRuntimeError E) (RuntimeSys (List (Invocation P E)) P) Unit :=
  op.perform.run ⟨state,[]⟩

def run (ops : List (RuntimeOp P E)) (state : RuntimeState P) : RuntimeState P :=
  ops.foldl (fun state op => (final (op.step state)).inner) state

/-- What every operation from a rest state does. -/
structure Disciplined (before : RuntimeState P)
    (result : EStateM.Result (ServiceRuntimeError E) (RuntimeSys (List (Invocation P E)) P) Unit) :
    Prop where
  consistent : Consistent (final result).inner
  legal : ∀error,failure result≠some (.transition error)
  ledger : Ledger before.process (final result).outer (final result).inner.process
  retained : ∀process answer,.stop process answer∈(final result).outer →
    answer≠.ok .complete → before.process=some process ∧
      (final result).inner.process=some process

variable (spawn : Except E P) (answers : P → Except E StopProgress)
  (observe : P → Except E (Option ExitStatus)) (s : RuntimeState P)

private theorem start_disciplined (h : Consistent s) :
    Disciplined s ((RuntimeOp.start spawn).step s) := by
  rcases h with idle|⟨process,owned⟩
  · rw [step,perform,run_map,startWith_idle _ _ idle]
    cases spawn with
    | ok process =>
      refine ⟨.inr ⟨process,rfl,.inl rfl⟩,by simp [launched,recordSpawn],?_,
        by simp [launched,recordSpawn]⟩
      rw [idle.1]
      exact .spawned (.nil _)
    | error error =>
      refine ⟨.inl ⟨rfl,.inr rfl⟩,by simp [launched,recordSpawn],?_,
        by simp [launched,recordSpawn]⟩
      rw [idle.1]
      exact .spawnFailed (.nil _)
  · rw [step,perform,run_map,startWith_owned _ _ process owned.1]
    exact ⟨.inr ⟨process,owned⟩,by simp,.nil _,by simp⟩

private theorem stop_disciplined (h : Consistent s) :
    Disciplined s ((RuntimeOp.stop answers : RuntimeOp P E).step s) := by
  rcases h with idle|⟨process,owned⟩
  · rw [step,perform,run_map,stopWith_idle _ _ idle]
    refine ⟨.inl ⟨rfl,.inl rfl⟩,by simp,?_,by simp⟩
    rw [idle.1]
    exact .nil _
  · rw [step,perform,run_map,stopWith_owned _ _ process owned]
    rcases answer : answers process with error|(_|_)
    · refine ⟨.inr ⟨process,?_⟩,?_,?_,?_⟩ <;> simp [halted,recordStop,answer,owned.1]
      · exact ⟨rfl,.inr (.inr (.inl rfl))⟩
      · exact .stopRetained (by simp) (.nil _)
    · refine ⟨.inl ?_,?_,?_,?_⟩ <;> simp [halted,recordStop,answer,owned.1]
      · exact ⟨rfl,.inl rfl⟩
      · exact .stopped (.nil _)
    · refine ⟨.inr ⟨process,?_⟩,?_,?_,?_⟩ <;> simp [halted,recordStop,answer,owned.1]
      · exact ⟨rfl,.inr (.inr (.inr rfl))⟩
      · exact .stopRetained (by simp) (.nil _)

private theorem restart_disciplined (h : Consistent s) :
    Disciplined s ((RuntimeOp.restart answers spawn).step s) := by
  rcases h with idle|⟨process,owned⟩
  · rw [step,perform,run_map,restartWith_idle _ _ _ idle]
    cases spawn with
    | ok next =>
      refine ⟨.inr ⟨next,rfl,.inl rfl⟩,by simp [launched,recordSpawn],?_,
        by simp [launched,recordSpawn]⟩
      rw [idle.1]
      exact .spawned (.nil _)
    | error error =>
      refine ⟨.inl ⟨rfl,.inr rfl⟩,by simp [launched,recordSpawn],?_,
        by simp [launched,recordSpawn]⟩
      rw [idle.1]
      exact .spawnFailed (.nil _)
  · rw [step,perform,run_map,restartWith_owned _ _ _ process owned]
    rcases answer : answers process with error|(_|_)
    · refine ⟨.inr ⟨process,?_⟩,?_,?_,?_⟩ <;> simp [recordStop,answer,owned.1]
      · exact ⟨rfl,.inr (.inr (.inl rfl))⟩
      · exact .stopRetained (by simp) (.nil _)
    · cases spawn with
      | ok next =>
        refine ⟨.inr ⟨next,?_⟩,?_,?_,?_⟩ <;>
          simp [launched,recordStop,recordSpawn,answer,owned.1]
        · exact ⟨rfl,.inl rfl⟩
        · exact .stopped (.spawned (.nil _))
      | error error =>
        refine ⟨.inl ?_,?_,?_,?_⟩ <;>
          simp [launched,recordStop,recordSpawn,answer,owned.1]
        · exact ⟨rfl,.inr rfl⟩
        · exact .stopped (.spawnFailed (.nil _))
    · refine ⟨.inr ⟨process,?_⟩,?_,?_,?_⟩ <;> simp [recordStop,answer,owned.1]
      · exact ⟨rfl,.inr (.inr (.inr rfl))⟩
      · exact .stopRetained (by simp) (.nil _)

private theorem applyHealth_disciplined (healthy : Bool) (h : Consistent s) :
    Disciplined s ((RuntimeOp.applyHealth healthy : RuntimeOp P E).step s) := by
  rw [step,perform,run_applyHealth]
  refine ⟨h.withHealth healthy s,by simp,?_,by simp⟩
  simp only [final_ok,withHealth_process]
  exact .nil _

private theorem reconcileExit_disciplined (h : Consistent s) :
    Disciplined s ((RuntimeOp.reconcileExit observe).step s) := by
  rcases h with idle|⟨process,owned⟩
  · rw [step,perform,run_map,reconcileExitWith_idle _ _ idle.1]
    exact ⟨.inl idle,by simp,.nil _,by simp⟩
  · rw [step,perform,run_map,reconcileExitWith_owned _ _ process owned]
    rcases answer : observe process with error|(_|status)
    · refine ⟨.inr ⟨process,?_⟩,?_,?_,?_⟩ <;> simp [recordObserve,answer,owned.1]
      · exact owned
      · exact .observeRetained (by simp) (.nil _)
    · refine ⟨.inr ⟨process,?_⟩,?_,?_,?_⟩ <;> simp [recordObserve,answer,owned.1]
      · exact owned
      · exact .observeRetained (by simp) (.nil _)
    · refine ⟨.inl ?_,?_,?_,?_⟩ <;> simp [recordObserve,answer,owned.1]
      · refine ⟨rfl,?_⟩
        split_ifs
        · exact .inl rfl
        · exact .inr rfl
      · exact .exited (.nil _)

/-- Every operation from a rest state ends in a rest state that agrees with the ledger. -/
theorem step_disciplined (op : RuntimeOp P E) (h : Consistent s) : Disciplined s (op.step s) := by
  cases op with
  | start spawn => exact start_disciplined spawn s h
  | stop answers => exact stop_disciplined answers s h
  | restart answers spawn => exact restart_disciplined spawn answers s h
  | applyHealth healthy => exact applyHealth_disciplined s healthy h
  | reconcileExit observe => exact reconcileExit_disciplined observe s h

theorem run_consistent (ops : List (RuntimeOp P E)) (h : Consistent s) :
    Consistent (run ops s) := by
  induction ops generalizing s with
  | nil => exact h
  | cons op ops ih => exact ih _ (step_disciplined s op h).consistent

/-- Over every run and for every operation after it, whatever the callbacks answer: the runtime
rests in a state that agrees with its owner, no transition is ever illegal, spawn is invoked only
while no owner is retained, and an owner goes only by a complete stop or an observed exit. -/
theorem run_ownership (ops : List (RuntimeOp P E)) (op : RuntimeOp P E) :
    let before := run ops new
    let result := op.step before
    let log := (final result).outer
    let after := (final result).inner
    Consistent before ∧ Consistent after ∧
    (∀error,failure result≠some (.transition error)) ∧
    (∀first answer last,log=first++.spawn answer::last → Ledger before.process first none) ∧
    (∀process,before.process=some process → after.process≠some process →
      .stop process (.ok .complete)∈log ∨ ∃status,.observe process (.ok (some status))∈log) ∧
    (∀process answer,.stop process answer∈log → answer≠.ok .complete →
      before.process=some process ∧ after.process=some process) ∧
    Ledger before.process log after.process := by
  intro before result log after
  have rest : Consistent before := run_consistent new ops (.inl ⟨rfl,.inl rfl⟩)
  have out : Disciplined before result := step_disciplined before op rest
  refine ⟨rest,out.consistent,out.legal,?_,?_,out.retained,out.ledger⟩
  · intro first answer last eq
    have ledger := out.ledger
    rw [show (final result).outer=first++.spawn answer::last from eq] at ledger
    exact ledger.spawn_unowned answer
  · intro process owner gone
    have ledger := out.ledger
    rw [owner] at ledger
    exact ledger.released process gone

end RuntimeOp

end AkuSupervisor

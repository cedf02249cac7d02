import AkuSupervisor.Application.EntrySteps

namespace AkuSupervisor

namespace ServiceEntry

open ServiceRuntime StateError

variable {P E Q : Type}

variable (platform : Platform P E Q) (window : Nat) (e : ServiceEntry P)

/-- What a refresh learns about the owned tree: nothing, its exit, or why it cannot tell. -/
def sighting : Except E (Option ExitStatus) :=
  match e.runtime.process with
  | none => .ok none
  | some process => do
    let pids ← platform.ownedPids 0 process
    let status ← if pids=[] then platform.tryWait process else .ok none
    if status.isNone then discard (platform.ownedPids 1 process)
    return status

/-- Calls that only looked at the tree and saw no exit. -/
def NoExit (calls : List (TreeCall P E)) : Prop :=
  ∀call∈calls,∃process answer,call=.tryWait process answer ∧ ∀status,answer≠.ok (some status)

/-- The event for the exit of `e`'s tree, and the entry after it. -/
def exitEvent (status : ExitStatus) : ProcessExitEvent where
  serviceId := e.registration.id
  previousState := e.runtime.lifecycle
  ownedPidsBefore := e.supervision.lastOwnedPids
  exitCode := status.code
  successful := status.success
  automaticRestartPlanned := e.supervision.automaticRestartPlanned status
    e.registration.restartPolicy e.control.policy.operatorHold window platform.now
  deferredRestartPlanned := e.supervision.deferredRestartPlanned e.control.policy.operatorHold

def exited (status : ExitStatus) : ServiceEntry P :=
  { e with
    runtime := ⟨if e.runtime.lifecycle=.terminationPending then .stopped else .failed,none⟩
    health := exitHealth platform.unixMilliseconds e.runtime.lifecycle e.registration.health status
    supervision := { (e.supervision.recordExit status e.registration.restartPolicy
      e.control.policy.operatorHold window platform.now platform.unixMilliseconds).2 with
      lastOwnedPids := [] } }

/-- What one entry's turn in a refresh pass does to an entry at rest. -/
inductive Refreshed : EStateM.Result (RegistryError E Q) (EntrySys P E) ServiceRefresh → Prop
  | failed (error : E) (e' : ServiceEntry P) (calls : List (TreeCall P E))
      (seen : e.sighting platform=.error error) (quiet : Quiet e e') (looked : NoExit calls) :
      Refreshed (.error (.observation error) ⟨e',calls⟩)
  | live (health : HealthSnapshot) (e' : ServiceEntry P) (calls : List (TreeCall P E))
      (seen : e.sighting platform=.ok none) (quiet : Quiet e e') (looked : NoExit calls) :
      Refreshed (.ok ⟨health,none⟩ ⟨e',calls⟩)
  | exited (process : P) (status : ExitStatus) (seen : e.sighting platform=.ok (some status))
      (owned : Owned process e.runtime) :
      Refreshed (.ok ⟨exitHealth platform.unixMilliseconds e.runtime.lifecycle
          e.registration.health status,some (e.exitEvent platform window status)⟩
        ⟨e.exited platform window status,[.tryWait process (.ok (some status))]⟩)

/-- While the tree is not seen to exit, only the second look at it can still fail. -/
theorem sighting_live (process : P) (pids : List Nat) (owner : e.runtime.process=some process)
    (first : platform.ownedPids 0 process=.ok pids)
    (undecided : pids≠[] ∨ platform.tryWait process=.ok none) :
    e.sighting platform=(platform.ownedPids 1 process).map fun _ => none := by
  cases second : platform.ownedPids 1 process <;> rcases undecided with live|silent
  all_goals
    simp_all [sighting,bind,Except.bind,discard,Functor.discard,Functor.mapConst,Except.map,
      pure,Except.pure]

theorem refresh_live (e' : ServiceEntry P) (calls : List (TreeCall P E)) (quiet : Quiet e e')
    (looked : NoExit calls)
    (seen : e.sighting platform=
      (e.runtime.process.elim (.ok []) (platform.ownedPids 1)).map fun _ => none) :
    Refreshed platform window e
      (EStateM.run (do return ⟨← observeHealth platform 1 none,none⟩ : EntryM P E Q _)
        ⟨e',calls⟩) := by
  have ends := observeHealth_ends platform 1 none (⟨e',calls⟩ : EntrySys P E)
  have owned : ownedPids (Q := Q) platform 1 e'=
      (e.runtime.process.elim (.ok []) (platform.ownedPids 1)).mapError .observation := by
    rw [ownedPids,quiet.process]
    cases e.runtime.process <;> rfl
  simp only [owned] at ends
  rw [EStateM.run_bind]
  unfold Ends at ends
  split at ends
  · rename_i observation t ran
    obtain ⟨⟨pids,answer⟩,same,quiet',-⟩ := ends
    rw [ran]
    obtain ⟨e'',calls'⟩ := t
    subst same
    refine .live observation e'' calls' ?_ (quiet.trans quiet') looked
    cases second : e.runtime.process.elim (.ok []) (platform.ownedPids 1) with
    | error error => simp [second,Except.mapError] at answer
    | ok pids => rw [seen,second]; rfl
  · rename_i error t ran
    obtain ⟨answer,rfl⟩ := ends
    rw [ran]
    cases second : e.runtime.process.elim (.ok []) (platform.ownedPids 1) with
    | error error' =>
      rw [second] at answer
      cases answer
      exact .failed error' e' calls (by rw [seen,second]; rfl) quiet looked
    | ok pids => simp [second,Except.mapError] at answer

theorem refresh_cases (rest : Consistent e.runtime) :
    Refreshed platform window e ((refresh platform window).run ⟨e,[]⟩) := by
  simp only [refresh,reconcileProcessExit,EStateM.run_bind,run_get]
  rcases rest with idle|⟨process,owned⟩
  · have still := refresh_live platform window e e [] (.refl e) (by simp [NoExit])
      (by simp [sighting,idle.1,Except.map])
    simpa [ownedPids,idle.1,run_withRuntime,reconcileExitWith_idle] using still
  · cases first : platform.ownedPids 0 process with
    | error error =>
      have seen : e.sighting platform=.error error := by simp [sighting,owned.1,first]; rfl
      have failed : Refreshed platform window e _ :=
        .failed error e [] seen (.refl e) (by simp [NoExit])
      simpa [ownedPids,owned.1,first,Except.mapError] using failed
    | ok pids =>
      by_cases gone : pids=[]
      · subst gone
        have watched := reconcileExitWith_owned (awaitExit (E := E) platform) ⟨e.runtime,[]⟩
          process owned
        rcases answer : platform.tryWait process with error|(_|status)
        · have seen : e.sighting platform=.error error := by
            simp [sighting,owned.1,first,answer,bind,Except.bind]
          simp only [awaitExit,answer] at watched
          have failed : Refreshed platform window e _ :=
            .failed error e [.tryWait process (.error error)] seen (.refl e) (by simp [NoExit])
          simpa [ownedPids,owned.1,first,Except.mapError,run_withRuntime,awaitExit,watched,
            mapObservationError] using failed
        · have still := refresh_live platform window e e [.tryWait process (.ok none)] (.refl e)
            (by simp [NoExit])
            (by simpa [owned.1] using
              sighting_live platform e process [] owned.1 first (.inr answer))
          simp only [awaitExit,answer] at watched
          simpa [ownedPids,owned.1,first,Except.mapError,run_withRuntime,awaitExit,watched]
            using still
        · have seen : e.sighting platform=.ok (some status) := by
            simp [sighting,owned.1,first,answer,bind,Except.bind,pure,Except.pure]
          simp only [awaitExit,answer] at watched
          have outcome : Refreshed platform window e _ := .exited process status seen owned
          simpa [ownedPids,owned.1,first,Except.mapError,run_withRuntime,awaitExit,watched,
            exitEvent,exited,SupervisionState.recordExit] using outcome
      · have still := refresh_live platform window e
          { e with supervision := { e.supervision with lastOwnedPids := pids } } []
          ⟨rfl,rfl,⟨pids,rfl⟩,.inl rfl⟩ (by simp [NoExit])
          (by simpa [owned.1] using
            sighting_live platform e process pids owned.1 first (.inl gone))
        simpa [ownedPids,owned.1,first,Except.mapError,gone] using still

end ServiceEntry

end AkuSupervisor

import AkuSupervisor.Lib.FailFast
import AkuSupervisor.Application.EntryEffects

namespace AkuSupervisor

open StateError ServiceRuntime

variable {P E Q : Type}

/-- A platform on which everything works, whose launches all give the same tree. -/
def obliging (process : P) : Platform P E Q where
  preflightLaunch := fun _ _ => .ok ()
  spawn := fun _ _ => .ok process
  rootPid := fun _ => 0
  ownedPids := fun _ _ => .ok [0]
  ownedProcesses := fun _ => .ok []
  tryWait := fun _ => .ok none
  stop := fun _ _ => .ok ⟨[],[],true,none,false⟩
  inspectTcpPort := fun _ port => .ok ⟨port,[]⟩
  probe := fun _ _ _ _ => ⟨true,true,"",[]⟩
  lag := fun _ _ => (0,0)
  now := 0
  unixMilliseconds := 0

namespace ServiceEntry

variable (process : P) (actor : Actor) (reason : Reason) (e : ServiceEntry P)

theorem obliging_launches : ¬LaunchFails (obliging process : Platform P E Q) e := by
  intro h
  rcases h with ⟨error,stuck⟩|⟨error,stuck⟩|⟨error,stuck⟩
  · have ready : waitUntilStartupPrerequisites (obliging process : Platform P E Q) e=.ok () := by
      refine forM_ok _ _ fun prerequisite _ => ?_
      rw [waitUntilPrerequisite]
      simp [obliging]
    simp [ready] at stuck
  · have ready : ensurePortsAvailable (obliging process : Platform P E Q)
        e.registration.ports=.ok () := by
      refine forM_ok _ _ fun port _ => ?_
      simp [obliging,PortDiagnostic.isAvailable]
    simp [ready] at stuck
  · cases stuck

/-- On an obliging platform an owned tree is found healthy at the first look. -/
theorem obliging_healthy (owner : P) (calls : List (TreeCall P E))
    (owned : e.runtime.process=some owner) :
    failure ((waitUntilHealthy (obliging process : Platform P E Q)).run ⟨e,calls⟩)=none := by
  have healthy : ∀cap,(healthObservation (obliging process : Platform P E Q) 0 cap true
      e).isHealthy=true := by
    intro cap
    unfold healthObservation
    cases timeout : e.registration.health.timeout <;>
      simp [hasProcess,owned,timeout,obliging,HealthSnapshot.isHealthy,HealthSnapshot.healthy,
        HealthSnapshot.withObserved]
  have pids : ServiceEntry.ownedPids (obliging process : Platform P E Q) 0 e=.ok [0] := by
    simp [ServiceEntry.ownedPids,owned,obliging,Except.mapError]
  unfold waitUntilHealthy
  rw [EStateM.run_bind,run_get]
  simp only
  rw [waitUntilHealthyFrom]
  simp only [observeHealth,EStateM.run_bind,run_get,pids,run_liftExcept_ok,run_withRuntime,
    run_applyHealth,run_update,EStateM.run_pure,List.isEmpty_cons,Bool.not_false,healthy,if_true,
    failure_ok]

theorem obliging_start (rest : Consistent e.runtime) (admits : e.Admits actor .start) :
    failure ((start (obliging process : Platform P E Q) actor reason).run ⟨e,[]⟩)=none := by
  have cases := start_cases (obliging process : Platform P E Q) actor reason e rest
  generalize (start (obliging process : Platform P E Q) actor reason).run ⟨e,[]⟩=result
    at cases ⊢
  cases cases with
  | denied error denied => exact absurd admits denied
  | alreadyRunning => rfl
  | unprepared error admits vacant answer => cases answer
  | launched _ admits vacant prepared launch =>
    cases launch with
    | blocked error fails => exact absurd fails (obliging_launches process _)
    | failed error answer => cases answer
    | unready owner e' error answer quiet waits =>
      rw [obliging_healthy process _ owner _ rfl] at waits
      cases waits
    | ready => rfl

theorem launch_obliging {α : Type} (action : LifecycleAction) (before : List (TreeCall P E))
    (outcome : α) (result : EStateM.Result (RegistryError E Q) (EntrySys P E) α)
    (launch : Launch (obliging process) action e before outcome result) :
    ∃answer,.spawn e.registration.id e.registration.launch answer∈(final result).calls := by
  cases launch with
  | blocked error fails => exact absurd fails (obliging_launches process _)
  | failed error answer => cases answer
  | unready owner e' error answer quiet waits => exact ⟨.ok owner,by simp⟩
  | ready owner e' answer quiet running => exact ⟨.ok owner,by simp⟩

/-- On an obliging platform an admitted start of a vacant service, and an admitted restart of any,
reaches the launcher. -/
theorem obliging_spawn (action : LifecycleAction) (launch : action≠.stop)
    (rest : Consistent e.runtime) (admits : e.Admits actor action)
    (vacant : action=.start → e.runtime.process=none) :
    ∃answer,.spawn e.registration.id e.registration.launch answer∈
      (final ((request (obliging process : Platform P E Q) action actor reason).run
        ⟨e,[]⟩)).calls := by
  have same := accepted_registration actor action reason e
  cases action with
  | stop => contradiction
  | start =>
    rw [request,final_run_map]
    have cases := start_cases (obliging process : Platform P E Q) actor reason e rest
    generalize (start (obliging process : Platform P E Q) actor reason).run ⟨e,[]⟩=result
      at cases ⊢
    cases cases with
    | denied error denied => exact absurd admits denied
    | alreadyRunning process admits owner => simp [owner] at vacant
    | unprepared error admits vacant answer => cases answer
    | launched _ admits vacant prepared launch =>
      simpa [same] using launch_obliging process _ _ _ _ _ launch
  | restart =>
    rw [request,final_run_map]
    have cases := restart_cases (obliging process : Platform P E Q) actor reason e rest
    generalize (restart (obliging process : Platform P E Q) actor reason).run ⟨e,[]⟩=result
      at cases ⊢
    cases cases with
    | denied error denied => exact absurd admits denied
    | unprepared error admits answer => cases answer
    | launched _ admits idle prepared launch =>
      simpa [same] using launch_obliging process _ _ _ _ _ launch
    | replaced _ owner report admits owned prepared answer complete launch =>
      simpa [same] using launch_obliging process _ _ _ _ _ launch
    | pending owner report admits owned prepared answer pending =>
      cases answer
      cases pending
    | failed owner error admits owned prepared answer => cases answer

end ServiceEntry

end AkuSupervisor

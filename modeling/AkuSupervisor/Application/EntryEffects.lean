import AkuSupervisor.Application.EntryRequests

namespace AkuSupervisor

namespace ServiceEntry

open ServiceRuntime StateError

variable {P E Q : Type}

/-- `start`, `stop` or `restart`, for their effect alone. -/
def request (platform : Platform P E Q) (action : LifecycleAction) (actor : Actor)
    (reason : Reason) : EntryM P E Q Unit :=
  match action with
  | .start => (fun _ => ()) <$> start platform actor reason
  | .stop => (fun _ => ()) <$> stop platform actor reason
  | .restart => (fun _ => ()) <$> restart platform actor reason

/-- Whether a request passes every check in front of its effect. Exactly then it becomes the most
recent accepted lifecycle request of the service. -/
def Accepts (platform : Platform P E Q) (e : ServiceEntry P) (actor : Actor) :
    LifecycleAction → Prop
  | .start => e.Admits actor .start ∧ e.runtime.process=none ∧
      platform.preflightLaunch e.registration.id e.registration.launch=.ok ()
  | .stop => True
  | .restart => e.Admits actor .restart ∧
      platform.preflightLaunch e.registration.id e.registration.launch=.ok ()

theorem Accepts.admits {platform : Platform P E Q} {e : ServiceEntry P} {actor : Actor}
    {action : LifecycleAction} (h : e.Accepts platform actor action) (launch : action≠.stop) :
    e.Admits actor action := by
  cases action with
  | start => exact h.1
  | stop => contradiction
  | restart => exact h.1

/-- The tree calls before a launch: none without an owner, else the owner's complete stop. -/
inductive Cleared (platform : Platform P E Q) (e : ServiceEntry P) :
    LifecycleAction → List (TreeCall P E) → Prop
  | vacant (action : LifecycleAction) (vacant : e.runtime.process=none) :
      Cleared platform e action []
  | replaced (process : P) (report : TreeStopReport) (owned : Owned process e.runtime)
      (answer : platform.stop process e.registration.shutdownGrace=.ok report)
      (complete : report.isComplete=true) :
      Cleared platform e .restart [.stop process e.registration.shutdownGrace (.ok report)]

/-- What a request does to an entry at rest, and the tree calls it makes. -/
inductive Effect (platform : Platform P E Q) (action : LifecycleAction) (actor : Actor)
    (reason : Reason) (e : ServiceEntry P) : ServiceEntry P → List (TreeCall P E) → Prop
  | refused (refused : ¬e.Accepts platform actor action) :
      Effect platform action actor reason e e []
  | stopped (health : HealthSnapshot) (calls : List (TreeCall P E)) (stop : action=.stop)
      (halts : ∀call∈calls,∃process grace answer,call=.stop process grace answer) :
      Effect platform action actor reason e
        { e.accepted actor action reason with runtime := ⟨.stopped,none⟩, health } calls
  | pending (process : P) (report : TreeStopReport) (accepts : e.Accepts platform actor action)
      (owned : Owned process e.runtime) (halt : action=.stop ∨ action=.restart) :
      Effect platform action actor reason e
        { e.accepted actor action reason with
          runtime := ⟨.terminationPending,some process⟩
          health := .unknown
          supervision := { (e.accepted actor action reason).supervision with
            restartAfterTermination := action=.restart
            lastOwnedPids := report.ownedPidsBefore } }
        [.stop process e.registration.shutdownGrace (.ok report)]
  | failed (process : P) (error : E) (accepts : e.Accepts platform actor action)
      (owned : Owned process e.runtime) (halt : action=.stop ∨ action=.restart) :
      Effect platform action actor reason e
        { e.accepted actor action reason with runtime := ⟨.failed,some process⟩ }
        [.stop process e.registration.shutdownGrace (.error error)]
  | down (before calls : List (TreeCall P E)) (accepts : e.Accepts platform actor action)
      (launch : action=.start ∨ action=.restart) (cleared : Cleared platform e action before)
      (fails : LaunchFails platform e)
      (attempt : calls=before ∨ ∃error,
        calls=before++[.spawn e.registration.id e.registration.launch (.error error)]) :
      Effect platform action actor reason e
        { e.accepted actor action reason with runtime := ⟨.failed,none⟩ } calls
  | up (before : List (TreeCall P E)) (process : P) (e' : ServiceEntry P)
      (accepts : e.Accepts platform actor action) (launch : action=.start ∨ action=.restart)
      (cleared : Cleared platform e action before)
      (quiet : Quiet ((e.accepted actor action reason).spawnedBy platform action process) e') :
      Effect platform action actor reason e e'
        (before++[.spawn e.registration.id e.registration.launch (.ok process),
          .recordStarted e.registration.id platform.now])

variable (platform : Platform P E Q) (actor : Actor) (reason : Reason) (e : ServiceEntry P)

theorem Launch.effect {α : Type} {action : LifecycleAction} {before : List (TreeCall P E)}
    {outcome : α} {result : EStateM.Result (RegistryError E Q) (EntrySys P E) α}
    (h : Launch platform action (e.accepted actor action reason) before outcome result)
    (accepts : e.Accepts platform actor action) (launch : action=.start ∨ action=.restart)
    (cleared : Cleared platform e action before) :
    Effect platform action actor reason e (final result).entry (final result).calls := by
  have same := accepted_registration actor action reason e
  cases h with
  | blocked error fails =>
    exact .down before _ accepts launch cleared ((launchFails_congr platform _ _ same).mp fails)
      (.inl rfl)
  | failed error answer =>
    rw [same] at answer
    exact .down before _ accepts launch cleared (.inr (.inr ⟨error,answer⟩))
      (.inr ⟨error,by simp⟩)
  | unready process e' error answer quiet waits =>
    simpa using Effect.up before process e' accepts launch cleared quiet
  | ready process e' answer quiet running =>
    simpa using Effect.up before process e' accepts launch cleared quiet

theorem start_effect (rest : Consistent e.runtime) :
    Effect platform .start actor reason e
      (final ((start platform actor reason).run ⟨e,[]⟩)).entry
      (final ((start platform actor reason).run ⟨e,[]⟩)).calls := by
  have cases := start_cases platform actor reason e rest
  generalize (start platform actor reason).run ⟨e,[]⟩=result at cases ⊢
  cases cases with
  | denied error denied => exact .refused fun accepts => denied accepts.1
  | alreadyRunning process admits owner =>
    exact .refused fun accepts => by simpa [owner] using accepts.2.1
  | unprepared error admits vacant answer =>
    exact .refused fun accepts => by simp [Accepts,answer] at accepts
  | launched result admits vacant prepared launch =>
    exact launch.effect platform actor reason e ⟨admits,vacant,prepared⟩ (.inl rfl)
      (.vacant .start vacant)

theorem stop_effect (rest : Consistent e.runtime) :
    Effect platform .stop actor reason e
      (final ((stop platform actor reason).run ⟨e,[]⟩)).entry
      (final ((stop platform actor reason).run ⟨e,[]⟩)).calls := by
  have cases := stop_cases platform actor reason e rest
  generalize (stop platform actor reason).run ⟨e,[]⟩=result at cases ⊢
  cases cases with
  | idle idle => exact .stopped _ [] rfl (by simp)
  | complete process report owned answer complete =>
    exact .stopped .unknown _ rfl (by simp)
  | pending process report owned answer pending =>
    exact .pending process report trivial owned (.inl rfl)
  | failed process error owned answer => exact .failed process error trivial owned (.inl rfl)

theorem restart_effect (rest : Consistent e.runtime) :
    Effect platform .restart actor reason e
      (final ((restart platform actor reason).run ⟨e,[]⟩)).entry
      (final ((restart platform actor reason).run ⟨e,[]⟩)).calls := by
  have cases := restart_cases platform actor reason e rest
  generalize (restart platform actor reason).run ⟨e,[]⟩=result at cases ⊢
  cases cases with
  | denied error denied => exact .refused fun accepts => denied accepts.1
  | unprepared error admits answer =>
    exact .refused fun accepts => by simpa [answer] using accepts.2
  | launched result admits idle prepared launch =>
    exact launch.effect platform actor reason e ⟨admits,prepared⟩ (.inr rfl)
      (.vacant .restart idle.1)
  | replaced result process report admits owned prepared answer complete launch =>
    exact launch.effect platform actor reason e ⟨admits,prepared⟩ (.inr rfl)
      (.replaced process report owned answer complete)
  | pending process report admits owned prepared answer pending =>
    exact .pending process report ⟨admits,prepared⟩ owned (.inr rfl)
  | failed process error admits owned prepared answer =>
    exact .failed process error ⟨admits,prepared⟩ owned (.inr rfl)

/-- Every request on an entry at rest has one of the six effects. -/
theorem request_effect (action : LifecycleAction) (rest : Consistent e.runtime) :
    Effect platform action actor reason e
      (final ((request platform action actor reason).run ⟨e,[]⟩)).entry
      (final ((request platform action actor reason).run ⟨e,[]⟩)).calls := by
  cases action with
  | start =>
    rw [request,final_run_map]
    exact start_effect platform actor reason e rest
  | stop =>
    rw [request,final_run_map]
    exact stop_effect platform actor reason e rest
  | restart =>
    rw [request,final_run_map]
    exact restart_effect platform actor reason e rest

/-- Without authority, a start or restart does nothing at all. -/
theorem request_denied (action : LifecycleAction) (rest : Consistent e.runtime)
    (launch : action≠.stop) (denied : ¬e.Admits actor action) :
    ∃error,(request platform action actor reason).run ⟨e,[]⟩=
      .error (.unauthorized error) ⟨e,[]⟩ := by
  cases action with
  | stop => contradiction
  | start =>
    have cases := start_cases platform actor reason e rest
    rw [request,run_map]
    generalize (start platform actor reason).run ⟨e,[]⟩=result at cases ⊢
    cases cases with
    | denied error => exact ⟨error,rfl⟩
    | _ => contradiction
  | restart =>
    have cases := restart_cases platform actor reason e rest
    rw [request,run_map]
    generalize (restart platform actor reason).run ⟨e,[]⟩=result at cases ⊢
    cases cases with
    | denied error => exact ⟨error,rfl⟩
    | _ => contradiction

/-- A request that returns `Ok` was accepted, unless it found the service already running. -/
theorem accepts_of_ok (action : LifecycleAction) (rest : Consistent e.runtime)
    (t : EntrySys P E) (ran : (request platform action actor reason).run ⟨e,[]⟩=.ok () t)
    (vacant : ¬(action=.start ∧ e.runtime.process.isSome=true)) :
    e.Accepts platform actor action := by
  cases action with
  | stop => trivial
  | start =>
    have cases := start_cases platform actor reason e rest
    rw [request,run_map] at ran
    generalize (start platform actor reason).run ⟨e,[]⟩=result at cases ran
    cases cases with
    | launched result admits vacant prepared => exact ⟨admits,vacant,prepared⟩
    | alreadyRunning process admits owner => exact absurd ⟨rfl,by simp [owner]⟩ vacant
    | _ => cases ran
  | restart =>
    have cases := restart_cases platform actor reason e rest
    rw [request,run_map] at ran
    generalize (restart platform actor reason).run ⟨e,[]⟩=result at cases ran
    cases cases with
    | launched result admits idle prepared => exact ⟨admits,prepared⟩
    | replaced result process report admits owned prepared => exact ⟨admits,prepared⟩
    | pending process report admits owned prepared => exact ⟨admits,prepared⟩
    | _ => cases ran

namespace Effect

variable {platform actor reason e} {action : LifecycleAction} {e' : ServiceEntry P}
  {calls : List (TreeCall P E)}

theorem eq_of_refused (h : Effect platform action actor reason e e' calls)
    (refused : ¬e.Accepts platform actor action) : e'=e ∧ calls=[] := by
  cases h with
  | refused => exact ⟨rfl,rfl⟩
  | stopped health calls stop => exact absurd (by subst stop; trivial) refused
  | _ => contradiction

theorem registration (h : Effect platform action actor reason e e' calls) :
    e'.registration=e.registration := by
  cases h with
  | refused => rfl
  | up before process e' accepts launch cleared quiet =>
    rw [quiet.registration]
    simp [spawnedBy]
  | _ => simp

theorem consistent (h : Effect platform action actor reason e e' calls)
    (rest : Consistent e.runtime) : Consistent e'.runtime := by
  cases h with
  | refused => exact rest
  | stopped => exact .inl ⟨rfl,.inl rfl⟩
  | pending process => exact .inr ⟨process,rfl,.inr (.inr (.inr rfl))⟩
  | failed process => exact .inr ⟨process,rfl,.inr (.inr (.inl rfl))⟩
  | down => exact .inl ⟨rfl,.inr rfl⟩
  | up before process e' accepts launch cleared quiet =>
    exact quiet.consistent (.inr ⟨process,rfl,.inl rfl⟩)

/-- An accepted request is recorded, whatever becomes of it. -/
theorem control (h : Effect platform action actor reason e e' calls)
    (accepts : e.Accepts platform actor action) :
    e'.control=⟨e.control.policy.applyUserAction actor action,some ⟨action,actor,reason⟩⟩ := by
  cases h with
  | refused refused => exact absurd accepts refused
  | up before process e' accepts launch cleared quiet =>
    rw [quiet.control]
    simp [spawnedBy]
  | _ => simp

theorem desiredState (h : Effect platform action actor reason e e' calls)
    (accepts : e.Accepts platform actor action) :
    e'.supervision.desiredState=if action=.stop then .stopped else .running := by
  have recorded : (e.accepted actor action reason).supervision.desiredState=
      if action=.stop then .stopped else .running := by
    cases action <;> rfl
  cases h with
  | refused refused => exact absurd accepts refused
  | up before process e' accepts launch cleared quiet =>
    obtain ⟨pids,supervision⟩ := quiet.supervision
    rw [supervision]
    exact recorded
  | _ => exact recorded

theorem cleared_spawn {before : List (TreeCall P E)} (cleared : Cleared platform e action before)
    (serviceId : String) (launch : LaunchSpec) (answer : Except E P) :
    .spawn serviceId launch answer∉before := by
  cases cleared <;> simp

/-- The launcher is reached by accepted starts and restarts only, and for the entry's own ID. -/
theorem spawn_mem (h : Effect platform action actor reason e e' calls) (serviceId : String)
    (launch : LaunchSpec) (answer : Except E P) (mem : .spawn serviceId launch answer∈calls) :
    serviceId=e.registration.id ∧ (action=.start ∨ action=.restart) ∧
      e.Accepts platform actor action := by
  cases h with
  | refused => simp at mem
  | stopped health calls stop halts =>
    obtain ⟨process,grace,halt,eq⟩ := halts _ mem
    cases eq
  | pending => simp at mem
  | failed => simp at mem
  | down before calls accepts launches cleared fails attempt =>
    rcases attempt with rfl|⟨error,rfl⟩
    · exact absurd mem (cleared_spawn cleared _ _ _)
    · rcases List.mem_append.mp mem with earlier|last
      · exact absurd earlier (cleared_spawn cleared _ _ _)
      · cases List.mem_singleton.mp last
        exact ⟨rfl,launches,accepts⟩
  | up before process e' accepts launches cleared quiet =>
    rcases List.mem_append.mp mem with earlier|last
    · exact absurd earlier (cleared_spawn cleared _ _ _)
    · simp only [List.mem_cons,TreeCall.spawn.injEq,reduceCtorEq,List.not_mem_nil,or_false]
        at last
      exact ⟨last.1,launches,accepts⟩

end Effect

end ServiceEntry

end AkuSupervisor

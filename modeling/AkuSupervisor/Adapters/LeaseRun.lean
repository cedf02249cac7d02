import AkuSupervisor.Adapters.LeaseFiles

namespace AkuSupervisor

open Interleaving Program

/-- The processes that take a lease in a runtime directory. -/
inductive LeaseRequest where
  | supervisor (identity : RuntimeInstance) (suppliedWatcherId : Option String)
  | watcher (document : WatcherDocument)

inductive LeaseReply where
  | supervisor (result : Except RuntimeInstanceError Unit)
  | watcher (result : Except String Unit)

def RuntimeDirectory.process (runtime : RuntimeDirectory) :
    LeaseRequest → Program LeaseCall LeaseCall.Answer LeaseReply
  | .supervisor identity suppliedWatcherId => do
    return .supervisor (← (runtime.supervisor identity suppliedWatcherId).run)
  | .watcher document => do return .watcher (← (runtime.watcher document).run)

/-- Supervisors and watchers over one runtime directory; any of them may crash. -/
def leaseSystem (runtime : RuntimeDirectory) :
    Interleaving RuntimeFiles LeaseCall LeaseCall.Answer LeaseChoice LeaseRequest Empty
      LeaseReply where
  respond := RuntimeFiles.respond
  program := runtime.process
  abandon := RuntimeFiles.release
  disturb := Empty.elim

abbrev LeaseState := State RuntimeFiles LeaseCall LeaseCall.Answer LeaseReply

abbrev LeaseMove := Move LeaseChoice LeaseRequest Empty

theorem follows_process (runtime : RuntimeDirectory) (request : LeaseRequest) :
    (runtime.process request).Follows (leaseDiscipline runtime) .start fun _ _ => True := by
  cases request with
  | supervisor identity suppliedWatcherId =>
    have keeps : LeaseMode.Keeps runtime _ .start _ :=
      LeaseMode.keeps_supervisor identity suppliedWatcherId
    exact (follows_bind _ _ _).mpr (Follows.mono keeps fun _ _ _ => trivial)
  | watcher document =>
    have keeps : LeaseMode.Keeps runtime _ .start _ := LeaseMode.keeps_watcher document
    exact (follows_bind _ _ _).mpr (Follows.mono keeps fun _ _ _ => trivial)

theorem leaseSystem_upholds (runtime : RuntimeDirectory) :
    Upholds (leaseSystem runtime) (leaseDiscipline runtime) .start (fun _ => .start)
      (fun _ _ => True) RuntimeFiles.Leased where
  follows := follows_process runtime
  advances _ _ _ choice call _ leased _ may _ := leased.respond choice call may
  kills _ _ i leased _ := leased.release i
  disturbs _ _ change := change.elim

/-- Processes that keep to the discipline over files that fit how far they are. -/
abbrev LeasesKept (runtime : RuntimeDirectory) : LeaseState → Prop :=
  Disciplined (leaseDiscipline runtime) .start RuntimeFiles.Leased

theorem leasesKept_initial (runtime : RuntimeDirectory)
    (identity watcherIdentity : Option (List UInt8)) :
    LeasesKept runtime (.initial (.initial identity watcherIdentity)) :=
  disciplined_initial _ (RuntimeFiles.Leased.leased_initial identity watcherIdentity)

/-- The process has a lease that `acquire` has returned and whose lock it has not closed. -/
def HoldsLease (s : LeaseState) (i : Nat) : Prop := ∃call,s.calling i=some call ∧ call.withLease=true

/-- One lease at a time; only its process writes or removes the identity file; and the file is the
identity of the process from the return of `acquire` until the drop begins. -/
structure SoleLease (runtime : RuntimeDirectory) (s : LeaseState) (move : LeaseMove) : Prop where
  sole : ∀i j,HoldsLease s i → HoldsLease s j → i=j
  locked : ∀i,HoldsLease s i → s.shared.instanceLock=some i
  changes : (step (leaseSystem runtime) move s).shared.identity≠s.shared.identity →
    ∃i choice,move=.advance i choice ∧ s.shared.instanceLock=some i
  published : ∀i identity,s.calling i=some (.hold identity) → ∃file encoded,
    runtime.encode identity=.ok encoded ∧ s.shared.identity=some ⟨file,encoded++[10]⟩

theorem calling_some {s : LeaseState} {i : Nat} {call : LeaseCall} (calls : s.calling i=some call) :
    ∃next,s.parties i=.working (.call call next) := by
  unfold State.calling at calls
  split at calls
  · next op next here =>
    cases calls
    exact ⟨next,here⟩
  · cases calls

/-- What a process is about to call is permitted in its mode. -/
theorem permitted {runtime : RuntimeDirectory} {s : LeaseState} {modes : Nat → LeaseMode}
    (each : ∀i,(s.parties i).Follows (leaseDiscipline runtime) .start (modes i)) {i : Nat}
    {call : LeaseCall} (calls : s.calling i=some call) : (modes i).permits runtime call := by
  obtain ⟨next,here⟩ := calling_some calls
  have follows := each i
  rw [here] at follows
  exact follows.1

theorem owns_withLease {runtime : RuntimeDirectory} {m : LeaseMode} {call : LeaseCall}
    (may : m.permits runtime call) (lease : call.withLease=true) : m.stage.owns=true := by
  cases call with
  | hold identity => exact LeaseMode.owns_of_mayHold may
  | readIdentity => exact may
  | removeIdentity => exact may
  | closeInstanceLock => exact may
  | _ => cases lease

theorem soleLease_of_kept {runtime : RuntimeDirectory} {s : LeaseState} (move : LeaseMove)
    (kept : LeasesKept runtime s) : SoleLease runtime s move := by
  obtain ⟨modes,leased,each⟩ := kept
  have locked (i : Nat) (holds : HoldsLease s i) : s.shared.instanceLock=some i := by
    obtain ⟨call,calls,lease⟩ := holds
    exact leased.owned i (owns_withLease (permitted each calls) lease)
  refine ⟨fun i j one other => ?_,locked,fun changed => ?_,fun i identity holds => ?_⟩
  · have lock := locked i one
    rw [locked j other] at lock
    exact (Option.some.inj lock).symm
  · rcases step_cases (leaseSystem runtime) move s with same|⟨i,request,-,-,after⟩|
      ⟨i,choice,call,next,rfl,here,after⟩|⟨i,p,-,-,after⟩|⟨change,-,-⟩
    · rw [same] at changed
      exact absurd rfl changed
    · rw [after] at changed
      exact absurd rfl changed
    · rw [after] at changed
      refine ⟨i,choice,rfl,leased.owned i ?_⟩
      by_contra out
      have may := permitted each (State.calling_eq here)
      exact changed (RuntimeFiles.Leased.identity_outside choice call may (by simpa using out))
    · rw [after] at changed
      exact absurd (RuntimeFiles.identity_release s.shared i) changed
    · exact change.elim
  · obtain ⟨⟨file,encoded,serialized,written⟩,-⟩ := permitted each holds
    have supports := leased.supports i
    rw [written] at supports
    exact ⟨file,encoded,serialized,supports⟩

/-- In every interleaving of supervisors, watchers and crashes over one runtime directory. -/
theorem instance_lease_exclusive (runtime : RuntimeDirectory)
    (identity watcherIdentity : Option (List UInt8)) (moves : List LeaseMove) :
    Run.Along (step (leaseSystem runtime)) (SoleLease runtime) moves
      (.initial (.initial identity watcherIdentity)) :=
  (leaseSystem_upholds runtime).keeps.along (fun _ move kept _ => soleLease_of_kept move kept)
    (leasesKept_initial runtime identity watcherIdentity) (Run.along_true moves _)

end AkuSupervisor

import AkuSupervisor.Adapters.LeaseRun
import AkuSupervisor.Lib.JsonText

namespace AkuSupervisor

open Interleaving Program

/-- The call that a stable supervisor makes once `acquire` has returned. -/
def StableHold : LeaseCall → Prop
  | .hold identity => identity.mode=.stable
  | _ => False

/-- The calls before which nothing is known of the watcher's lock, and with which it is over. -/
def EndsAcquire (call : LeaseCall) : Prop := call=.tryWatcherLock ∨ StableHold call

/-- The process can still complete the acquisition of a stable lease without looking for a watcher
again. -/
def CanComplete : Party LeaseCall LeaseCall.Answer LeaseReply → Prop
  | .working p => p.Nears StableHold EndsAcquire
  | _ => False

def Completing (s : LeaseState) (i : Nat) : Prop := CanComplete (s.parties i)

def WatcherHolds (files : RuntimeFiles) : Prop := ∃w,files.watcherLock=some (.watcher w)

/-- No watcher tries to enter while a supervisor holds the watcher's lock for its check, or between
the check of a stable supervisor and the end of its `acquire`; and the attempt itself meets no
error. -/
def Undisturbed (s : LeaseState) (move : LeaseMove) : Prop :=
  ∀i choice,move=.advance i choice → s.calling i=some .enterWatcherLock →
    choice.failure=none ∧ (∀j,s.shared.watcherLock≠some (.supervisor j)) ∧ ∀j,¬Completing s j

/-- A stable supervisor does not complete its acquisition while a watcher holds its lease, and only
another watcher keeps a watcher from entering. -/
structure WatcherExcludes (runtime : RuntimeDirectory) (s : LeaseState) (move : LeaseMove) :
    Prop where
  stable : ∀i identity,identity.mode=.stable → s.calling i≠some (.hold identity) →
    (step (leaseSystem runtime) move s).calling i=some (.hold identity) →
    ¬WatcherHolds s.shared ∧ ¬WatcherHolds (step (leaseSystem runtime) move s).shared
  admitted : ∀i choice,move=.advance i choice → s.calling i=some .enterWatcherLock →
    (s.shared.enterWatcherLock i choice).1≠.ok () →
    ∃w,w≠i ∧ s.shared.watcherLock=some (.watcher w)

namespace LeaseMode

variable {runtime : RuntimeDirectory} {m : LeaseMode}

/-- Only the check of the watcher's lock clears a process. -/
theorem after_uncleared (call : LeaseCall) (x : call.Answer) (check : call≠.tryWatcherLock)
    (uncleared : m.cleared=false) : (m.after call x).cleared=false := by
  cases call with
  | tryWatcherLock => exact absurd rfl check
  | hold identity => rfl
  | exit => rfl
  | tryInstanceLock => cases x <;> exact uncleared
  | openIdentity => cases x <;> exact uncleared
  | setLength file => cases x <;> exact uncleared
  | removeIdentity => cases x <;> exact uncleared
  | enterWatcherLock => cases x <;> exact uncleared
  | writeIdentity file position bytes =>
    cases x with
    | error e => exact uncleared
    | ok count =>
      show (m.wrote (bytes.take count)).cleared=false
      unfold wrote
      cases m.stage <;> exact uncleared
  | _ => exact uncleared

theorem uncleared_forbids (call : LeaseCall) (uncleared : m.cleared=false) (hold : StableHold call) :
    ¬m.permits runtime call := by
  cases call with
  | hold identity =>
    intro may
    have cleared := may.2 hold
    rw [uncleared] at cleared
    cases cleared
  | _ => exact hold.elim

/-- A process that has not been cleared does not complete a stable lease without a check. -/
theorem not_nears {α : Type} {p : Program LeaseCall LeaseCall.Answer α} {post : α → LeaseMode → Prop}
    (follows : p.Follows (leaseDiscipline runtime) m post) (uncleared : m.cleared=false) :
    ¬p.Nears StableHold EndsAcquire :=
  follows.not_nears (fun m => m.cleared=false) (fun _ call => uncleared_forbids call)
    (fun _ call x low early => after_uncleared call x (fun check => early (.inl check)) low) uncleared

/-- A check that finds the lock taken clears nobody, and a lease that was returned no longer does. -/
theorem uncleared_of_ends {files : RuntimeFiles} {i : Nat} {owner : WatcherLockOwner}
    (choice : LeaseChoice) {call : LeaseCall} (ends : EndsAcquire call)
    (held : files.watcherLock=some owner) :
    (m.after call (RuntimeFiles.respond i choice call files).1).cleared=false := by
  cases call with
  | tryWatcherLock =>
    have refused := files.tryLock_cases choice
      files.watcherLock.isSome { files with watcherLock := some (.supervisor i) }
    rcases refused with ⟨-,free⟩|⟨e,failed⟩
    · rw [held] at free
      cases free
    · rw [show RuntimeFiles.respond i choice .tryWatcherLock files=_ from failed]
      rfl
  | hold identity => rfl
  | _ => exact ends.elim (fun eq => (by cases eq)) False.elim

end LeaseMode

theorem watcherLock_dropInstance {files : RuntimeFiles} (i : Nat) :
    (files.dropInstanceLock i).watcherLock=files.watcherLock := by
  unfold RuntimeFiles.dropInstanceLock
  split_ifs <;> rfl

/-- A process that ends makes no lock a watcher's. -/
theorem watcherLock_release {files : RuntimeFiles} {i : Nat} {owner : WatcherLockOwner}
    (holds : (files.release i).watcherLock=some owner) : files.watcherLock=some owner := by
  have second := (RuntimeFiles.watcherLock_drop _ holds).1
  exact (watcherLock_dropInstance i).symm.trans (RuntimeFiles.watcherLock_drop _ second).1

/-- Only a watcher that enters makes the watcher's lock a watcher's. -/
theorem watcherLock_respond {files : RuntimeFiles} {i w : Nat} (choice : LeaseChoice)
    (call : LeaseCall) (other : call≠.enterWatcherLock)
    (holds : (RuntimeFiles.respond i choice call files).2.watcherLock=some (.watcher w)) :
    files.watcherLock=some (.watcher w) := by
  have attempted {α : Type} (a : α) (after : RuntimeFiles)
      (holds : (files.attempt choice a after).2.watcherLock=some (.watcher w))
      (same : after.watcherLock=files.watcherLock) : files.watcherLock=some (.watcher w) := by
    rcases files.attempt_cases choice a after with done|⟨e,failed⟩
    · rw [done] at holds
      exact same.symm.trans holds
    · rw [failed] at holds
      exact holds
  have locked (held : Bool) (after : RuntimeFiles)
      (holds : (files.tryLock choice held after).2.watcherLock=some (.watcher w))
      (back : after.watcherLock=some (.watcher w) → files.watcherLock=some (.watcher w)) :
      files.watcherLock=some (.watcher w) := by
    rcases files.tryLock_cases choice held after with
      ⟨done,-⟩|⟨e,failed⟩
    · rw [done] at holds
      exact back holds
    · rw [failed] at holds
      exact holds
  have removed (there : Bool) (after : RuntimeFiles)
      (holds : (files.remove choice there after).2.watcherLock=some (.watcher w))
      (same : after.watcherLock=files.watcherLock) : files.watcherLock=some (.watcher w) := by
    rcases files.remove_cases choice there after with
      done|⟨e,failed⟩
    · rw [done] at holds
      exact same.symm.trans holds
    · rw [failed] at holds
      exact holds
  cases call with
  | enterWatcherLock => exact absurd rfl other
  | createDirectory => exact attempted () files holds rfl
  | openWatcherLock => exact attempted () files holds rfl
  | openInstanceLock => exact attempted () files holds rfl
  | seekStart file => exact attempted () files holds rfl
  | flushIdentity file => exact attempted () files holds rfl
  | writeTemporary => exact attempted () files holds rfl
  | setLength file => exact attempted () _ holds rfl
  | writeIdentity file position bytes => exact attempted _ _ holds rfl
  | moveWatcherIdentity text => exact attempted () _ holds rfl
  | tryWatcherLock => exact locked _ _ holds fun back => (by cases back)
  | tryInstanceLock => exact locked _ _ holds id
  | removeIdentity => exact removed _ _ holds rfl
  | removeWatcherIdentity => exact removed _ _ holds rfl
  | closeWatcherLock => exact (RuntimeFiles.watcherLock_drop _ holds).1
  | leaveWatcherLock => exact (RuntimeFiles.watcherLock_drop _ holds).1
  | abandonInstanceLock => exact (watcherLock_dropInstance i).symm.trans holds
  | closeInstanceLock => exact (watcherLock_dropInstance i).symm.trans holds
  | readWatcherIdentity => exact holds
  | readOwner => exact holds
  | readIdentity => exact holds
  | hold identity => exact holds
  | watch => exact holds
  | exit => exact watcherLock_release holds
  | openIdentity =>
    have opened : (files.openIdentity choice).2.watcherLock=some (.watcher w) := holds
    unfold RuntimeFiles.openIdentity at opened
    cases there : files.identity with
    | some file =>
      simp only [there] at opened
      exact attempted _ files opened rfl
    | none =>
      simp only [there] at opened
      exact attempted _ _ opened rfl

section Steps

variable {runtime : RuntimeDirectory} {s : LeaseState} {move : LeaseMove} {i : Nat}

/-- A process that completes a stable acquisition could do so before, unless it has just looked
for a watcher or returned another lease. -/
theorem completing_of_next {call : LeaseCall}
    {next : call.Answer → Program LeaseCall LeaseCall.Answer LeaseReply}
    (here : s.parties i=.working (.call call next)) (early : ¬EndsAcquire call) {x : call.Answer}
    (now : (next x).At StableHold ∨ (next x).Nears StableHold EndsAcquire) : Completing s i := by
  unfold Completing
  rw [here]
  exact ⟨early,x,now⟩

theorem calling_other {shared : RuntimeFiles} {j : Nat} {p : Party LeaseCall LeaseCall.Answer
    LeaseReply} (other : i≠j) :
    State.calling ⟨shared,Function.update s.parties j p⟩ i=s.calling i := by
  unfold State.calling
  simp only [Function.update_of_ne other]

theorem completing_other {shared : RuntimeFiles} {j : Nat} {p : Party LeaseCall LeaseCall.Answer
    LeaseReply} (other : i≠j) :
    Completing ⟨shared,Function.update s.parties j p⟩ i ↔ Completing s i := by
  unfold Completing
  simp only [Function.update_of_ne other]

theorem completing_working {shared : RuntimeFiles} (p : Program LeaseCall LeaseCall.Answer
    LeaseReply) : Completing ⟨shared,Function.update s.parties i (.working p)⟩ i ↔
      p.Nears StableHold EndsAcquire := by
  unfold Completing
  simp only [Function.update_self]
  rfl

/-- No watcher holds its lease while a stable supervisor can complete an acquisition. -/
def NoWatcherMeanwhile (s : LeaseState) : Prop := ∀i,Completing s i → ¬WatcherHolds s.shared

theorem noWatcherMeanwhile_step (kept : LeasesKept runtime s) (none : NoWatcherMeanwhile s)
    (undisturbed : Undisturbed s move) :
    NoWatcherMeanwhile (step (leaseSystem runtime) move s) := by
  obtain ⟨modes,leased,each⟩ := kept
  rcases step_cases (leaseSystem runtime) move s with same|⟨j,request,-,-,same⟩|
    ⟨j,choice,call,next,rfl,here,same⟩|⟨j,p,-,-,same⟩|⟨change,-,-⟩
  · rw [same]
    exact none
  · intro i completing
    rw [same] at completing ⊢
    by_cases mine : i=j
    · subst mine
      have near := (completing_working _).mp completing
      exact absurd near (LeaseMode.not_nears (follows_process runtime request) rfl)
    · exact none i ((completing_other mine).mp completing)
  · intro i completing holds
    rw [same] at completing holds
    obtain ⟨w,holds⟩ := holds
    have entered : call≠.enterWatcherLock → WatcherHolds s.shared := fun other =>
      ⟨w,watcherLock_respond choice call other holds⟩
    have calls := State.calling_eq here
    by_cases enters : call=.enterWatcherLock
    · subst enters
      have apart := (undisturbed j choice rfl calls).2.2
      by_cases mine : i=j
      · subst mine
        have near := (completing_working _).mp completing
        refine apart i (completing_of_next here ?_ (.inr near))
        exact fun ends => ends.elim (fun eq => (by cases eq)) id
      · exact apart i ((completing_other mine).mp completing)
    · by_cases mine : i=j
      · subst mine
        have near := (completing_working _).mp completing
        by_cases ends : EndsAcquire call
        · obtain ⟨owner,held⟩ := entered enters
          have follows := each i
          rw [here] at follows
          exact LeaseMode.not_nears (follows.2 _)
            (LeaseMode.uncleared_of_ends choice ends held) near
        · exact none i (completing_of_next here ends (.inr near)) (entered enters)
      · exact none i ((completing_other mine).mp completing) (entered enters)
  · intro i completing holds
    rw [same] at completing holds
    obtain ⟨w,holds⟩ := holds
    by_cases mine : i=j
    · subst mine
      unfold Completing at completing
      simp only [Function.update_self] at completing
      exact completing
    · exact none i ((completing_other mine).mp completing) ⟨w,watcherLock_release holds⟩
  · exact change.elim

/-- Where a step leads to the return of a stable lease, the process could complete it before. -/
theorem completing_of_returns (kept : LeasesKept runtime s) {identity : RuntimeInstance}
    (stable : identity.mode=.stable) (before : s.calling i≠some (.hold identity))
    (returns : (step (leaseSystem runtime) move s).calling i=some (.hold identity)) :
    Completing s i ∧ ∃choice call,move=.advance i choice ∧ s.calling i=some call ∧
      (step (leaseSystem runtime) move s).shared=
        (RuntimeFiles.respond i choice call s.shared).2 := by
  obtain ⟨modes,leased,each⟩ := kept
  rcases step_cases (leaseSystem runtime) move s with same|⟨j,request,-,-,same⟩|
    ⟨j,choice,call,next,rfl,here,same⟩|⟨j,p,-,-,same⟩|⟨change,-,-⟩
  · rw [same] at returns
    exact absurd returns before
  · rw [same] at returns
    by_cases mine : i=j
    · subst mine
      obtain ⟨rest,now⟩ := calling_some returns
      simp only [Function.update_self] at now
      have follows := follows_process runtime request
      rw [show runtime.process request=_ from Party.working.inj now] at follows
      obtain ⟨⟨file,encoded,-,written⟩,-⟩ := follows.1
      cases written
    · rw [calling_other mine] at returns
      exact absurd returns before
  · rw [same] at returns ⊢
    by_cases mine : i=j
    · subst mine
      have calls := State.calling_eq here
      refine ⟨?_,choice,call,rfl,calls,rfl⟩
      obtain ⟨rest,now⟩ := calling_some returns
      simp only [Function.update_self] at now
      have follows := each i
      rw [here] at follows
      have later := follows.2 (RuntimeFiles.respond i choice call s.shared).1
      rw [show next (RuntimeFiles.respond i choice call s.shared).1=_ from
        Party.working.inj now] at later
      have may : ((modes i).after call (RuntimeFiles.respond i choice call s.shared).1).permits
          runtime (.hold identity) := later.1
      have early : ¬EndsAcquire call := by
        intro ends
        rcases ends with rfl|hold
        · have out : (modes i).stage=.outside := follows.1
          obtain ⟨⟨file,encoded,-,written⟩,-⟩ := may
          rw [show ((modes i).after .tryWatcherLock _).stage=(modes i).stage from rfl,out] at written
          cases written
        · cases call with
          | hold other =>
            have cleared := may.2 stable
            cases cleared
          | _ => exact hold
      refine completing_of_next here early (.inl ?_)
        (x := (RuntimeFiles.respond i choice call s.shared).1)
      rw [show next (RuntimeFiles.respond i choice call s.shared).1=_ from Party.working.inj now]
      exact stable
    · rw [calling_other mine] at returns
      exact absurd returns before
  · rw [same] at returns
    by_cases mine : i=j
    · subst mine
      unfold State.calling at returns
      simp only [Function.update_self] at returns
      cases returns
    · rw [calling_other mine] at returns
      exact absurd returns before
  · exact change.elim

theorem watcherExcludes_of_kept (kept : LeasesKept runtime s) (none : NoWatcherMeanwhile s)
    (undisturbed : Undisturbed s move) : WatcherExcludes runtime s move := by
  constructor
  · intro i identity stable before returns
    obtain ⟨completing,choice,call,rfl,calls,shared⟩ := completing_of_returns kept stable before
      returns
    refine ⟨none i completing,fun after => none i completing ?_⟩
    obtain ⟨w,holds⟩ := after
    rw [shared] at holds
    refine ⟨w,watcherLock_respond choice call (fun enters => ?_) holds⟩
    subst enters
    exact (undisturbed i choice rfl calls).2.2 i completing
  · intro i choice eq calls refused
    obtain ⟨modes,leased,each⟩ := kept
    obtain ⟨well,alone,-⟩ := undisturbed i choice eq calls
    cases held : s.shared.watcherLock with
    | none =>
      unfold RuntimeFiles.enterWatcherLock at refused
      simp only [well,held] at refused
      exact absurd rfl refused
    | some owner =>
      cases owner with
      | supervisor j => exact absurd held (alone j)
      | watcher w =>
        refine ⟨w,fun same => ?_,rfl⟩
        have watching := leased.watched w held
        have fresh : (modes i).watching=false := permitted each calls
        rw [same,fresh] at watching
        cases watching

end Steps

def RuntimeMode.name : RuntimeMode → String
  | .stable => "stable"
  | .developmentWatcher => "development_watcher"

def RuntimeInstance.fields (identity : RuntimeInstance) : List (String × String) :=
  [("schemaVersion",toString identity.schemaVersion),
    ("instanceId",JsonText.string identity.instanceId),
    ("processId",toString identity.processId),
    ("executable",JsonText.string identity.executable),
    ("mode",JsonText.string identity.mode.name)]++
  JsonText.optionalField "watcherProcessId" (identity.watcherProcessId.map toString)++
  [("startedAtUnixMs",toString identity.startedAtUnixMs),
    ("version",JsonText.string identity.version),
    ("configFingerprint",JsonText.string identity.configFingerprint),
    ("controlApi",JsonText.string identity.controlApi)]

/-- The identity as `to_vec_pretty` writes it. -/
def RuntimeInstance.prettyText (identity : RuntimeInstance) : String :=
  "\x7b\n  "++",\n  ".intercalate (identity.fields.map fun field =>
    JsonText.string field.1++": "++field.2)++"\n\x7d"

def fixtureRuntime : RuntimeDirectory where
  directory := ".runtime"
  path name := ".runtime/"++name
  encode identity := .ok (identity.prettyText.toList.flatMap String.utf8EncodeChar)
  decode _ := .error "not read"
  decodeWatcher _ := .error "not read"
  documentText _ := []
  readDocument _ := none

def fixtureInstance : RuntimeInstance where
  schemaVersion := 1
  instanceId := "7-1"
  processId := 7
  executable := "aku-supervisor"
  mode := .stable
  watcherProcessId := none
  startedAtUnixMs := 1
  version := "test"
  configFingerprint := "sha256:test"
  controlApi := "http://127.0.0.1:1"

def fixtureDocument : WatcherDocument := ⟨1,"w",8,1,"repository","config.json"⟩

def fixtureStart : LeaseState := .initial (.initial none none)

/-- A supervisor, process 0, up to its check of the watcher's lock. -/
def fixtureChecking : List LeaseMove :=
  .launch 0 (.supervisor fixtureInstance none)::List.replicate 3 (.advance 0 ⟨none,1000⟩)

/-- A watcher, process 1, up to its attempt to enter. -/
def fixtureEntering : List LeaseMove :=
  .launch 1 (.watcher fixtureDocument)::List.replicate 2 (.advance 1 ⟨none,0⟩)

/-- The watcher enters after the check of the supervisor, which then acquires the instance lease. -/
def fixtureOvertaking : List LeaseMove :=
  fixtureChecking++[.advance 0 ⟨none,0⟩]++fixtureEntering++[.advance 1 ⟨none,0⟩]++
    List.replicate 7 (.advance 0 ⟨none,1000⟩)

/-- While no watcher tries to enter in the middle of a check or of an acquisition that has passed
its check, watchers and stable supervisors exclude each other. -/
theorem watcher_excluded (runtime : RuntimeDirectory)
    (identity watcherIdentity : Option (List UInt8)) (moves : List LeaseMove)
    (undisturbed : Run.Along (step (leaseSystem runtime)) Undisturbed moves
      (.initial (.initial identity watcherIdentity))) :
    Run.Along (step (leaseSystem runtime)) (WatcherExcludes runtime) moves
      (.initial (.initial identity watcherIdentity)) := by
  have keeps : Run.Keeps (step (leaseSystem runtime)) Undisturbed
      fun s => LeasesKept runtime s ∧ NoWatcherMeanwhile s := fun s move holds apart =>
    ⟨(leaseSystem_upholds runtime).keeps s move holds.1 trivial,
      noWatcherMeanwhile_step holds.1 holds.2 apart⟩
  exact keeps.along (fun s move holds apart => watcherExcludes_of_kept holds.1 holds.2 apart)
    ⟨leasesKept_initial runtime identity watcherIdentity,fun i completing => completing.elim⟩
    undisturbed

theorem watcher_excluded_entering :
    Run.Along (step (leaseSystem fixtureRuntime)) (WatcherExcludes fixtureRuntime)
      (fixtureEntering++[.advance 1 ⟨none,0⟩]++fixtureChecking) fixtureStart := by
  apply watcher_excluded fixtureRuntime none none
  have elsewhere (s : LeaseState) (i : Nat) (choice : LeaseChoice)
      (calls : s.calling i≠some .enterWatcherLock) : Undisturbed s (.advance i choice) := by
    intro j choice' eq enters
    cases eq
    exact absurd enters calls
  have launches (s : LeaseState) (i : Nat) (request : LeaseRequest) :
      Undisturbed s (.launch i request) := fun j choice eq => (by cases eq)
  refine ⟨launches _ _ _,elsewhere _ _ _ (by decide +kernel),elsewhere _ _ _ (by decide +kernel),
    ?_,launches _ _ _,elsewhere _ _ _ (by decide +kernel),elsewhere _ _ _ (by decide +kernel),
    elsewhere _ _ _ (by decide +kernel),trivial⟩
  intro j choice eq _
  cases eq
  refine ⟨rfl,fun k held => (by cases held),fun k => ?_⟩
  have launched := follows_process fixtureRuntime (.watcher fixtureDocument)
  have opens : Program.Follows _ _ _ _ := launched.2 (.ok ())
  have enters : Program.Follows _ _ _ _ := opens.2 (.ok ())
  rcases k with _|_|k
  · exact id
  · exact LeaseMode.not_nears enters rfl
  · exact id

/-- A stable supervisor completes its acquisition while a watcher holds the watcher's lease; and a
watcher is kept from entering by a supervisor that checks. -/
theorem watcher_not_excluded :
    ¬Run.Along (step (leaseSystem fixtureRuntime)) (WatcherExcludes fixtureRuntime)
        (fixtureOvertaking++[.advance 0 ⟨none,0⟩]) fixtureStart ∧
      ¬Run.Along (step (leaseSystem fixtureRuntime)) (WatcherExcludes fixtureRuntime)
        (fixtureChecking++fixtureEntering++[.advance 1 ⟨none,0⟩]) fixtureStart := by
  constructor
  · intro along
    have last := ((Run.along_append _ _ _ _).mp along).2.1
    have overtaken (s : LeaseState) (eq : Run.final (step (leaseSystem fixtureRuntime))
        fixtureOvertaking fixtureStart=s) : s.calling 0=some (.flushIdentity 1) ∧
          s.shared.watcherLock=some (.watcher 1) ∧ (step (leaseSystem fixtureRuntime)
            (.advance 0 ⟨none,0⟩) s).calling 0=some (.hold fixtureInstance) := by
      subst eq
      decide +kernel
    obtain ⟨flushes,held,holds⟩ := overtaken _ rfl
    have apart := last.stable 0 fixtureInstance rfl (by rw [flushes]; decide) holds
    exact apart.1 ⟨1,held⟩
  · intro along
    have last := ((Run.along_append _ _ _ _).mp along).2.1
    obtain ⟨w,-,held⟩ := last.admitted 1 ⟨none,0⟩ rfl (by decide +kernel) (fun entered => by
      have refused : (RuntimeFiles.enterWatcherLock (Run.final (step (leaseSystem fixtureRuntime))
        (fixtureChecking++fixtureEntering) fixtureStart).shared 1 ⟨none,0⟩).1.toBool=false := by
        decide +kernel
      rw [entered] at refused
      cases refused)
    have owner : (Run.final (step (leaseSystem fixtureRuntime)) (fixtureChecking++fixtureEntering)
        fixtureStart).shared.watcherLock=some (.supervisor 0) := by decide +kernel
    rw [owner] at held
    cases held

end AkuSupervisor

import AkuSupervisor.Adapters.LeaseDiscipline

namespace AkuSupervisor

namespace RuntimeFiles

section Calls

variable (files : RuntimeFiles)

/-- A lock that is released, or stays as it is. -/
theorem watcherLock_drop {owner : WatcherLockOwner} {w : WatcherLockOwner}
    (holds : (files.dropWatcherLock owner).watcherLock=some w) :
    files.watcherLock=some w ∧ w≠owner := by
  unfold dropWatcherLock at holds
  by_cases mine : files.watcherLock=some owner
  · rw [if_pos mine] at holds
    cases holds
  · rw [if_neg mine] at holds
    refine ⟨holds,fun same => mine ?_⟩
    rw [holds,same]

theorem dropWatcherLock_same (owner : WatcherLockOwner) :
    (files.dropWatcherLock owner).instanceLock=files.instanceLock ∧
      (files.dropWatcherLock owner).identity=files.identity := by
  unfold dropWatcherLock
  split_ifs <;> exact ⟨rfl,rfl⟩

/-- What a call gives that may fail. -/
theorem attempt_cases {α : Type} (choice : LeaseChoice) (a : α) (after : RuntimeFiles) :
    files.attempt choice a after=(.ok a,after) ∨
      ∃text,files.attempt choice a after=(.error text,files) := by
  unfold attempt
  cases choice.failure with
  | none => exact .inl rfl
  | some text => exact .inr ⟨text,rfl⟩

theorem tryLock_cases (choice : LeaseChoice) (held : Bool) (after : RuntimeFiles) :
    files.tryLock choice held after=(.ok (),after) ∧ held=false ∨
      ∃e,files.tryLock choice held after=(.error e,files) := by
  unfold tryLock
  cases choice.failure with
  | some text => exact .inr ⟨_,rfl⟩
  | none =>
    cases held with
    | false => exact .inl ⟨rfl,rfl⟩
    | true => exact .inr ⟨_,rfl⟩

theorem enterWatcherLock_cases (process : Nat) (choice : LeaseChoice) :
    files.enterWatcherLock process choice=
        (.ok (),{ files with watcherLock := some (.watcher process) }) ∨
      ∃text,files.enterWatcherLock process choice=(.error text,files) := by
  unfold enterWatcherLock
  cases choice.failure with
  | some text => exact .inr ⟨_,rfl⟩
  | none =>
    cases files.watcherLock with
    | none => exact .inl rfl
    | some owner => exact .inr ⟨_,rfl⟩

theorem remove_cases (choice : LeaseChoice) (there : Bool) (after : RuntimeFiles) :
    files.remove choice there after=(.ok (),after) ∨
      ∃text,files.remove choice there after=(.error text,files) := by
  unfold remove
  cases there with
  | true => exact files.attempt_cases choice () after
  | false => exact .inr ⟨_,rfl⟩

theorem identity_dropInstanceLock (i : Nat) :
    (files.dropInstanceLock i).identity=files.identity := by
  unfold dropInstanceLock
  split_ifs <;> rfl

theorem identity_release (i : Nat) : (files.release i).identity=files.identity := by
  show ((files.dropInstanceLock i).dropWatcherLock (.supervisor i)
    |>.dropWatcherLock (.watcher i)).identity=files.identity
  rw [(dropWatcherLock_same _ (.watcher i)).2,(dropWatcherLock_same _ (.supervisor i)).2,
    identity_dropInstanceLock]

end Calls

/-- What the identity file has to be for a process at the stage. -/
def Supports (files : RuntimeFiles) : LeaseStage → Prop
  | .outside | .locked => True
  | .opened file => ∃bytes,files.identity=some ⟨file,bytes⟩
  | .written file content => files.identity=some ⟨file,content⟩

/-- The files and how far the processes are: who is inside the lock holds it, and the identity file
is as the process left it. -/
structure Leased (files : RuntimeFiles) (modes : Nat → LeaseMode) : Prop where
  owned : ∀i,(modes i).stage.owns=true → files.instanceLock=some i
  supports : ∀i,files.Supports (modes i).stage
  watched : ∀i,files.watcherLock=some (.watcher i) → (modes i).watching=true

namespace Leased

variable {runtime : RuntimeDirectory} {files : RuntimeFiles} {modes : Nat → LeaseMode} {i : Nat}

theorem supports_outside {files' : RuntimeFiles} {stage : LeaseStage} (out : stage.owns=false) :
    files'.Supports stage := by
  cases stage with
  | outside => trivial
  | locked => cases out
  | opened file => cases out
  | written file content => cases out

/-- No other process is inside the lock. -/
theorem others_outside (leased : Leased files modes) (here : (modes i).stage.owns=true) {j : Nat}
    (other : j≠i) : (modes j).stage.owns=false := by
  cases there : (modes j).stage.owns with
  | false => rfl
  | true =>
    have lock := leased.owned i here
    rw [leased.owned j there] at lock
    exact absurd (Option.some.inj lock) other

/-- One process changes the files and its mode. -/
theorem of_update {files' : RuntimeFiles} {m : LeaseMode}
    (own : m.stage.owns=true → files'.instanceLock=some i) (mine : files'.Supports m.stage)
    (watch : files'.watcherLock=some (.watcher i) → m.watching=true)
    (others : ∀j,j≠i → ((modes j).stage.owns=true → files'.instanceLock=some j) ∧
      files'.Supports (modes j).stage)
    (watched : ∀j,j≠i → files'.watcherLock=some (.watcher j) → (modes j).watching=true) :
    Leased files' (Function.update modes i m) := by
  refine ⟨fun j => ?_,fun j => ?_,fun j => ?_⟩
  all_goals by_cases same : j=i
  · rw [same,Function.update_self]
    exact own
  · rw [Function.update_of_ne same]
    exact (others j same).1
  · rw [same,Function.update_self]
    exact mine
  · rw [Function.update_of_ne same]
    exact (others j same).2
  · rw [same,Function.update_self]
    exact watch
  · rw [Function.update_of_ne same]
    exact watched j same

/-- A process changes what belongs to the holder of the lock, and the others are outside it. -/
theorem inside (leased : Leased files modes) (here : (modes i).stage.owns=true)
    {files' : RuntimeFiles} {m : LeaseMode} (lock : files'.instanceLock=files.instanceLock)
    (mine : files'.Supports m.stage) (watcher : files'.watcherLock=files.watcherLock)
    (watching : m.watching=(modes i).watching) : Leased files' (Function.update modes i m) := by
  refine of_update (fun _ => lock.trans (leased.owned i here)) mine (fun holds => ?_)
    (fun j other => ?_) fun j _ holds => leased.watched j (watcher ▸ holds)
  · rw [watching]
    exact leased.watched i (watcher ▸ holds)
  · have out := leased.others_outside here other
    refine ⟨fun owns => ?_,supports_outside out⟩
    rw [out] at owns
    cases owns

/-- Neither the instance lock nor the identity changes, and the process stays at its stage. -/
theorem aside (leased : Leased files modes) {files' : RuntimeFiles} {m : LeaseMode}
    (lock : files'.instanceLock=files.instanceLock) (identity : files'.identity=files.identity)
    (stage : m.stage=(modes i).stage)
    (watch : files'.watcherLock=some (.watcher i) → m.watching=true)
    (watched : ∀j,j≠i → files'.watcherLock=some (.watcher j) →
      files.watcherLock=some (.watcher j)) : Leased files' (Function.update modes i m) := by
  have supports (j : Nat) : files'.Supports (modes j).stage := by
    have before := leased.supports j
    cases there : (modes j).stage with
    | outside => trivial
    | locked => trivial
    | opened file =>
      rw [there] at before
      exact ⟨before.choose,identity.trans before.choose_spec⟩
    | written file content =>
      rw [there] at before
      exact identity.trans before
  refine of_update (fun owns => ?_) (stage ▸ supports i) watch
    (fun j other => ⟨fun owns => lock.trans (leased.owned j owns),supports j⟩)
    fun j other holds => leased.watched j (watched j other holds)
  rw [stage] at owns
  exact lock.trans (leased.owned i owns)

/-- Nothing changes but what the process may rely on of the watcher's lock. -/
theorem remode (leased : Leased files modes) {m : LeaseMode} (stage : m.stage=(modes i).stage)
    (watching : m.watching=(modes i).watching) : Leased files (Function.update modes i m) :=
  leased.aside rfl rfl stage (fun holds => by rw [watching]; exact leased.watched i holds)
    fun _ _ => id

/-- Nothing changes that the leases rely on. -/
theorem idle (leased : Leased files modes) : Leased files (Function.update modes i (modes i)) :=
  leased.remode rfl rfl

/-- A process releases the watcher's lock if it is its own. -/
theorem dropWatcher (leased : Leased files modes) (owner : WatcherLockOwner) {m : LeaseMode}
    (stage : m.stage=(modes i).stage)
    (watching : owner=.watcher i ∨ m.watching=(modes i).watching) :
    Leased (files.dropWatcherLock owner) (Function.update modes i m) := by
  obtain ⟨lock,identity⟩ := files.dropWatcherLock_same owner
  refine leased.aside lock identity stage (fun holds => ?_) fun j _ holds =>
    (files.watcherLock_drop holds).1
  obtain ⟨before,other⟩ := files.watcherLock_drop holds
  rcases watching with mine|kept
  · exact absurd mine.symm other
  · rw [kept]
    exact leased.watched i before

/-- A process leaves the instance lock; where it did not hold it, nothing changes. -/
theorem dropInstance (leased : Leased files modes) {m : LeaseMode} (stage : m.stage=.outside)
    (watching : m.watching=(modes i).watching) :
    Leased (files.dropInstanceLock i) (Function.update modes i m) := by
  have kept : (files.dropInstanceLock i).identity=files.identity ∧
      (files.dropInstanceLock i).watcherLock=files.watcherLock := by
    unfold dropInstanceLock
    split_ifs <;> exact ⟨rfl,rfl⟩
  refine of_update (fun owns => ?_) (by rw [stage]; trivial) (fun holds => ?_) (fun j other => ?_)
    fun j _ holds => leased.watched j (kept.2 ▸ holds)
  · rw [stage] at owns
    cases owns
  · rw [watching]
    exact leased.watched i (kept.2 ▸ holds)
  · refine ⟨fun owns => ?_,?_⟩
    · have lock := leased.owned j owns
      have others : files.instanceLock≠some i := by
        rw [lock]
        exact fun same => other (Option.some.inj same)
      unfold dropInstanceLock
      rw [if_neg others]
      exact lock
    · have before := leased.supports j
      cases there : (modes j).stage with
      | outside => trivial
      | locked => trivial
      | opened file =>
        rw [there] at before
        exact ⟨before.choose,kept.1.trans before.choose_spec⟩
      | written file content =>
        rw [there] at before
        exact kept.1.trans before

/-- The end of a process releases its locks. -/
theorem release (leased : Leased files modes) (i : Nat) :
    Leased (files.release i) (Function.update modes i .start) := by
  have first : Leased (files.dropInstanceLock i)
      (Function.update modes i ((modes i).moved .outside)) := leased.dropInstance rfl rfl
  have second := first.dropWatcher (i := i) (.supervisor i)
    (m := (modes i).moved .outside) (by rw [Function.update_self]) (.inr (by
      rw [Function.update_self]))
  have third := second.dropWatcher (i := i) (.watcher i) (m := .start)
    (by rw [Function.update_self]; rfl) (.inl rfl)
  rw [Function.update_idem,Function.update_idem] at third
  exact third

/-- An attempt that changes nothing, whatever it answers. -/
theorem attempt_idle (leased : Leased files modes) (choice : LeaseChoice) :
    Leased (files.attempt choice () files).2 (Function.update modes i (modes i)) := by
  rcases files.attempt_cases choice () files with done|⟨text,failed⟩
  · rw [done]
    exact leased.idle
  · rw [failed]
    exact leased.idle

/-- The identity is opened by the holder of the lock. -/
theorem openIdentity (leased : Leased files modes) (owns : (modes i).stage.owns=true)
    (choice : LeaseChoice) : Leased (files.openIdentity choice).2
      (Function.update modes i ((modes i).after .openIdentity (files.openIdentity choice).1)) := by
  unfold RuntimeFiles.openIdentity
  cases there : files.identity with
  | some file =>
    rcases files.attempt_cases choice file.number files with done|⟨text,failed⟩
    · simp only [done]
      exact leased.inside owns rfl ⟨file.bytes,there⟩ rfl rfl
    · simp only [failed]
      exact leased.idle
  | none =>
    rcases files.attempt_cases choice files.created
      { files with identity := some ⟨files.created,[]⟩, created := files.created+1 } with
      done|⟨text,failed⟩
    · simp only [done]
      exact leased.inside owns rfl ⟨[],rfl⟩ rfl rfl
    · simp only [failed]
      exact leased.idle

/-- A change of the file that the holder of the lock has opened. -/
theorem change (leased : Leased files modes) {file : Nat} {bytes : List UInt8} {stage : LeaseStage}
    (owns : (modes i).stage.owns=true) (here : files.identity=some ⟨file,bytes⟩)
    (f : IdentityFile → IdentityFile)
    (mine : (files.change file f).identity=some (f ⟨file,bytes⟩) →
      (files.change file f).Supports stage) :
    Leased (files.change file f) (Function.update modes i ((modes i).moved stage)) := by
  refine leased.inside owns rfl (mine ?_) rfl rfl
  show files.identity.map (fun other => if other.number=file then f other else other)=_
  rw [here,Option.map_some,if_pos rfl]

theorem write_end (file : IdentityFile) (bytes : List UInt8) :
    file.write file.bytes.length bytes=⟨file.number,file.bytes++bytes⟩ := by
  have past : file.bytes.drop (file.bytes.length+bytes.length)=[] :=
    List.drop_eq_nil_of_le (Nat.le_add_right _ _)
  unfold IdentityFile.write
  rw [past,List.take_length,Nat.sub_self,List.replicate_zero,List.append_nil,List.append_nil]

theorem writeIdentity (leased : Leased files modes) {file : Nat} {content : List UInt8}
    (stage : (modes i).stage=.written file content) (choice : LeaseChoice) (bytes : List UInt8) :
    Leased (files.writeIdentity choice file content.length bytes).2
      (Function.update modes i ((modes i).after (.writeIdentity file content.length bytes)
        (files.writeIdentity choice file content.length bytes).1)) := by
  have owns : (modes i).stage.owns=true := by rw [stage]; rfl
  have here := leased.supports i
  rw [stage] at here
  unfold RuntimeFiles.writeIdentity
  rcases files.attempt_cases choice (min choice.count bytes.length)
    (files.change file fun file => file.write content.length (bytes.take choice.count)) with
    done|⟨text,failed⟩
  · rw [done]
    have taken : bytes.take (min choice.count bytes.length)=bytes.take choice.count := by
      rw [List.take_eq_take_iff]
      omega
    have after : (modes i).after (.writeIdentity file content.length bytes)
        (.ok (min choice.count bytes.length))=
        (modes i).moved (.written file (content++bytes.take choice.count)) := by
      show (modes i).wrote (bytes.take (min choice.count bytes.length))=_
      unfold LeaseMode.wrote
      rw [stage,taken]
    rw [after]
    refine leased.change owns here _ fun changed => ?_
    have atEnd := write_end ⟨file,content⟩ (bytes.take choice.count)
    exact changed.trans (congrArg some atEnd)
  · rw [failed]
    exact leased.idle

/-- A call that the discipline permits. -/
theorem respond (leased : Leased files modes) (choice : LeaseChoice) (call : LeaseCall)
    (may : (modes i).permits runtime call) : Leased (RuntimeFiles.respond i choice call files).2
      (Function.update modes i
        ((modes i).after call (RuntimeFiles.respond i choice call files).1)) := by
  cases call with
  | createDirectory => exact leased.attempt_idle choice
  | openWatcherLock => exact leased.attempt_idle choice
  | openInstanceLock => exact leased.attempt_idle choice
  | seekStart file => exact leased.attempt_idle choice
  | flushIdentity file => exact leased.attempt_idle choice
  | writeTemporary => exact leased.attempt_idle choice
  | readWatcherIdentity => exact leased.idle
  | readOwner => exact leased.idle
  | readIdentity => exact leased.idle
  | watch => exact leased.idle
  | hold identity => exact leased.remode rfl rfl
  | closeWatcherLock => exact leased.dropWatcher (.supervisor i) rfl (.inr rfl)
  | leaveWatcherLock => exact leased.dropWatcher (.watcher i) rfl (.inl rfl)
  | abandonInstanceLock => exact leased.dropInstance rfl rfl
  | closeInstanceLock => exact leased.dropInstance rfl rfl
  | exit => exact leased.release i
  | openIdentity => exact leased.openIdentity may choice
  | writeIdentity file position bytes =>
    obtain ⟨content,stage,atEnd⟩ := may
    subst atEnd
    exact leased.writeIdentity stage choice bytes
  | tryWatcherLock =>
    rcases files.tryLock_cases choice files.watcherLock.isSome
      { files with watcherLock := some (.supervisor i) } with ⟨done,-⟩|⟨e,failed⟩
    · rw [show RuntimeFiles.respond i choice .tryWatcherLock files=_ from done]
      exact leased.aside rfl rfl rfl (fun holds => by cases holds) fun j _ holds => by cases holds
    · rw [show RuntimeFiles.respond i choice .tryWatcherLock files=_ from failed]
      exact leased.remode rfl rfl
  | tryInstanceLock =>
    rcases files.tryLock_cases choice files.instanceLock.isSome
      { files with instanceLock := some i } with ⟨done,free⟩|⟨e,failed⟩
    · rw [show RuntimeFiles.respond i choice .tryInstanceLock files=_ from done]
      have out (j : Nat) : (modes j).stage.owns=false := by
        cases owns : (modes j).stage.owns with
        | false => rfl
        | true =>
          rw [leased.owned j owns] at free
          cases free
      refine of_update (fun _ => rfl) trivial (leased.watched i) (fun j _ => ?_)
        fun j _ => leased.watched j
      refine ⟨fun owns => ?_,supports_outside (out j)⟩
      rw [out j] at owns
      cases owns
    · rw [show RuntimeFiles.respond i choice .tryInstanceLock files=_ from failed]
      exact leased.idle
  | setLength file =>
    have stage : (modes i).stage=.opened file := may
    have here := leased.supports i
    rw [stage] at here
    obtain ⟨bytes,here⟩ := here
    have owns : (modes i).stage.owns=true := by rw [stage]; rfl
    rcases files.attempt_cases choice ()
      (files.change file fun file => { file with bytes := [] }) with done|⟨text,failed⟩
    · rw [show RuntimeFiles.respond i choice (.setLength file) files=_ from done]
      exact leased.change owns here _ id
    · rw [show RuntimeFiles.respond i choice (.setLength file) files=_ from failed]
      exact leased.idle
  | removeIdentity =>
    rcases files.remove_cases choice files.identity.isSome { files with identity := none } with
      done|⟨text,failed⟩
    · rw [show RuntimeFiles.respond i choice .removeIdentity files=_ from done]
      exact leased.inside may rfl trivial rfl rfl
    · rw [show RuntimeFiles.respond i choice .removeIdentity files=_ from failed]
      exact leased.idle
  | enterWatcherLock =>
    rcases files.enterWatcherLock_cases i choice with done|⟨text,failed⟩
    · rw [show RuntimeFiles.respond i choice .enterWatcherLock files=_ from done]
      refine leased.aside rfl rfl rfl (fun _ => rfl) fun j other holds => ?_
      exact absurd (WatcherLockOwner.watcher.inj (Option.some.inj holds)).symm other
    · rw [show RuntimeFiles.respond i choice .enterWatcherLock files=_ from failed]
      exact leased.idle
  | moveWatcherIdentity text =>
    rcases files.attempt_cases choice () { files with watcherIdentity := some text } with
      done|⟨e,failed⟩
    · rw [show RuntimeFiles.respond i choice (.moveWatcherIdentity text) files=_ from done]
      exact leased.aside rfl rfl rfl (leased.watched i) fun _ _ => id
    · rw [show RuntimeFiles.respond i choice (.moveWatcherIdentity text) files=_ from failed]
      exact leased.idle
  | removeWatcherIdentity =>
    rcases files.remove_cases choice files.watcherIdentity.isSome { files with watcherIdentity := none } with
      done|⟨text,failed⟩
    · rw [show RuntimeFiles.respond i choice .removeWatcherIdentity files=_ from done]
      exact leased.aside rfl rfl rfl (leased.watched i) fun _ _ => id
    · rw [show RuntimeFiles.respond i choice .removeWatcherIdentity files=_ from failed]
      exact leased.idle

/-- Outside the lock no permitted call changes the identity file. -/
theorem identity_outside {m : LeaseMode} (choice : LeaseChoice) (call : LeaseCall)
    (may : m.permits runtime call) (out : m.stage.owns=false) :
    (RuntimeFiles.respond i choice call files).2.identity=files.identity := by
  have attempted (after : RuntimeFiles) (same : after.identity=files.identity) :
      (files.attempt choice () after).2.identity=files.identity := by
    rcases files.attempt_cases choice () after with done|⟨text,failed⟩
    · rw [done]
      exact same
    · rw [failed]
  have locked (held : Bool) (after : RuntimeFiles) (same : after.identity=files.identity) :
      (files.tryLock choice held after).2.identity=files.identity := by
    rcases files.tryLock_cases choice held after with ⟨done,-⟩|⟨e,failed⟩
    · rw [done]
      exact same
    · rw [failed]
  have refuse {P : Prop} (owns : m.stage.owns=true) : P := by
    rw [out] at owns
    cases owns
  cases call with
  | openIdentity => exact refuse may
  | readIdentity => rfl
  | removeIdentity => exact refuse may
  | setLength file => exact refuse (by rw [show m.stage=.opened file from may]; rfl)
  | writeIdentity file position bytes => exact refuse (by rw [may.choose_spec.1]; rfl)
  | createDirectory => exact attempted files rfl
  | openWatcherLock => exact attempted files rfl
  | openInstanceLock => exact attempted files rfl
  | seekStart file => exact attempted files rfl
  | flushIdentity file => exact attempted files rfl
  | writeTemporary => exact attempted files rfl
  | moveWatcherIdentity text => exact attempted _ rfl
  | tryWatcherLock => exact locked _ _ rfl
  | tryInstanceLock => exact locked _ _ rfl
  | closeWatcherLock => exact (files.dropWatcherLock_same _).2
  | leaveWatcherLock => exact (files.dropWatcherLock_same _).2
  | abandonInstanceLock => exact files.identity_dropInstanceLock i
  | closeInstanceLock => exact files.identity_dropInstanceLock i
  | readWatcherIdentity => rfl
  | readOwner => rfl
  | hold identity => rfl
  | watch => rfl
  | exit => exact files.identity_release i
  | enterWatcherLock =>
    rcases files.enterWatcherLock_cases i choice with done|⟨text,failed⟩
    · rw [show RuntimeFiles.respond i choice .enterWatcherLock files=_ from done]
    · rw [show RuntimeFiles.respond i choice .enterWatcherLock files=_ from failed]
  | removeWatcherIdentity =>
    rcases files.remove_cases choice files.watcherIdentity.isSome
      { files with watcherIdentity := none } with done|⟨text,failed⟩
    · rw [show RuntimeFiles.respond i choice .removeWatcherIdentity files=_ from done]
    · rw [show RuntimeFiles.respond i choice .removeWatcherIdentity files=_ from failed]

theorem leased_initial (identity watcherIdentity : Option (List UInt8)) :
    Leased (.initial identity watcherIdentity) fun _ => .start :=
  ⟨fun _ owns => (by cases owns),fun _ => trivial,fun _ holds => (by cases holds)⟩

end Leased

end RuntimeFiles

end AkuSupervisor

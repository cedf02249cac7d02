import Mathlib.Tactic.SplitIfs
import AkuSupervisor.Lib.Run

/-! The development watcher: its fingerprint of the sources, and the loop that rebuilds on a change. -/

namespace AkuSupervisor

/-- A file as `Get-ChildItem` and `Get-Item` give it; hidden also where a directory above it is. -/
structure FileItem where
  fullName : String
  hidden : Bool
  length : Nat
  lastWriteTicks : Nat
deriving DecidableEq

/-- What the fingerprint looks at: the files there are, and git's answers where it succeeds. -/
structure WorkingTree where
  files : List FileItem
  gitPath : String → Option String
  headReference : Option String

/-- The fixed surroundings of a watcher: the repository, the order of `Sort-Object` on names in its
culture, and its parameter. -/
structure WatchOptions where
  repository : String
  nameLe : String → String → Bool
  debounceMilliseconds : Nat

namespace WatchLoop

/-- `-eq` on strings, which ignores case. -/
def psEquals (a b : String) : Bool := a.toLower=b.toLower

def joinPath (parent child : String) : String := parent++"\\"++child

/-- Windows takes either separator. -/
def separators (path : String) : String :=
  String.ofList (path.toList.map fun c => if c= '/' then '\\' else c)

def isUnder (directory : String) (item : FileItem) : Bool :=
  ((directory++"\\").toLower.toList).isPrefixOf item.fullName.toLower.toList

/-- `FileInfo.Extension`: what follows the last dot of the name, with the dot. -/
def extension (item : FileItem) : String :=
  let name := (item.fullName.toList.reverse.takeWhile fun c => c≠ '\\').reverse
  let behind := (name.reverse.takeWhile fun c => c≠ '.').reverse
  if behind.isEmpty ∨ behind.length=name.length then "" else String.ofList ( '.' ::behind)

def isPathRooted (path : String) : Bool :=
  match path.toList with
  | '\\' ::_ => true
  | '/' ::_ => true
  | _:: ':' ::_ => true
  | _ => false

/-- The files below a directory with one of the extensions, as `Get-ChildItem -Recurse -File`
lists them. -/
def childItems (tree : WorkingTree) (directory : String) (extensions : List String) :
    List FileItem :=
  tree.files.filter fun item =>
    isUnder directory item && !item.hidden && extensions.any (psEquals (extension item))

/-- `Get-Item` where `Test-Path` finds the file. -/
def getItem (tree : WorkingTree) (path : String) : List FileItem :=
  (tree.files.find? fun item => psEquals (separators path) item.fullName).toList

/-- The paths under which git keeps the identity of the current commit. -/
def resolveGitIdentityPaths (tree : WorkingTree) : List String :=
  ["HEAD","logs/HEAD"].filterMap tree.gitPath++(tree.headReference.bind tree.gitPath).toList

def gitIdentityItems (o : WatchOptions) (tree : WorkingTree) (paths : List String) :
    List FileItem :=
  paths.eraseDups.flatMap fun path =>
    getItem tree (if isPathRooted path then path else joinPath o.repository path)

def formatItem (item : FileItem) : String :=
  s!"{item.fullName}|{item.length}|{item.lastWriteTicks}"

/-- `Get-WatchFingerprint`, with the git paths the first call leaves for the later ones. -/
def getWatchFingerprint (o : WatchOptions) (tree : WorkingTree)
    (gitIdentityPaths : Option (List String)) : String × List String :=
  let paths := gitIdentityPaths.getD (resolveGitIdentityPaths tree)
  let files :=
    childItems tree (joinPath o.repository "src") [".rs"]++
    ["Cargo.toml","Cargo.lock","build.rs"].flatMap (getItem tree ∘ joinPath o.repository)++
    childItems tree (joinPath o.repository "dashboard") [".html",".css",".js"]++
    gitIdentityItems o tree paths++
    ["scripts\\dev.ps1","scripts\\rust-toolchain.ps1"].flatMap
      (getItem tree ∘ joinPath o.repository)
  ("\n".intercalate
    ((files.mergeSort fun a b => o.nameLe a.fullName b.fullName).map formatItem),paths)

end WatchLoop

/-- Where the watcher is in its script. -/
inductive WatchStage where
  /-- Before the initial build. -/
  | preparing
  | building
  /-- The initial build is done; the executable is installed and the supervisor started. -/
  | starting
  /-- About to take the baseline fingerprint. -/
  | ready
  /-- At the top of the loop. -/
  | watching
  /-- A debounced difference: about to build again. -/
  | due
  | rebuilding
  | handingOff
  /-- The old supervisor was asked to stop; the new executable takes its place. -/
  | replacing
  | stopped
deriving DecidableEq

/-- After the baseline fingerprint, and not about to build. -/
def WatchStage.observing : WatchStage → Bool
  | .watching | .rebuilding | .handingOff | .replacing => true
  | _ => false

/-- What happened to the sources and the builds, in order. -/
inductive WatchEvent where
  | changed
  | buildStarted
deriving DecidableEq

structure WatchState where
  tree : WorkingTree
  gitIdentityPaths : Option (List String)
  stage : WatchStage
  fingerprint : String
  /-- A time in ticks of 100 ns. -/
  pendingSince : Option Int
  history : List WatchEvent

inductive WatchMove where
  | edit (tree : WorkingTree)
  | beginBuild
  /-- The build ends with its exit code, and the staged executable is there or not. -/
  | endBuild (exitCode : Int) (staged : Bool)
  /-- Everything between the initial build and the loop, which throws or not. -/
  | started (thrown : Bool)
  | baseline
  /-- A turn of the loop up to the build, with the supervisor exited or not. -/
  | poll (exited : Bool) (now : Int)
  | handoff (approved : Bool)
  /-- The wait for the old supervisor and the start of the new one, which throw or not. -/
  | replaced (thrown : Bool)

namespace WatchLoop

/-- `Invoke-DevelopmentBuild` once the build has ended; it throws when the executable is missing. -/
def invokeDevelopmentBuild (exitCode : Int) (staged : Bool) : Option Bool :=
  if exitCode≠0 then some false else if staged then some true else none

/-- The fingerprint the watcher would take of a tree now. -/
def fingerprintOf (o : WatchOptions) (s : WatchState) (tree : WorkingTree) : String :=
  (getWatchFingerprint o tree s.gitIdentityPaths).1

def start (tree : WorkingTree) : WatchState := ⟨tree,none,.preparing,"",none,[]⟩

/-- A source change, which is one that changes the fingerprint. -/
def edit (o : WatchOptions) (tree : WorkingTree) (s : WatchState) : WatchState :=
  if fingerprintOf o s tree=fingerprintOf o s s.tree then s
  else { s with tree, history := s.history++[.changed] }

def beginBuild (s : WatchState) : WatchState :=
  match s.stage with
  | .preparing => { s with stage := .building, history := s.history++[.buildStarted] }
  | .due => { s with stage := .rebuilding, history := s.history++[.buildStarted] }
  | _ => s

def endBuild (exitCode : Int) (staged : Bool) (s : WatchState) : WatchState :=
  match s.stage,invokeDevelopmentBuild exitCode staged with
  | .building,some true => { s with stage := .starting }
  -- a failed initial build throws, a failed rebuild goes back to the top of the loop
  | .building,_ => { s with stage := .stopped }
  | .rebuilding,some true => { s with stage := .handingOff }
  | .rebuilding,some false => { s with stage := .watching }
  | .rebuilding,none => { s with stage := .stopped }
  | _,_ => s

def remember (s : WatchState) (paths : List String) : WatchState :=
  { s with gitIdentityPaths := some paths }

def baseline (o : WatchOptions) (s : WatchState) : WatchState :=
  let taken := getWatchFingerprint o s.tree s.gitIdentityPaths
  { remember s taken.2 with stage := .watching, fingerprint := taken.1, pendingSince := none }

def poll (o : WatchOptions) (exited : Bool) (now : Int) (s : WatchState) : WatchState :=
  if exited then { s with stage := .stopped }
  else
    let latest := getWatchFingerprint o s.tree s.gitIdentityPaths
    let s := remember s latest.2
    if !psEquals latest.1 s.fingerprint then
      { s with fingerprint := latest.1, pendingSince := some now }
    else match s.pendingSince with
      | none => s
      | some since =>
        if now-since < o.debounceMilliseconds*10000 then s
        else { s with pendingSince := none, stage := .due }

/-- A move that its stage does not allow changes nothing. -/
def step (o : WatchOptions) (move : WatchMove) (s : WatchState) : WatchState :=
  match move with
  | .edit tree => edit o tree s
  | .beginBuild => beginBuild s
  | .endBuild exitCode staged => endBuild exitCode staged s
  | .started thrown =>
    if s.stage=.starting then { s with stage := if thrown then .stopped else .ready } else s
  | .baseline => if s.stage=.ready then baseline o s else s
  | .poll exited now => if s.stage=.watching then poll o exited now s else s
  | .handoff approved =>
    if s.stage=.handingOff then { s with stage := if approved then .replacing else .watching }
    else s
  | .replaced thrown =>
    if s.stage=.replacing then { s with stage := if thrown then .stopped else .watching } else s

/-- The poll of this state sees no difference, and nothing is pending. -/
def SeesNothing (o : WatchOptions) (s : WatchState) : Prop :=
  psEquals (fingerprintOf o s s.tree) s.fingerprint=true ∧ s.pendingSince=none

/-- The last build attempt started after every source change so far. -/
def Built (s : WatchState) : Prop := s.history.getLast?=some .buildStarted

instance (s : WatchState) : Decidable (Built s) :=
  inferInstanceAs (Decidable (s.history.getLast?=some .buildStarted))

/-- A poll that sees nothing comes after a build of every change. -/
def Caught (o : WatchOptions) (s : WatchState) (move : WatchMove) : Prop :=
  ∀now,move=.poll false now → s.stage=.watching → SeesNothing o s → Built s

/-- The baseline fingerprint is taken with no change since the initial build started, and no change
made with nothing pending brings back the stored fingerprint. -/
def Calm (o : WatchOptions) (s : WatchState) : WatchMove → Prop
  | .edit tree => s.stage.observing=true → s.pendingSince=none →
      psEquals (fingerprintOf o s tree) s.fingerprint=false
  | .baseline => s.stage=.ready → Built s
  | _ => True

instance (o : WatchOptions) (s : WatchState) (move : WatchMove) : Decidable (Calm o s move) :=
  match move with
  | .edit tree => inferInstanceAs (Decidable (s.stage.observing=true → s.pendingSince=none →
      psEquals (fingerprintOf o s tree) s.fingerprint=false))
  | .baseline => inferInstanceAs (Decidable (s.stage=.ready → Built s))
  | .beginBuild | .endBuild _ _ | .started _ | .poll _ _ | .handoff _ | .replaced _ => isTrue trivial

/-- While the watcher observes, the stored fingerprint is that of sources that were built. -/
def Settled (o : WatchOptions) (s : WatchState) : Prop :=
  s.stage.observing=true → SeesNothing o s → Built s

variable {o : WatchOptions} {s : WatchState}

/-- The paths a call leaves behind give the same fingerprint again. -/
theorem fingerprint_again (tree : WorkingTree) (paths : Option (List String)) :
    (getWatchFingerprint o tree (some (getWatchFingerprint o tree paths).2)).1=
      (getWatchFingerprint o tree paths).1 := by
  cases paths <;> rfl

theorem settled_edit {tree : WorkingTree} (settled : Settled o s) (calm : Calm o s (.edit tree)) :
    Settled o (edit o tree s) := by
  unfold edit
  split_ifs with same
  · exact settled
  · intro observing sees
    have differs := calm observing sees.2
    have equals : psEquals (fingerprintOf o s tree) s.fingerprint=true := sees.1
    rw [differs] at equals
    cases equals

theorem settled_beginBuild (settled : Settled o s) : Settled o (beginBuild s) := by
  unfold beginBuild
  split
  · intro observing
    cases observing
  · intro _ _
    exact List.getLast?_concat
  · exact settled

/-- A move that only goes on to a stage of the same kind keeps what is known. -/
theorem settled_stage {stage : WatchStage} (settled : Settled o s)
    (from_observing : stage.observing=true → s.stage.observing=true) :
    Settled o { s with stage } :=
  fun observing sees => settled (from_observing observing) sees

theorem settled_endBuild {exitCode : Int} {staged : Bool} (settled : Settled o s) :
    Settled o (endBuild exitCode staged s) := by
  unfold endBuild
  split
  · exact settled_stage settled fun observing => by cases observing
  · exact settled_stage settled fun observing => by cases observing
  · exact settled_stage settled fun _ => by simp_all [WatchStage.observing]
  · exact settled_stage settled fun _ => by simp_all [WatchStage.observing]
  · exact settled_stage settled fun observing => by cases observing
  · exact settled

theorem settled_baseline (built : Built s) : Settled o (baseline o s) := fun _ _ => built

theorem psEquals_self (a : String) : psEquals a a=true := decide_eq_true rfl

/-- The first poll after the baseline sees nothing, whatever was built: a change before the baseline
that no build followed is lost. -/
theorem baseline_loses (ready : s.stage=.ready) (unbuilt : ¬Built s) (now : Int) :
    ¬Caught o (step o .baseline s) (.poll false now) := by
  have stepped : step o .baseline s=baseline o s := if_pos ready
  rw [stepped]
  intro caught
  refine unbuilt (caught now rfl rfl ⟨?_,rfl⟩)
  have again := fingerprint_again (o := o) s.tree s.gitIdentityPaths
  exact (congrArg (psEquals · _) again).trans (psEquals_self _)

/-- So is a change after which the fingerprint is again the stored one. -/
theorem revert_loses {tree : WorkingTree} (watching : s.stage=.watching)
    (pending : s.pendingSince=none) (changes : fingerprintOf o s tree≠fingerprintOf o s s.tree)
    (back : psEquals (fingerprintOf o s tree) s.fingerprint=true) (now : Int) :
    ¬Caught o (step o (.edit tree) s) (.poll false now) := by
  have stepped : step o (.edit tree) s={ s with tree, history := s.history++[.changed] } :=
    if_neg changes
  rw [stepped]
  intro caught
  have built : (s.history++[WatchEvent.changed]).getLast?=some .buildStarted :=
    caught now rfl watching ⟨back,pending⟩
  rw [List.getLast?_concat] at built
  cases built

theorem settled_poll {exited : Bool} {now : Int} (settled : Settled o s) (watching : s.stage=.watching) :
    Settled o (poll o exited now s) := by
  have observing : s.stage.observing=true := by rw [watching]; rfl
  unfold poll
  split_ifs with gone
  · exact settled_stage settled fun stopped => by cases stopped
  dsimp only
  have again := fingerprint_again (o := o) s.tree s.gitIdentityPaths
  split_ifs with differs
  · rintro - ⟨-,pending⟩
    cases pending
  · have kept : Settled o
        (remember s (getWatchFingerprint o s.tree s.gitIdentityPaths).2) := by
      intro _ sees
      refine settled observing ⟨?_,sees.2⟩
      rw [← sees.1]
      exact congrArg (psEquals · s.fingerprint) again.symm
    split
    · exact kept
    · split_ifs with early
      · exact kept
      · intro due
        cases due

theorem settled_step (move : WatchMove) (settled : Settled o s) (calm : Calm o s move) :
    Settled o (step o move s) := by
  cases move with
  | edit tree => exact settled_edit settled calm
  | beginBuild => exact settled_beginBuild settled
  | endBuild exitCode staged => exact settled_endBuild settled
  | started thrown =>
    show Settled o (if _ then _ else _)
    split_ifs with starting thrown
    · exact settled_stage settled fun observing => by cases observing
    · exact settled_stage settled fun observing => by cases observing
    · exact settled
  | baseline =>
    show Settled o (if _ then _ else _)
    split_ifs with ready
    · exact settled_baseline (calm ready)
    · exact settled
  | poll exited now =>
    show Settled o (if _ then _ else _)
    split_ifs with watching
    · exact settled_poll settled watching
    · exact settled
  | handoff approved =>
    show Settled o (if _ then _ else _)
    split_ifs with stage
    · exact settled_stage settled fun _ => by rw [stage]; rfl
    · exact settled_stage settled fun _ => by rw [stage]; rfl
    · exact settled
  | replaced thrown =>
    show Settled o (if _ then _ else _)
    split_ifs with stage
    · exact settled_stage settled fun _ => by rw [stage]; rfl
    · exact settled_stage settled fun _ => by rw [stage]; rfl
    · exact settled

theorem caught_of_settled (move : WatchMove) (settled : Settled o s) : Caught o s move := by
  intro now _ watching sees
  exact settled (by rw [watching]; rfl) sees

/-- In a calm run every poll that sees nothing comes after a build of every change. -/
theorem watcher_catches_changes (o : WatchOptions) (tree : WorkingTree) (moves : List WatchMove)
    (calm : Run.Along (step o) (Calm o) moves (start tree)) :
    Run.Along (step o) (Caught o) moves (start tree) := by
  have keeps : Run.Keeps (step o) (Calm o) (Settled o) := fun s move => settled_step move
  apply keeps.along (fun s move settled _ => caught_of_settled move settled) _ calm
  intro observing
  cases observing

def sampleOptions : WatchOptions := ⟨"C:\\aku",fun a b => a ≤ b,600⟩

/-- A repository with one source file, of this length. -/
def sampleTree (length : Nat) : WorkingTree :=
  ⟨[⟨"C:\\aku\\src\\main.rs",false,length,length⟩],fun _ => none,none⟩

def rebuiltOnce : List WatchMove :=
  [.beginBuild,.endBuild 0 true,.started false,.baseline,.edit (sampleTree 20),.poll false 0,
    .poll false 6000000,.beginBuild,.endBuild 0 true,.handoff true,.replaced false,
    .poll false 9000000]

theorem rebuilt_once_caught :
    Run.Along (step sampleOptions) (Calm sampleOptions) rebuiltOnce (start (sampleTree 10)) ∧
    Run.Along (step sampleOptions) (Caught sampleOptions) rebuiltOnce (start (sampleTree 10)) := by
  have calm : Run.Along (step sampleOptions) (Calm sampleOptions) rebuiltOnce
      (start (sampleTree 10)) := by decide +kernel
  exact ⟨calm,watcher_catches_changes sampleOptions (sampleTree 10) rebuiltOnce calm⟩

/-- A source file that changes while the initial build runs. -/
def changedDuringBuild : List WatchMove :=
  [.beginBuild,.edit (sampleTree 20),.endBuild 0 true,.started false]

theorem change_during_build_lost :
    ¬Run.Along (step sampleOptions) (Caught sampleOptions)
      (changedDuringBuild++[.baseline,.poll false 0]) (start (sampleTree 10)) := by
  intro caught
  have last := ((Run.along_append _ _ _ _).mp caught).2.2.1
  refine baseline_loses ?_ ?_ 0 last
  · decide +kernel
  · decide +kernel

end WatchLoop

end AkuSupervisor

import AkuSupervisor.Lib.Interleaving

namespace AkuSupervisor

/-- How the foreground supervisor was launched. -/
inductive RuntimeMode where
  | stable
  | developmentWatcher
  deriving DecidableEq

/-- The public identity of one foreground supervisor process. -/
structure RuntimeInstance where
  schemaVersion : Nat
  instanceId : String
  processId : Nat
  executable : String
  mode : RuntimeMode
  watcherProcessId : Option Nat
  startedAtUnixMs : Nat
  version : String
  configFingerprint : String
  controlApi : String
  deriving DecidableEq

/-- What a supervisor reads of a watcher's identity. -/
structure WatcherIdentity where
  watcherId : String
  watcherProcessId : Nat
  deriving DecidableEq

/-- The identity that the watcher script writes. -/
structure WatcherDocument where
  schemaVersion : Nat
  watcherId : String
  watcherProcessId : Nat
  startedAtUnixMs : Nat
  repository : String
  configuration : String
  deriving DecidableEq

def instanceFileName : String := "supervisor-instance.json"
def instanceLeaseFileName : String := "supervisor-instance.lock"
def watcherLeaseFileName : String := "development-watcher.lock"
def watcherIdentityFileName : String := "development-watcher.json"

inductive RuntimeInstanceError where
  | missingWatcherAuthority
  | createDirectory (path source : String)
  | openFile (path source : String)
  | lock (path source : String)
  | readWatcher (path source : String)
  | write (path source : String)
  | serialize (source : String)
  | alreadyRunning (path : String) (owner : Option RuntimeInstance)
  | watcherActive (path : String) (watcherProcessId : Nat)
  deriving DecidableEq

inductive TryLockError where
  | wouldBlock
  | error (text : String)
  deriving DecidableEq

/-- The calls that supervisors and watchers make to the files of a runtime directory, each of them
one step. A file that is written through its handle is named by its number. A supervisor makes the
call `hold` from the return of `acquire` until its drop begins, a watcher the call `watch` while
its lease lasts. `readOwner` and `abandonInstanceLock` belong to an `acquire` that fails. -/
inductive LeaseCall where
  | createDirectory
  | openWatcherLock
  | tryWatcherLock
  | closeWatcherLock
  | readWatcherIdentity
  | openInstanceLock
  | tryInstanceLock
  | readOwner
  | abandonInstanceLock
  | openIdentity
  | setLength (file : Nat)
  | seekStart (file : Nat)
  | writeIdentity (file position : Nat) (bytes : List UInt8)
  | flushIdentity (file : Nat)
  | hold (identity : RuntimeInstance)
  | readIdentity
  | removeIdentity
  | closeInstanceLock
  | enterWatcherLock
  | writeTemporary
  | moveWatcherIdentity (text : List UInt8)
  | watch
  | leaveWatcherLock
  | removeWatcherIdentity
  | exit
  deriving DecidableEq

def LeaseCall.Answer : LeaseCall → Type
  | .createDirectory | .openWatcherLock | .openInstanceLock | .setLength _ | .seekStart _
  | .flushIdentity _ | .removeIdentity | .enterWatcherLock | .writeTemporary
  | .moveWatcherIdentity _ | .removeWatcherIdentity => Except String Unit
  | .tryWatcherLock | .tryInstanceLock => Except TryLockError Unit
  | .readWatcherIdentity | .readOwner | .readIdentity => Except String (List UInt8)
  | .openIdentity | .writeIdentity _ _ _ => Except String Nat
  | .closeWatcherLock | .abandonInstanceLock | .hold _ | .closeInstanceLock | .watch
  | .leaveWatcherLock | .exit => Unit

/-- The calls that are made while there is a lease that `acquire` has returned. -/
def LeaseCall.withLease : LeaseCall → Bool
  | .hold _ | .readIdentity | .removeIdentity | .closeInstanceLock => true
  | _ => false

/-- What the environment contributes to one call: whether it fails, and how many bytes a write
takes at most. -/
structure LeaseChoice where
  failure : Option String
  count : Nat

/-- Who holds the lock of the watcher's lease. -/
inductive WatcherLockOwner where
  | supervisor (process : Nat)
  | watcher (process : Nat)
  deriving DecidableEq

structure IdentityFile where
  number : Nat
  bytes : List UInt8
  deriving DecidableEq

/-- What a write leaves of a file; a gap before it is filled with zeros. -/
def IdentityFile.write (file : IdentityFile) (position : Nat) (bytes : List UInt8) :
    IdentityFile :=
  { file with bytes := file.bytes.take position++
      List.replicate (position-file.bytes.length) 0++bytes++
        file.bytes.drop (position+bytes.length) }

/-- The files of the leases: the two locks with the processes that hold them, and the identities.
`created` is how many files there have been under the name of the instance identity. -/
structure RuntimeFiles where
  instanceLock : Option Nat
  watcherLock : Option WatcherLockOwner
  identity : Option IdentityFile
  created : Nat
  watcherIdentity : Option (List UInt8)
  deriving DecidableEq

namespace RuntimeFiles

/-- A runtime directory with nothing but what earlier processes have left in it. -/
def initial (identity watcherIdentity : Option (List UInt8)) : RuntimeFiles :=
  ⟨none,none,identity.map (IdentityFile.mk 0),1,watcherIdentity⟩

/-- What a call answers that may fail, and the files after it. -/
def attempt {α : Type} (files : RuntimeFiles) (choice : LeaseChoice) (a : α)
    (after : RuntimeFiles) : Except String α × RuntimeFiles :=
  match choice.failure with
  | none => (.ok a,after)
  | some text => (.error text,files)

/-- Tries to take a lock for its exclusive use. -/
def tryLock (files : RuntimeFiles) (choice : LeaseChoice) (held : Bool) (after : RuntimeFiles) :
    Except TryLockError Unit × RuntimeFiles :=
  match choice.failure,held with
  | some text,_ => (.error (.error text),files)
  | none,true => (.error .wouldBlock,files)
  | none,false => (.ok (),after)

/-- The watcher's lock as `FileStream.Lock` takes it, which throws where it cannot. -/
def enterWatcherLock (files : RuntimeFiles) (process : Nat) (choice : LeaseChoice) :
    Except String Unit × RuntimeFiles :=
  match choice.failure,files.watcherLock with
  | some text,_ => (.error text,files)
  | none,some _ => (.error "another process has locked a portion of the file",files)
  | none,none => (.ok (),{ files with watcherLock := some (.watcher process) })

def dropInstanceLock (files : RuntimeFiles) (process : Nat) : RuntimeFiles :=
  if files.instanceLock=some process then { files with instanceLock := none } else files

def dropWatcherLock (files : RuntimeFiles) (owner : WatcherLockOwner) : RuntimeFiles :=
  if files.watcherLock=some owner then { files with watcherLock := none } else files

/-- What the end of a process leaves: the operating system releases its locks. -/
def release (process : Nat) (files : RuntimeFiles) : RuntimeFiles :=
  ((files.dropInstanceLock process).dropWatcherLock (.supervisor process)).dropWatcherLock
    (.watcher process)

/-- Opens the identity file without truncating it, and creates it where there is none. -/
def openIdentity (files : RuntimeFiles) (choice : LeaseChoice) :
    Except String Nat × RuntimeFiles :=
  match files.identity with
  | some file => files.attempt choice file.number files
  | none => files.attempt choice files.created
      { files with identity := some ⟨files.created,[]⟩, created := files.created+1 }

/-- Changes a file through its handle; a file that has been removed is no longer seen. -/
def change (files : RuntimeFiles) (number : Nat) (f : IdentityFile → IdentityFile) :
    RuntimeFiles :=
  { files with identity := files.identity.map fun file =>
      if file.number=number then f file else file }

def writeIdentity (files : RuntimeFiles) (choice : LeaseChoice) (number position : Nat)
    (bytes : List UInt8) : Except String Nat × RuntimeFiles :=
  files.attempt choice (min choice.count bytes.length)
    (files.change number fun file => file.write position (bytes.take choice.count))

/-- What a file gives to a reader that opens it. -/
def read (content : Option (List UInt8)) (choice : LeaseChoice) : Except String (List UInt8) :=
  match choice.failure,content with
  | some text,_ => .error text
  | none,some bytes => .ok bytes
  | none,none => .error "file not found"

/-- Removes a file that is there. -/
def remove (files : RuntimeFiles) (choice : LeaseChoice) (there : Bool) (after : RuntimeFiles) :
    Except String Unit × RuntimeFiles :=
  if there then files.attempt choice () after else (.error "file not found",files)

/-- A call of the process with this number. -/
def respond (process : Nat) (choice : LeaseChoice) :
    (call : LeaseCall) → RuntimeFiles → call.Answer × RuntimeFiles
  | .createDirectory,files | .openWatcherLock,files | .openInstanceLock,files
  | .seekStart _,files | .flushIdentity _,files | .writeTemporary,files =>
    files.attempt choice () files
  | .tryWatcherLock,files => files.tryLock choice files.watcherLock.isSome
      { files with watcherLock := some (.supervisor process) }
  | .closeWatcherLock,files => ((),files.dropWatcherLock (.supervisor process))
  | .readWatcherIdentity,files => (read files.watcherIdentity choice,files)
  | .tryInstanceLock,files => files.tryLock choice files.instanceLock.isSome
      { files with instanceLock := some process }
  | .readOwner,files | .readIdentity,files =>
    (read (files.identity.map IdentityFile.bytes) choice,files)
  | .abandonInstanceLock,files | .closeInstanceLock,files =>
    ((),files.dropInstanceLock process)
  | .openIdentity,files => files.openIdentity choice
  | .setLength number,files =>
    files.attempt choice () (files.change number fun file => { file with bytes := [] })
  | .writeIdentity number position bytes,files =>
    files.writeIdentity choice number position bytes
  | .hold _,files | .watch,files => ((),files)
  | .removeIdentity,files =>
    files.remove choice files.identity.isSome { files with identity := none }
  | .enterWatcherLock,files => files.enterWatcherLock process choice
  | .moveWatcherIdentity text,files =>
    files.attempt choice () { files with watcherIdentity := some text }
  | .leaveWatcherLock,files => ((),files.dropWatcherLock (.watcher process))
  | .removeWatcherIdentity,files =>
    files.remove choice files.watcherIdentity.isSome { files with watcherIdentity := none }
  | .exit,files => ((),files.release process)

end RuntimeFiles

end AkuSupervisor

import AkuSupervisor.Adapters.RuntimeInstance

namespace AkuSupervisor

open Program

/-- The runtime directory of a configuration, the paths of the files in it, and how identities are
written to them and read back. `readDocument` is what the watcher script makes of a file. -/
structure RuntimeDirectory where
  directory : String
  path : String → String
  encode : RuntimeInstance → Except String (List UInt8)
  decode : List UInt8 → Except String RuntimeInstance
  decodeWatcher : List UInt8 → Except String WatcherIdentity
  documentText : WatcherDocument → List UInt8
  readDocument : List UInt8 → Option WatcherDocument

def LeaseCall.ask {ε : Type} (call : LeaseCall) :
    Attempt ε LeaseCall LeaseCall.Answer call.Answer := Attempt.ask call

open Attempt (settle)
open LeaseCall (ask)

/-- A part of a supervisor's lease, up to its calls. -/
abbrev LeaseM := Attempt RuntimeInstanceError LeaseCall LeaseCall.Answer

/-- Writes all bytes from a position on; `fuel` is at least their number. -/
def writeAll (path : String) (file : Nat) : Nat → Nat → List UInt8 → LeaseM Unit
  | 0,_,_ | _+1,_,[] => pure ()
  | fuel+1,position,byte::bytes => do
    let count ← settle (.write path) (← ask (.writeIdentity file position (byte::bytes)))
    if count=0 then throw (.write path "failed to write whole buffer")
    else writeAll path file fuel (position+count) ((byte::bytes).drop count)

namespace RuntimeDirectory

variable (runtime : RuntimeDirectory)

/-- Looks for a watcher by trying the lock that a watcher holds for its lifetime; the lock is
dropped again before anything else is done. -/
def verifyWatcherAuthority (identity : RuntimeInstance) (suppliedWatcherId : Option String) :
    LeaseM Unit := do
  let path := runtime.path watcherLeaseFileName
  settle (.openFile path) (← ask .openWatcherLock)
  match ← ask .tryWatcherLock with
  | .ok () =>
    ask .closeWatcherLock
    if identity.mode=.stable then pure () else throw .missingWatcherAuthority
  | .error .wouldBlock =>
    let watcher ← settle (.readWatcher (runtime.path watcherIdentityFileName))
      ((← ask .readWatcherIdentity).bind runtime.decodeWatcher)
    if identity.mode=.developmentWatcher ∧ suppliedWatcherId=some watcher.watcherId ∧
        identity.watcherProcessId=some watcher.watcherProcessId then pure ()
    else throw (.watcherActive path watcher.watcherProcessId)
  | .error (.error source) => throw (.lock path source)

def writeJson (file : Nat) (path : String) (value : RuntimeInstance) : LeaseM Unit := do
  let encoded ← settle .serialize (runtime.encode value)
  settle (.write path) (← ask (.setLength file))
  settle (.write path) (← ask (.seekStart file))
  writeAll path file encoded.length 0 encoded
  writeAll path file 1 encoded.length [10]
  settle (.write path) (← ask (.flushIdentity file))

/-- Opens and writes the identity under the lock, which is released where that fails. -/
def publish (identity : RuntimeInstance) : LeaseM Unit := do
  let path := runtime.path instanceFileName
  let written : LeaseM Unit := do
    let file ← settle (.openFile path) (← ask .openIdentity)
    runtime.writeJson file path identity
  match ← (monadLift written.run : LeaseM (Except RuntimeInstanceError Unit)) with
  | .ok () => pure ()
  | .error e =>
    ask .abandonInstanceLock
    throw e

/-- Acquires watcher authority and the lock of the single supervisor. -/
def acquire (identity : RuntimeInstance) (suppliedWatcherId : Option String) : LeaseM Unit := do
  settle (.createDirectory runtime.directory) (← ask .createDirectory)
  runtime.verifyWatcherAuthority identity suppliedWatcherId
  let lockPath := runtime.path instanceLeaseFileName
  settle (.openFile lockPath) (← ask .openInstanceLock)
  match ← ask .tryInstanceLock with
  | .ok () => runtime.publish identity
  | .error .wouldBlock =>
    let owner := (← ask .readOwner).bind runtime.decode
    throw (.alreadyRunning lockPath owner.toOption)
  | .error (.error source) => throw (.lock lockPath source)

/-- An ordinary drop removes the identity if it is the dropped lease's own; the lock goes last. -/
def dropLease (identity : RuntimeInstance) : LeaseM Unit := do
  let found := ((← ask .readIdentity).bind runtime.decode).toOption
  if found.any (fun current => current.instanceId=identity.instanceId) then
    let _ ← ask .removeIdentity
    ask .closeInstanceLock
  else ask .closeInstanceLock

/-- One foreground supervisor, from the acquisition of its lease to the end of its drop. -/
def supervisor (identity : RuntimeInstance) (suppliedWatcherId : Option String) : LeaseM Unit := do
  runtime.acquire identity suppliedWatcherId
  ask (.hold identity)
  runtime.dropLease identity

end RuntimeDirectory

/-- A part of the watcher script, up to its calls; a failure is what it throws. -/
abbrev WatcherM := Attempt String LeaseCall LeaseCall.Answer

namespace RuntimeDirectory

variable (runtime : RuntimeDirectory)

def alreadyOwns (owner : Option WatcherDocument) : String :=
  match owner with
  | some owner => "Another development watcher already owns this configuration: PID "++
      s!"{owner.watcherProcessId}, repository {owner.repository}."
  | none => s!"Another development watcher already owns {runtime.path watcherLeaseFileName}."

/-- `Enter-DevelopmentWatcherLease`: whatever keeps it from taking the lock is another watcher to
it. -/
def enterDevelopmentWatcherLease (document : WatcherDocument) : WatcherM Unit := do
  settle id (← ask .createDirectory)
  settle id (← ask .openWatcherLock)
  match ← ask .enterWatcherLock with
  | .ok () =>
    settle id (← ask .writeTemporary)
    settle id (← ask (.moveWatcherIdentity (runtime.documentText document)))
  | .error _ =>
    let found := (← ask .readWatcherIdentity).toOption
    throw (runtime.alreadyOwns (found.bind runtime.readDocument))

/-- `Exit-DevelopmentWatcherLease`: the identity is looked at after the lock is released. -/
def exitDevelopmentWatcherLease (document : WatcherDocument) : WatcherM Unit := do
  ask .leaveWatcherLock
  let found := (← ask .readWatcherIdentity).toOption
  if (found.bind runtime.readDocument).any (fun identity =>
      identity.watcherId.toLower=document.watcherId.toLower) then
    let _ ← ask .removeWatcherIdentity
  else pure ()

/-- One run of the watcher script. A process that fails to enter ends, with whatever it holds. -/
def watcher (document : WatcherDocument) : WatcherM Unit := do
  match ← (monadLift (runtime.enterDevelopmentWatcherLease document).run :
      WatcherM (Except String Unit)) with
  | .ok () =>
    ask .watch
    runtime.exitDevelopmentWatcherLease document
  | .error message =>
    ask .exit
    throw message

end RuntimeDirectory

end AkuSupervisor

import Std.Data.ExtTreeMap.Lemmas
import AkuSupervisor.Lib.TextLines
import AkuSupervisor.Lib.U64

namespace AkuSupervisor

inductive LogStream where
  | stdout
  | stderr
  deriving DecidableEq

def LogStream.parse (value : String) : Option LogStream :=
  if value="stdout" then some .stdout else if value="stderr" then some .stderr else none

inductive LiveLogSelection where
  | both
  | stdout
  | stderr
  deriving DecidableEq

def LiveLogSelection.parse (value : String) : Option LiveLogSelection :=
  if value="both" then some .both
  else if value="stdout" then some .stdout
  else if value="stderr" then some .stderr
  else none

structure LiveLogCursor where
  hubInstanceId : String
  sequence : Nat
  deriving DecidableEq

inductive ServiceLogError where
  | serviceNotFound (serviceId : String)
  | tooManySubscribers (serviceId : String)
  | lockPoisoned
  | read (path source : String)
  | oversized (path : String) (bytes : Nat)
  deriving DecidableEq

def ServiceLogError.display : ServiceLogError → String
  | .serviceNotFound serviceId => s!"unknown service: {serviceId}"
  | .tooManySubscribers serviceId => s!"too many live-log subscribers for {serviceId}"
  | .lockPoisoned => "service log registry lock is poisoned"
  | .read path source => s!"failed to read service log {path}: {source}"
  | .oversized path bytes => s!"service log {path} exceeds bounded read size: {bytes} bytes"

namespace ServiceLogs

def maxTailLines : Nat := 1000

def liveRingLines : Nat := 1000

def liveRingBytes : Nat := 1024*1024

def liveSubscriberQueue : Nat := 256

def maxLiveSubscribersPerService : Nat := 8

def maxPartialLineBytes : Nat := 64*1024

end ServiceLogs

open ServiceLogs

def LiveLogSelection.includes : LiveLogSelection → LogStream → Bool
  | .both,_ | .stdout,.stdout | .stderr,.stderr => true
  | _,_ => false

inductive LiveLogEventKind where
  | line
  | gap
  | heartbeat
  | hubReset
  deriving DecidableEq

/-- One event of the live-log protocol. -/
structure LiveLogEvent where
  schemaVersion : Nat
  kind : LiveLogEventKind
  hubInstanceId : String
  serviceId : String
  sequence : Option Nat
  stream : Option LogStream
  observedAtUnixMs : Nat
  text : Option String
  dropped : Option Nat
  previousHubInstanceId : Option String
  replayed : Bool
  sourceModifiedAtUnixMs : Option Nat
  deriving DecidableEq

namespace LiveLogEvent

def heartbeat (hubInstanceId serviceId : String) (now : Nat) : LiveLogEvent where
  schemaVersion := 1
  kind := .heartbeat
  hubInstanceId
  serviceId
  sequence := none
  stream := none
  observedAtUnixMs := now
  text := none
  dropped := none
  previousHubInstanceId := none
  replayed := false
  sourceModifiedAtUnixMs := none

def hubReset (hubInstanceId previousHubInstanceId serviceId : String) (highWatermark now : Nat) :
    LiveLogEvent where
  schemaVersion := 1
  kind := .hubReset
  hubInstanceId
  serviceId
  sequence := some highWatermark
  stream := none
  observedAtUnixMs := now
  text := some "AkuSupervisor live-log hub changed; replay cursor was reset"
  dropped := none
  previousHubInstanceId := some previousHubInstanceId
  replayed := false
  sourceModifiedAtUnixMs := none

/-- A line as the hub publishes it. -/
def line (hubInstanceId serviceId : String) (stream : LogStream) (sequence : Nat) (text : String)
    (now : Nat) : LiveLogEvent where
  schemaVersion := 1
  kind := .line
  hubInstanceId
  serviceId
  sequence := some sequence
  stream := some stream
  observedAtUnixMs := now
  text := some text
  dropped := none
  previousHubInstanceId := none
  replayed := false
  sourceModifiedAtUnixMs := none

/-- A line that was read from the file of an earlier run. -/
def replayedLine (hubInstanceId serviceId : String) (stream : LogStream) (sequence : Nat)
    (text : String) (sourceModifiedAtUnixMs : Option Nat) (now : Nat) : LiveLogEvent where
  schemaVersion := 1
  kind := .line
  hubInstanceId
  serviceId
  sequence := some sequence
  stream := some stream
  observedAtUnixMs := sourceModifiedAtUnixMs.getD now
  text := some text
  dropped := none
  previousHubInstanceId := none
  replayed := true
  sourceModifiedAtUnixMs

/-- The gap that comes before a line, for a viewer that has lost `dropped` lines. -/
def gapBefore (event : LiveLogEvent) (dropped now : Nat) : LiveLogEvent where
  schemaVersion := 1
  kind := .gap
  hubInstanceId := event.hubInstanceId
  serviceId := event.serviceId
  sequence := event.sequence
  stream := none
  observedAtUnixMs := now
  text := none
  dropped := some dropped
  previousHubInstanceId := none
  replayed := false
  sourceModifiedAtUnixMs := none

def textBytes (event : LiveLogEvent) : Nat := (event.text.map String.utf8ByteSize).getD 0

end LiveLogEvent

/-- The hub's end of the bounded queue of one viewer, with what waits in it. `channel` tells the
queues apart. -/
structure LiveSubscriber where
  selection : LiveLogSelection
  channel : Nat
  queue : List LiveLogEvent
  connected : Bool
  dropped : Nat
  deriving DecidableEq

inductive SendOutcome where
  | sent (after : LiveSubscriber)
  | full
  | disconnected

namespace LiveSubscriber

def trySend (s : LiveSubscriber) (event : LiveLogEvent) : SendOutcome :=
  if s.connected=false then .disconnected
  else if s.queue.length<liveSubscriberQueue then .sent { s with queue := s.queue++[event] }
  else .full

/-- Sends a line, or counts it as dropped. Nothing comes out for a viewer that is gone. -/
def offerLine (s : LiveSubscriber) (event : LiveLogEvent) : Option LiveSubscriber :=
  match s.trySend event with
  | .sent after => some after
  | .full => some { s with dropped := U64.saturatingAdd s.dropped 1 }
  | .disconnected => none

/-- Sends a line to a viewer that wants its stream; one that has lost lines is told of it first. -/
def offer (s : LiveSubscriber) (event : LiveLogEvent) (now : Nat) : Option LiveSubscriber :=
  match event.stream with
  | none => some s
  | some stream =>
    if s.selection.includes stream=false then some s
    else if 0<s.dropped then
      match s.trySend (event.gapBefore s.dropped now) with
      | .sent after => offerLine { after with dropped := 0 } event
      | .full => some { s with dropped := U64.saturatingAdd s.dropped 1 }
      | .disconnected => none
    else s.offerLine event

end LiveSubscriber

structure LiveServiceState where
  ring : List LiveLogEvent
  ringBytes : Nat
  stdoutPartial : List UInt8
  stderrPartial : List UInt8
  subscribers : Std.ExtTreeMap Nat LiveSubscriber

namespace LiveServiceState

def default : LiveServiceState := ⟨[],0,[],[],∅⟩

def partialOf (s : LiveServiceState) : LogStream → List UInt8
  | .stdout => s.stdoutPartial
  | .stderr => s.stderrPartial

def setPartial (s : LiveServiceState) (stream : LogStream) (bytes : List UInt8) :
    LiveServiceState :=
  match stream with
  | .stdout => { s with stdoutPartial := bytes }
  | .stderr => { s with stderrPartial := bytes }

/-- Forgets the oldest events until both bounds hold. -/
def trimRing : List LiveLogEvent → Nat → List LiveLogEvent × Nat
  | [],bytes => ([],bytes)
  | oldest::ring,bytes =>
    if liveRingLines<(oldest::ring).length ∨ liveRingBytes<bytes then
      trimRing ring (bytes-oldest.textBytes)
    else (oldest::ring,bytes)

def pushRing (s : LiveServiceState) (event : LiveLogEvent) : LiveServiceState :=
  let trimmed := trimRing (s.ring++[event]) (U64.saturatingAdd s.ringBytes event.textBytes)
  { s with ring := trimmed.1,ringBytes := trimmed.2 }

/-- `now` tells the time at which each viewer is told of its gap. -/
def publishEvent (s : LiveServiceState) (event : LiveLogEvent) (now : Nat → Nat) :
    LiveServiceState :=
  let s := s.pushRing event
  { s with
    subscribers := s.subscribers.filterMap fun id subscriber => subscriber.offer event (now id) }

end LiveServiceState

namespace ServiceLogs

open TextLines

/-- The lines that a newline ends, without it, and the bytes after the last newline. -/
def endedLines (current : List UInt8) : List UInt8 → List (List UInt8) × List UInt8
  | [] => ([],current)
  | b::bytes =>
    if b=newline then
      let rest := endedLines [] bytes
      (dropReturn current::rest.1,rest.2)
    else endedLines (current++[b]) bytes

/-- Cuts an overlong line without a newline. Every round takes `maxPartialLineBytes` bytes, so as
many rounds as there are bytes are enough. -/
def truncatedLines : Nat → List UInt8 → List String × List UInt8
  | 0,bytes => ([],bytes)
  | rounds+1,bytes =>
    if maxPartialLineBytes≤bytes.length then
      let rest := truncatedLines rounds (bytes.drop maxPartialLineBytes)
      (s!"{decodeLossy (bytes.take maxPartialLineBytes)} [line truncated]"::rest.1,rest.2)
    else ([],bytes)

/-- The lines in the bytes that were captured so far, and the start of the next one. -/
def takeCompleteLines (bytes : List UInt8) (close : Bool) : List String × List UInt8 :=
  let ended := endedLines [] bytes
  let truncated := truncatedLines ended.2.length ended.2
  let lines := ended.1.map decodeLossy++truncated.1
  if close=true ∧ truncated.2≠[] then (lines++[decodeLossy truncated.2],[])
  else (lines,truncated.2)

theorem truncatedLines_rest (rounds : Nat) (bytes : List UInt8) (enough : bytes.length ≤ rounds) :
    (truncatedLines rounds bytes).2.length < maxPartialLineBytes := by
  induction rounds generalizing bytes with
  | zero =>
    rw [truncatedLines]
    exact Nat.lt_of_le_of_lt enough (by decide)
  | succ rounds ih =>
    rw [truncatedLines]
    split_ifs with long
    · apply ih
      have size : 0 < maxPartialLineBytes := by decide
      rw [List.length_drop]
      omega
    · exact Nat.lt_of_not_le long

end ServiceLogs

/-- The live-log hub of one supervisor, with what its lock guards. -/
structure LiveLogHub where
  instanceId : String
  nextSequence : Nat
  nextSubscriberId : Nat
  services : Std.ExtTreeMap String LiveServiceState

/-- A line read from the log file of a stream. -/
structure PreloadedLine where
  stream : LogStream
  sourceModifiedAtUnixMs : Option Nat
  text : String
  deriving DecidableEq

namespace LiveLogHub

/-- The ID of a new hub: its process and the time it starts at. -/
def newInstanceId (processId unixTimeNs : Nat) : String := s!"{processId}-{unixTimeNs}"

def new (instanceId : String) : LiveLogHub := ⟨instanceId,0,0,∅⟩

/-- The ring of a service that is new, from the lines of its log files. -/
def preload (hub : LiveLogHub) (serviceId : String) (lines : List PreloadedLine) (now : Nat) :
    LiveServiceState × Nat :=
  lines.foldl (fun (service,sequence) line =>
    let sequence := U64.saturatingAdd sequence 1
    (service.pushRing (.replayedLine hub.instanceId serviceId line.stream sequence line.text
      line.sourceModifiedAtUnixMs now),sequence)) (.default,hub.nextSequence)

def reconcileService (hub : LiveLogHub) (serviceId : String) (lines : List PreloadedLine)
    (now : Nat) : LiveLogHub :=
  if serviceId∈hub.services then hub
  else
    let loaded := hub.preload serviceId lines now
    { hub with nextSequence := loaded.2,services := hub.services.insert serviceId loaded.1 }

/-- Keeps the services that are still registered, and adds those that are new. -/
def reconcile (hub : LiveLogHub) (services : List (String × List PreloadedLine)) (now : Nat) :
    LiveLogHub :=
  services.foldl (fun hub (serviceId,lines) => hub.reconcileService serviceId lines now)
    { hub with services := hub.services.filter fun serviceId _ => services.any (·.1=serviceId) }

/-- `publish` or `close_stream` up to the lines that it publishes. -/
def takeLines (hub : LiveLogHub) (serviceId : String) (stream : LogStream) (bytes : List UInt8)
    (close : Bool) : List String × LiveLogHub :=
  match hub.services[serviceId]? with
  | none => ([],hub)
  | some service =>
    let taken := takeCompleteLines (service.partialOf stream++bytes) close
    (taken.1,{ hub with
      services := hub.services.insert serviceId (service.setPartial stream taken.2) })

/-- Numbers one line and publishes it. `gapTimes` tells when each viewer is told of its gap. -/
def publishLine (hub : LiveLogHub) (serviceId : String) (stream : LogStream) (text : String)
    (now : Nat) (gapTimes : Nat → Nat) : LiveLogEvent × LiveLogHub :=
  let sequence := U64.saturatingAdd hub.nextSequence 1
  let event := LiveLogEvent.line hub.instanceId serviceId stream sequence text now
  (event,{ hub with
    nextSequence := sequence
    services := match hub.services[serviceId]? with
      | some service => hub.services.insert serviceId (service.publishEvent event gapTimes)
      | none => hub.services })

/-- What a new viewer gets of the ring. -/
def replay (hub : LiveLogHub) (service : LiveServiceState) (serviceId : String)
    (selection : LiveLogSelection) (tail : Nat) (cursor : Option LiveLogCursor) (now : Nat) :
    List LiveLogEvent :=
  let matching := service.ring.filter fun event =>
    event.stream.any selection.includes
  match cursor with
  | none => matching.drop (matching.length-tail)
  | some cursor =>
    if cursor.hubInstanceId=hub.instanceId then
      matching.filter fun event => event.sequence.any (cursor.sequence<·)
    else
      .hubReset hub.instanceId cursor.hubInstanceId serviceId hub.nextSequence now::
        matching.drop (matching.length-tail)

/-- Opens the queue `channel` for a new viewer, and returns its ID and what it gets of the ring. -/
def subscribe (hub : LiveLogHub) (serviceId : String) (selection : LiveLogSelection) (tail : Nat)
    (cursor : Option LiveLogCursor) (channel now : Nat) :
    Except ServiceLogError (Nat × List LiveLogEvent) × LiveLogHub :=
  let subscriberId := U64.saturatingAdd hub.nextSubscriberId 1
  let hub := { hub with nextSubscriberId := subscriberId }
  match hub.services[serviceId]? with
  | none => (.error (.serviceNotFound serviceId),hub)
  | some service =>
    if maxLiveSubscribersPerService ≤ service.subscribers.size then
      (.error (.tooManySubscribers serviceId),hub)
    else
      let subscriber : LiveSubscriber := ⟨selection,channel,[],true,0⟩
      let joined := { service with
        subscribers := service.subscribers.insert subscriberId subscriber }
      (.ok (subscriberId,hub.replay service serviceId selection tail cursor now),
        { hub with services := hub.services.insert serviceId joined })

def unsubscribe (hub : LiveLogHub) (serviceId : String) (subscriberId : Nat) : LiveLogHub :=
  match hub.services[serviceId]? with
  | none => hub
  | some service =>
    let left := { service with subscribers := service.subscribers.erase subscriberId }
    { hub with services := hub.services.insert serviceId left }

/-- `ServiceLogStore` bounds the tail that a viewer may ask for. -/
def storeSubscribe (hub : LiveLogHub) (serviceId : String) (selection : LiveLogSelection)
    (tail : Nat) (cursor : Option LiveLogCursor) (channel now : Nat) :
    Except ServiceLogError (Nat × List LiveLogEvent) × LiveLogHub :=
  hub.subscribe serviceId selection (min tail maxTailLines) cursor channel now

end LiveLogHub

end AkuSupervisor

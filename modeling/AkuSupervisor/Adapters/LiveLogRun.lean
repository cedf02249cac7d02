import Mathlib.Data.List.Forall2
import AkuSupervisor.Adapters.ServiceLogs
import AkuSupervisor.Lib.FifoStore
import AkuSupervisor.Lib.LossyQueue
import AkuSupervisor.Lib.Run

namespace AkuSupervisor

open ServiceLogs LossyQueue

/-- A subscription, from the side of its viewer. `leftover` is what waits in a queue that the hub
has let go of. `since` and `watermark` tell where the publications and the numbers stood when it
was opened. -/
structure LiveLogConnection where
  serviceId : String
  subscriberId : Nat
  selection : LiveLogSelection
  initial : List LiveLogEvent
  received : List LiveLogEvent
  leftover : List LiveLogEvent
  isOpen : Bool
  since : Nat
  watermark : Nat
  deriving DecidableEq

/-- The hub with all subscriptions so far. While lines wait to be published, the lock of the hub is
taken. `published` are the lines that were published, `numbered` counts those read from files too,
and `asked` the calls of `subscribe`. -/
structure LiveLogRun where
  hub : LiveLogHub
  waiting : List (String × LogStream × String)
  connections : List LiveLogConnection
  published : List LiveLogEvent
  numbered : Nat
  asked : Nat

/-- A chunk of output comes in, a stream is closed, the next line is published, a viewer subscribes,
takes the next event of its queue, or goes. -/
inductive LiveLogMove where
  | publish (serviceId : String) (stream : LogStream) (bytes : List UInt8)
  | closeStream (serviceId : String) (stream : LogStream)
  | emit (now : Nat) (gapTimes : Nat → Nat)
  | subscribe (serviceId : String) (selection : LiveLogSelection) (tail : Nat)
      (cursor : Option LiveLogCursor) (now : Nat)
  | receive (channel : Nat)
  | drop (channel : Nat)

namespace LiveLogHub

def subscriber (hub : LiveLogHub) (serviceId : String) (subscriberId : Nat) :
    Option LiveSubscriber :=
  hub.services[serviceId]?.bind (·.subscribers[subscriberId]?)

def setSubscriber (hub : LiveLogHub) (serviceId : String) (subscriberId : Nat)
    (subscriber : LiveSubscriber) : LiveLogHub :=
  match hub.services[serviceId]? with
  | none => hub
  | some service =>
    let changed := { service with
      subscribers := service.subscribers.insert subscriberId subscriber }
    { hub with services := hub.services.insert serviceId changed }

end LiveLogHub

namespace LiveLogRun

/-- The hub's end of a subscription, as long as the hub has it. -/
def subscriberOf (s : LiveLogRun) (channel : Nat) : Option LiveSubscriber :=
  s.connections[channel]?.bind fun connection =>
    (s.hub.subscriber connection.serviceId connection.subscriberId).filter (·.channel=channel)

/-- What waits in the queue of a subscription. -/
def queued (s : LiveLogRun) (channel : Nat) (connection : LiveLogConnection) :
    List LiveLogEvent :=
  ((s.subscriberOf channel).map LiveSubscriber.queue).getD connection.leftover

/-- The lines a viewer has lost and not been told of. -/
def pendingDropped (s : LiveLogRun) (channel : Nat) : Nat :=
  ((s.subscriberOf channel).map LiveSubscriber.dropped).getD 0

/-- The connections when the hub lets go of the queue of a subscriber. -/
def orphan (s : LiveLogRun) (serviceId : String) (subscriberId : Nat) : List LiveLogConnection :=
  match s.hub.subscriber serviceId subscriberId with
  | none => s.connections
  | some subscriber => s.connections.modify subscriber.channel fun connection =>
      { connection with leftover := subscriber.queue }

def takeLines (s : LiveLogRun) (serviceId : String) (stream : LogStream) (bytes : List UInt8)
    (close : Bool) : LiveLogRun :=
  let taken := s.hub.takeLines serviceId stream bytes close
  { s with hub := taken.2,waiting := taken.1.map fun text => (serviceId,stream,text) }

def emit (s : LiveLogRun) (now : Nat) (gapTimes : Nat → Nat) : LiveLogRun :=
  match s.waiting with
  | [] => s
  | (serviceId,stream,text)::waiting =>
    let emitted := s.hub.publishLine serviceId stream text now gapTimes
    { s with
      hub := emitted.2
      waiting
      published := s.published++[emitted.1]
      numbered := s.numbered+1 }

def subscribe (s : LiveLogRun) (serviceId : String) (selection : LiveLogSelection) (tail : Nat)
    (cursor : Option LiveLogCursor) (now : Nat) : LiveLogRun :=
  match s.hub.storeSubscribe serviceId selection tail cursor s.connections.length now with
  | (.error _,hub) => { s with hub,asked := s.asked+1 }
  | (.ok (subscriberId,initial),hub) =>
    { s with
      hub
      asked := s.asked+1
      connections := s.orphan serviceId subscriberId++
        [⟨serviceId,subscriberId,selection,initial,[],[],true,s.published.length,
          s.hub.nextSequence⟩] }

def receive (s : LiveLogRun) (channel : Nat) (connection : LiveLogConnection) : LiveLogRun :=
  match s.subscriberOf channel with
  | some subscriber =>
    match subscriber.queue with
    | [] => s
    | event::queue =>
      { s with
        hub := s.hub.setSubscriber connection.serviceId connection.subscriberId
          { subscriber with queue }
        connections := s.connections.set channel
          { connection with received := connection.received++[event] } }
  | none =>
    match connection.leftover with
    | [] => s
    | event::leftover =>
      { s with
        connections := s.connections.set channel
          { connection with received := connection.received++[event],leftover } }

def drop (s : LiveLogRun) (channel : Nat) (connection : LiveLogConnection) : LiveLogRun :=
  { s with
    hub := s.hub.unsubscribe connection.serviceId connection.subscriberId
    connections :=
      (s.orphan connection.serviceId connection.subscriberId).modify channel fun connection =>
        { connection with isOpen := false } }

/-- A move that needs the lock while it is taken leaves everything as it is, and so does one of a
viewer that is not there. -/
def advance (move : LiveLogMove) (s : LiveLogRun) : LiveLogRun :=
  match move with
  | .publish serviceId stream bytes =>
    if s.waiting=[] then s.takeLines serviceId stream bytes false else s
  | .closeStream serviceId stream =>
    if s.waiting=[] then s.takeLines serviceId stream [] true else s
  | .emit now gapTimes => s.emit now gapTimes
  | .subscribe serviceId selection tail cursor now =>
    if s.waiting=[] then s.subscribe serviceId selection tail cursor now else s
  | .receive channel =>
    match s.connections[channel]? with
    | some connection => if connection.isOpen=true then s.receive channel connection else s
    | none => s
  | .drop channel =>
    match s.connections[channel]? with
    | some connection =>
      if connection.isOpen=true ∧ s.waiting=[] then s.drop channel connection else s
    | none => s

/-- A new hub that has read the files of its services. -/
def start (instanceId : String) (services : List (String × List PreloadedLine)) (now : Nat) :
    LiveLogRun where
  hub := (LiveLogHub.new instanceId).reconcile services now
  waiting := []
  connections := []
  published := []
  numbered := (services.flatMap fun service => service.2).length
  asked := 0

def after (instanceId : String) (services : List (String × List PreloadedLine)) (now : Nat)
    (moves : List LiveLogMove) : LiveLogRun :=
  Run.final advance moves (start instanceId services now)

end LiveLogRun

namespace LiveLogConnection

/-- The connection wants the line. -/
def wants (connection : LiveLogConnection) (event : LiveLogEvent) : Bool :=
  event.serviceId=connection.serviceId ∧ event.stream.any connection.selection.includes

/-- The lines for the viewer that were published since it subscribed. -/
def matching (connection : LiveLogConnection) (published : List LiveLogEvent) :
    List LiveLogEvent :=
  (published.drop connection.since).filter connection.wants

end LiveLogConnection

namespace LiveLogEvent

def isLine (event : LiveLogEvent) : Bool := event.kind=.line

def number (event : LiveLogEvent) : Nat := event.sequence.getD 0

end LiveLogEvent

def logLines (events : List LiveLogEvent) : List LiveLogEvent :=
  events.filter LiveLogEvent.isLine

/-- The sum of the counts of the gap events. -/
def gapSum (events : List LiveLogEvent) : Nat :=
  events.foldr (fun event total => (if event.kind=.gap then event.dropped.getD 0 else 0)+total) 0

end AkuSupervisor

import AkuSupervisor.Adapters.LiveLogRun

namespace AkuSupervisor

open ServiceLogs LossyQueue

section Offer

/-- An event as an entry of the account of a queue: a line, or a gap that was told with a line. -/
inductive Tells : LiveLogEvent → Told LiveLogEvent → Prop
  | line (event : LiveLogEvent) (line : event.isLine=true) : Tells event (.item event)
  | gap (event next : LiveLogEvent) (lost : Nat) (kind : event.kind=.gap)
      (dropped : event.dropped=some lost) (sequence : event.sequence=next.sequence)
      (hub : event.hubInstanceId=next.hubInstanceId) : Tells event (.gap lost next)

theorem tells_gapBefore (event : LiveLogEvent) (lost now : Nat) :
    Tells (event.gapBefore lost now) (.gap lost event) := .gap _ event lost rfl rfl rfl rfl

/-- `events` are what a queue has told of `matching`, and the last `lost` lines are lost. -/
def QueueLedger (matching events : List LiveLogEvent) (lost : Nat) : Prop :=
  ∃told,List.Forall₂ Tells events told ∧ Accounts matching told lost

theorem QueueLedger.start : QueueLedger [] [] 0 := ⟨[],.nil,.start⟩

variable {matching events : List LiveLogEvent} {lost : Nat} {event : LiveLogEvent}

theorem saturatingAdd_one (n : Nat) (small : n < U64.top) : U64.saturatingAdd n 1=n+1 := by
  rw [U64.saturatingAdd,Nat.min_eq_left small]

theorem QueueLedger.lost_le (ledger : QueueLedger matching events lost) :
    lost ≤ matching.length := by
  obtain ⟨told,-,accounts⟩ := ledger
  have count := accounts.count
  omega

theorem QueueLedger.passed (ledger : QueueLedger matching events 0) (line : event.isLine=true) :
    QueueLedger (matching++[event]) (events++[event]) 0 := by
  obtain ⟨told,tells,accounts⟩ := ledger
  exact ⟨told++[.item event],List.rel_append tells (.cons (.line event line) .nil),
    .passed event accounts⟩

theorem QueueLedger.dropped (ledger : QueueLedger matching events lost) :
    QueueLedger (matching++[event]) events (lost+1) := by
  obtain ⟨told,tells,accounts⟩ := ledger
  exact ⟨told,tells,.dropped event accounts⟩

theorem QueueLedger.gapPassed (ledger : QueueLedger matching events lost) (some_lost : 0<lost)
    (now : Nat) (line : event.isLine=true) :
    QueueLedger (matching++[event]) (events++[event.gapBefore lost now,event]) 0 := by
  obtain ⟨told,tells,accounts⟩ := ledger
  exact ⟨told++[.gap lost event,.item event],
    List.rel_append tells
      (.cons (tells_gapBefore event lost now) (.cons (.line event line) .nil)),
    .gapPassed event accounts some_lost⟩

theorem QueueLedger.gapDropped (ledger : QueueLedger matching events lost) (some_lost : 0<lost)
    (now : Nat) :
    QueueLedger (matching++[event]) (events++[event.gapBefore lost now]) 1 := by
  obtain ⟨told,tells,accounts⟩ := ledger
  exact ⟨told++[.gap lost event],
    List.rel_append tells (.cons (tells_gapBefore event lost now) .nil),
    .gapDropped event accounts some_lost⟩

/-- What an offer leaves of a viewer besides its queue and its count. -/
structure SameViewer (s after : LiveSubscriber) : Prop where
  selection : after.selection=s.selection
  channel : after.channel=s.channel
  connected : after.connected=s.connected

/-- A line that a viewer does not want does nothing to it. -/
theorem offer_unwanted (s : LiveSubscriber) (event : LiveLogEvent) (now : Nat)
    (unwanted : event.stream.any s.selection.includes=false) : s.offer event now=some s := by
  unfold LiveSubscriber.offer
  cases known : event.stream with
  | none => rfl
  | some stream =>
    rw [known,Option.any_some] at unwanted
    simp only [unwanted,if_true]

theorem trySend_same {s after : LiveSubscriber} (sent : s.trySend event=.sent after) :
    SameViewer s after := by
  unfold LiveSubscriber.trySend at sent
  split_ifs at sent
  cases sent
  exact ⟨rfl,rfl,rfl⟩

theorem offerLine_same {s after : LiveSubscriber} (sent : s.offerLine event=some after) :
    SameViewer s after := by
  unfold LiveSubscriber.offerLine at sent
  cases tried : s.trySend event with
  | sent told =>
    rw [tried] at sent
    cases sent
    exact trySend_same tried
  | full =>
    rw [tried] at sent
    cases sent
    exact ⟨rfl,rfl,rfl⟩
  | disconnected =>
    rw [tried] at sent
    cases sent

theorem offer_same {s after : LiveSubscriber} {now : Nat} (sent : s.offer event now=some after) :
    SameViewer s after := by
  unfold LiveSubscriber.offer at sent
  cases known : event.stream with
  | none =>
    rw [known] at sent
    cases sent
    exact ⟨rfl,rfl,rfl⟩
  | some stream =>
    simp only [known] at sent
    split_ifs at sent
    · cases sent
      exact ⟨rfl,rfl,rfl⟩
    · cases tried : s.trySend (event.gapBefore s.dropped now) with
      | sent told =>
        rw [tried] at sent
        have first := trySend_same tried
        have second := offerLine_same sent
        exact ⟨second.selection.trans first.selection,second.channel.trans first.channel,
          second.connected.trans first.connected⟩
      | full =>
        rw [tried] at sent
        cases sent
        exact ⟨rfl,rfl,rfl⟩
      | disconnected =>
        rw [tried] at sent
        cases sent
    · exact offerLine_same sent

theorem trySend_sent (s : LiveSubscriber) (event : LiveLogEvent) (connected : s.connected=true)
    (room : s.queue.length < liveSubscriberQueue) :
    s.trySend event=.sent { s with queue := s.queue++[event] } := by
  simp [LiveSubscriber.trySend,connected,room]

theorem trySend_full (s : LiveSubscriber) (event : LiveLogEvent) (connected : s.connected=true)
    (full : ¬s.queue.length < liveSubscriberQueue) : s.trySend event=.full := by
  simp [LiveSubscriber.trySend,connected,full]

/-- Sending a line keeps the account. -/
theorem ledger_offerLine (s : LiveSubscriber) (connected : s.connected=true)
    (before : List LiveLogEvent) (line : event.isLine=true) (none_dropped : s.dropped=0)
    (ledger : QueueLedger matching (before++s.queue) s.dropped) :
    ∃after,s.offerLine event=some after ∧ SameViewer s after ∧
      QueueLedger (matching++[event]) (before++after.queue) after.dropped := by
  unfold LiveSubscriber.offerLine
  by_cases room : s.queue.length < liveSubscriberQueue
  · rw [trySend_sent s event connected room]
    refine ⟨_,rfl,⟨rfl,rfl,rfl⟩,?_⟩
    rw [none_dropped] at ledger ⊢
    rw [← List.append_assoc]
    exact ledger.passed line
  · rw [trySend_full s event connected room]
    refine ⟨_,rfl,⟨rfl,rfl,rfl⟩,?_⟩
    rw [none_dropped,saturatingAdd_one 0 (by decide)]
    rw [none_dropped] at ledger
    exact ledger.dropped

/-- An offered line that is wanted keeps the account. -/
theorem ledger_offer (s : LiveSubscriber) (connected : s.connected=true)
    (before : List LiveLogEvent) (now : Nat) (line : event.isLine=true)
    (wanted : event.stream.any s.selection.includes=true) (small : s.dropped < U64.top)
    (ledger : QueueLedger matching (before++s.queue) s.dropped) :
    ∃after,s.offer event now=some after ∧ SameViewer s after ∧
      QueueLedger (matching++[event]) (before++after.queue) after.dropped := by
  obtain ⟨stream,known⟩ : ∃stream,event.stream=some stream := by
    cases known : event.stream with
    | none =>
      rw [known] at wanted
      cases wanted
    | some stream => exact ⟨stream,rfl⟩
  rw [known,Option.any_some] at wanted
  simp only [LiveSubscriber.offer,known,wanted,Bool.true_eq_false,if_false]
  by_cases lost : 0<s.dropped
  · rw [if_pos lost]
    by_cases room : s.queue.length < liveSubscriberQueue
    · rw [trySend_sent s _ connected room]
      let told : LiveSubscriber :=
        { s with queue := s.queue++[event.gapBefore s.dropped now],dropped := 0 }
      show ∃after,told.offerLine event=some after ∧ _
      unfold LiveSubscriber.offerLine
      by_cases more : told.queue.length < liveSubscriberQueue
      · rw [trySend_sent told event connected more]
        refine ⟨_,rfl,⟨rfl,rfl,rfl⟩,?_⟩
        have passed := ledger.gapPassed lost now line
        rwa [List.append_cons _ (event.gapBefore s.dropped now),List.append_assoc before,
          List.append_assoc before] at passed
      · rw [trySend_full told event connected more]
        refine ⟨_,rfl,⟨rfl,rfl,rfl⟩,?_⟩
        have dropped := @QueueLedger.gapDropped _ _ _ event ledger lost now
        rwa [List.append_assoc] at dropped
    · rw [trySend_full s _ connected room]
      refine ⟨_,rfl,⟨rfl,rfl,rfl⟩,?_⟩
      rw [saturatingAdd_one s.dropped small]
      exact ledger.dropped
  · rw [if_neg lost]
    exact ledger_offerLine s connected before line (Nat.eq_zero_of_not_pos lost) ledger

end Offer

namespace LiveLogHub

variable (hub : LiveLogHub) (serviceId : String)

theorem subscriber_services (hub hub' : LiveLogHub) (same : hub'.services=hub.services)
    (serviceId : String) (id : Nat) : hub'.subscriber serviceId id=hub.subscriber serviceId id := by
  rw [subscriber,subscriber,same]

/-- Replacing the state of a service changes its own subscribers only. -/
theorem subscriber_replaced (hub' : LiveLogHub) (changed : LiveServiceState)
    (replaced : hub'.services=hub.services.insert serviceId changed) (other : String) (id : Nat) :
    hub'.subscriber other id=
      if serviceId=other then changed.subscribers[id]? else hub.subscriber other id := by
  rw [subscriber,replaced,FifoStore.lookup_insert]
  split_ifs
  · rfl
  · rfl

theorem subscriber_of_service {service : LiveServiceState}
    (there : hub.services[serviceId]?=some service) (id : Nat) :
    hub.subscriber serviceId id=service.subscribers[id]? := by
  rw [subscriber,there]
  rfl

theorem subscriber_takeLines (stream : LogStream) (bytes : List UInt8) (close : Bool)
    (other : String) (id : Nat) :
    (hub.takeLines serviceId stream bytes close).2.subscriber other id=hub.subscriber other id := by
  unfold takeLines
  cases there : hub.services[serviceId]? with
  | none => rfl
  | some service =>
    rw [subscriber_replaced hub serviceId _ _ rfl]
    split_ifs with same
    · rw [← same,hub.subscriber_of_service serviceId there]
      cases stream <;> rfl
    · rfl

/-- Publishing a line offers it to the subscribers of its service. -/
theorem subscriber_publishLine (stream : LogStream) (text : String) (now : Nat)
    (gapTimes : Nat → Nat) (other : String) (id : Nat) :
    (hub.publishLine serviceId stream text now gapTimes).2.subscriber other id=
      if serviceId=other then
        (hub.subscriber serviceId id).bind fun subscriber => subscriber.offer
          (hub.publishLine serviceId stream text now gapTimes).1 (gapTimes id)
      else hub.subscriber other id := by
  cases there : hub.services[serviceId]? with
  | none =>
    have gone : hub.subscriber serviceId id=none := by
      rw [subscriber,there]
      rfl
    rw [subscriber_services hub _ (by simp only [publishLine,there])]
    split_ifs with same
    · rw [← same,gone]
      rfl
    · rfl
  | some service =>
    have replaced : (hub.publishLine serviceId stream text now gapTimes).2.services=
        hub.services.insert serviceId (service.publishEvent
          (hub.publishLine serviceId stream text now gapTimes).1 gapTimes) := by
      simp only [publishLine,there]
    rw [subscriber_replaced hub serviceId _ _ replaced,hub.subscriber_of_service serviceId there]
    split_ifs with same
    · exact Std.ExtTreeMap.getElem?_filterMap'
    · rfl

theorem subscriber_unsubscribe (subscriberId : Nat) (other : String) (id : Nat) :
    (hub.unsubscribe serviceId subscriberId).subscriber other id=
      if serviceId=other ∧ subscriberId=id then none else hub.subscriber other id := by
  unfold unsubscribe
  cases there : hub.services[serviceId]? with
  | none =>
    split_ifs with same
    · rw [← same.1,subscriber,there]
      rfl
    · rfl
  | some service =>
    rw [subscriber_replaced hub serviceId _ _ rfl]
    by_cases here : serviceId=other
    · rw [if_pos here,FifoStore.lookup_erase,← here,hub.subscriber_of_service serviceId there]
      simp only [true_and]
    · rw [if_neg here,if_neg fun both => here both.1]

theorem subscriber_setSubscriber (subscriberId : Nat) (before after : LiveSubscriber)
    (known : hub.subscriber serviceId subscriberId=some before) (other : String) (id : Nat) :
    (hub.setSubscriber serviceId subscriberId after).subscriber other id=
      if serviceId=other ∧ subscriberId=id then some after else hub.subscriber other id := by
  unfold setSubscriber
  cases there : hub.services[serviceId]? with
  | none =>
    rw [subscriber,there] at known
    cases known
  | some service =>
    rw [subscriber_replaced hub serviceId _ _ rfl]
    by_cases here : serviceId=other
    · rw [if_pos here,FifoStore.lookup_insert,← here,hub.subscriber_of_service serviceId there]
      simp only [true_and]
    · rw [if_neg here,if_neg fun both => here both.1]

/-- A refused subscription only uses up an ID; an accepted one joins its service. -/
theorem storeSubscribe_cases (selection : LiveLogSelection) (tail : Nat)
    (cursor : Option LiveLogCursor) (channel now : Nat) :
    (∃error,hub.storeSubscribe serviceId selection tail cursor channel now=
      (.error error,{ hub with nextSubscriberId := U64.saturatingAdd hub.nextSubscriberId 1 })) ∨
    ∃service joined,hub.services[serviceId]?=some service ∧
      joined={ service with
        subscribers := service.subscribers.insert (U64.saturatingAdd hub.nextSubscriberId 1)
          ⟨selection,channel,[],true,0⟩ } ∧
      hub.storeSubscribe serviceId selection tail cursor channel now=
        (.ok (U64.saturatingAdd hub.nextSubscriberId 1,
            hub.replay service serviceId selection (min tail maxTailLines) cursor now),
          { hub with
            nextSubscriberId := U64.saturatingAdd hub.nextSubscriberId 1
            services := hub.services.insert serviceId joined }) := by
  cases there : hub.services[serviceId]? with
  | none =>
    simp only [storeSubscribe,subscribe,there]
    exact .inl ⟨_,rfl⟩
  | some service =>
    by_cases many : maxLiveSubscribersPerService ≤ service.subscribers.size
    · simp only [storeSubscribe,subscribe,there,many,if_true]
      exact .inl ⟨_,rfl⟩
    · simp only [storeSubscribe,subscribe,there,many,if_false]
      exact .inr ⟨service,_,rfl,rfl,rfl⟩

end LiveLogHub

namespace LiveLogRun

variable {s s' : LiveLogRun} {channel : Nat} {connection connection' : LiveLogConnection}

theorem subscriberOf_eq (there : s.connections[channel]?=some connection) :
    s.subscriberOf channel=
      (s.hub.subscriber connection.serviceId connection.subscriberId).filter
        (·.channel=channel) := by
  rw [subscriberOf,there]
  rfl

theorem subscriberOf_some (there : s.connections[channel]?=some connection)
    (subscriber : LiveSubscriber) :
    s.subscriberOf channel=some subscriber ↔
      s.hub.subscriber connection.serviceId connection.subscriberId=some subscriber ∧
        subscriber.channel=channel := by
  rw [subscriberOf_eq there,Option.filter_eq_some_iff,decide_eq_true_eq]

theorem queued_some {subscriber : LiveSubscriber}
    (held : s.subscriberOf channel=some subscriber) :
    s.queued channel connection=subscriber.queue := by
  rw [queued,held]
  rfl

theorem queued_none (gone : s.subscriberOf channel=none) :
    s.queued channel connection=connection.leftover := by
  rw [queued,gone]
  rfl

/-- The account of a subscription. Once the hub has let go of its queue, nothing more is offered. -/
def Accounted (s : LiveLogRun) (channel : Nat) (connection : LiveLogConnection) : Prop :=
  ∃offered rest lost,connection.matching s.published=offered++rest ∧
    QueueLedger offered (connection.received++s.queued channel connection) lost ∧
    ∀subscriber,s.subscriberOf channel=some subscriber → rest=[] ∧ subscriber.dropped=lost

/-- Every subscriber of the hub belongs to a subscription, every subscription has its account, and
an open one is with the hub unless the IDs have run out. -/
structure Kept (s : LiveLogRun) : Prop where
  owner : ∀serviceId id subscriber,s.hub.subscriber serviceId id=some subscriber →
    id ≤ s.hub.nextSubscriberId ∧ subscriber.connected=true ∧
    ∃connection,s.connections[subscriber.channel]?=some connection ∧
      connection.serviceId=serviceId ∧ connection.subscriberId=id ∧
      connection.selection=subscriber.selection
  small : s.hub.nextSubscriberId ≤ U64.top
  ids : s.hub.nextSubscriberId ≤ s.asked
  since : ∀connection∈s.connections,connection.since ≤ s.published.length
  accounted : ∀channel connection,s.connections[channel]?=some connection →
    s.Accounted channel connection
  attached : s.asked ≤ U64.top → ∀channel connection,s.connections[channel]?=some connection →
    connection.isOpen=true → ∃subscriber,s.subscriberOf channel=some subscriber

/-- What never changes in a subscription, and what it has received. -/
structure SameConnection (connection connection' : LiveLogConnection) : Prop where
  serviceId : connection'.serviceId=connection.serviceId
  subscriberId : connection'.subscriberId=connection.subscriberId
  selection : connection'.selection=connection.selection
  initial : connection'.initial=connection.initial
  received : connection'.received=connection.received
  since : connection'.since=connection.since

theorem SameConnection.matching (same : SameConnection connection connection')
    (published : List LiveLogEvent) :
    connection'.matching published=connection.matching published := by
  unfold LiveLogConnection.matching LiveLogConnection.wants
  rw [same.since,same.serviceId,same.selection]

/-- A subscription keeps its account where its queue stays with the hub, and where the hub lets go
of it. -/
theorem Accounted.carry (accounted : s.Accounted channel connection)
    (same : SameConnection connection connection') (published : s'.published=s.published)
    (kept : (s'.subscriberOf channel=s.subscriberOf channel ∧
        connection'.leftover=connection.leftover) ∨
      (s'.subscriberOf channel=none ∧ connection'.leftover=s.queued channel connection)) :
    s'.Accounted channel connection' := by
  obtain ⟨offered,rest,lost,split,ledger,held⟩ := accounted
  refine ⟨offered,rest,lost,?_,?_,?_⟩
  · rw [published,same.matching,split]
  · have queued : s'.queued channel connection'=s.queued channel connection := by
      rcases kept with ⟨subscriber,leftover⟩|⟨gone,leftover⟩
      · rw [LiveLogRun.queued,LiveLogRun.queued,subscriber,leftover]
      · rw [queued_none gone,leftover]
    rw [queued,same.received]
    exact ledger
  · intro subscriber here
    rcases kept with ⟨subscriber',-⟩|⟨gone,-⟩
    · exact held subscriber (subscriber' ▸ here)
    · rw [gone] at here
      cases here

theorem subscriberOf_congr (connections : s'.connections=s.connections)
    (subscriber : ∀serviceId id,s'.hub.subscriber serviceId id=s.hub.subscriber serviceId id) :
    s'.subscriberOf channel=s.subscriberOf channel := by
  unfold subscriberOf
  rw [connections]
  simp only [subscriber]

theorem Kept.takeLines (kept : Kept s) (serviceId : String) (stream : LogStream)
    (bytes : List UInt8) (close : Bool) : Kept (s.takeLines serviceId stream bytes close) := by
  have hub := s.hub.subscriber_takeLines serviceId stream bytes close
  have next : (s.takeLines serviceId stream bytes close).hub.nextSubscriberId=
      s.hub.nextSubscriberId := by
    unfold LiveLogRun.takeLines LiveLogHub.takeLines
    cases s.hub.services[serviceId]? <;> rfl
  have same (channel : Nat) :
      (s.takeLines serviceId stream bytes close).subscriberOf channel=s.subscriberOf channel :=
    subscriberOf_congr rfl hub
  refine ⟨fun service id subscriber held => ?_,?_,?_,kept.since,
    fun channel connection there => ?_,fun few channel connection there isOpen => ?_⟩
  · rw [next]
    exact kept.owner service id subscriber ((hub service id).symm.trans held)
  · rw [next]
    exact kept.small
  · rw [next]
    exact kept.ids
  · exact (kept.accounted channel connection there).carry ⟨rfl,rfl,rfl,rfl,rfl,rfl⟩ rfl
      (.inl ⟨same channel,rfl⟩)
  · rw [same]
    exact kept.attached few channel connection there isOpen

/-- A published line counts for a subscription if it is wanted. -/
theorem matching_publish (published : List LiveLogEvent) (event : LiveLogEvent)
    (since : connection.since ≤ published.length) :
    connection.matching (published++[event])=
      connection.matching published++if connection.wants event=true then [event] else [] := by
  unfold LiveLogConnection.matching
  rw [List.drop_append_of_le_length since,List.filter_append]
  cases wanted : connection.wants event with
  | true => rw [List.filter_cons_of_pos wanted]; rfl
  | false =>
    have unwanted : ¬connection.wants event=true := by rw [wanted]; exact Bool.false_ne_true
    rw [List.filter_cons_of_neg unwanted]
    rfl

theorem Accounted.lost_le (accounted : s.Accounted channel connection)
    {subscriber : LiveSubscriber} (held : s.subscriberOf channel=some subscriber) :
    subscriber.dropped ≤ s.published.length := by
  obtain ⟨offered,rest,lost,split,ledger,same⟩ := accounted
  have bound := ledger.lost_le
  have inside : (connection.matching s.published).length ≤ s.published.length :=
    Nat.le_trans (List.length_filter_le _ _) (List.length_drop ▸ Nat.sub_le _ _)
  rw [split,List.length_append] at inside
  rw [(same subscriber held).2]
  omega

/-- The run after a waiting line was published. -/
def emitted (s : LiveLogRun) (serviceId : String) (stream : LogStream) (text : String)
    (waiting : List (String × LogStream × String)) (now : Nat) (gapTimes : Nat → Nat) :
    LiveLogRun :=
  let published := s.hub.publishLine serviceId stream text now gapTimes
  { s with
    hub := published.2
    waiting
    published := s.published++[published.1]
    numbered := s.numbered+1 }

section Emit

variable (serviceId : String) (stream : LogStream) (text : String)
  (waiting : List (String × LogStream × String)) (now : Nat) (gapTimes : Nat → Nat)

/-- What the hub has of a subscription after it has published a line. -/
theorem subscriberOf_emitted (there : s.connections[channel]?=some connection) :
    (s.emitted serviceId stream text waiting now gapTimes).subscriberOf channel=
      (s.subscriberOf channel).bind fun subscriber =>
        if serviceId=connection.serviceId then
          subscriber.offer (s.hub.publishLine serviceId stream text now gapTimes).1
            (gapTimes connection.subscriberId)
        else some subscriber := by
  have there' : (s.emitted serviceId stream text waiting now gapTimes).connections[channel]?=
      some connection := there
  rw [subscriberOf_eq there,subscriberOf_eq there']
  have hub := s.hub.subscriber_publishLine serviceId stream text now gapTimes
    connection.serviceId connection.subscriberId
  show Option.filter _ ((s.hub.publishLine serviceId stream text now gapTimes).2.subscriber _ _)=_
  rw [hub]
  by_cases here : serviceId=connection.serviceId
  · simp only [← here]
    cases known : s.hub.subscriber serviceId connection.subscriberId with
    | none => rfl
    | some subscriber =>
      rw [Option.bind_some]
      cases sent : subscriber.offer (s.hub.publishLine serviceId stream text now gapTimes).1
          (gapTimes connection.subscriberId) with
      | none =>
        by_cases own : subscriber.channel=channel
        · rw [Option.filter_some_pos (by simpa using own),Option.bind_some,sent]
          rfl
        · rw [Option.filter_some_neg (by simpa using own)]
          rfl
      | some after =>
        have same := (offer_same sent).channel
        by_cases own : subscriber.channel=channel
        · rw [Option.filter_some_pos (by simpa using own),Option.bind_some,sent]
          exact Option.filter_some_pos (by simpa [same] using own)
        · rw [Option.filter_some_neg (by simpa using own)]
          exact Option.filter_some_neg (by simpa [same] using own)
  · simp only [if_neg here,Option.bind_fun_some]

theorem Kept.selection (kept : Kept s) (there : s.connections[channel]?=some connection)
    {subscriber : LiveSubscriber} (held : s.subscriberOf channel=some subscriber) :
    connection.selection=subscriber.selection ∧ subscriber.connected=true := by
  obtain ⟨known,own⟩ := (subscriberOf_some there subscriber).mp held
  obtain ⟨-,connected,other,there',-,-,selection⟩ := kept.owner _ _ _ known
  rw [own,there] at there'
  cases there'
  exact ⟨selection,connected⟩

/-- A subscription that the hub has gets the line, or counts it, or does not want it. -/
theorem Kept.emitted_held (kept : Kept s) (few : s.published.length < U64.top)
    (there : s.connections[channel]?=some connection)
    {subscriber : LiveSubscriber} (held : s.subscriberOf channel=some subscriber) :
    (∃after,(s.emitted serviceId stream text waiting now gapTimes).subscriberOf channel=
        some after) ∧
      (s.emitted serviceId stream text waiting now gapTimes).Accounted channel connection := by
  let event := (s.hub.publishLine serviceId stream text now gapTimes).1
  have accounted := kept.accounted channel connection there
  have small : subscriber.dropped < U64.top := Nat.lt_of_le_of_lt (accounted.lost_le held) few
  obtain ⟨selection,connected⟩ := kept.selection there held
  obtain ⟨offered,rest,lost,split,ledger,known⟩ := accounted
  obtain ⟨rfl,rfl⟩ := known subscriber held
  rw [List.append_nil] at split
  rw [queued_some held] at ledger
  have since := kept.since connection (List.mem_of_getElem? there)
  have next := matching_publish s.published event since
  have hub := subscriberOf_emitted serviceId stream text waiting now gapTimes there
  rw [held,Option.bind_some] at hub
  cases wanted : connection.wants event with
  | true =>
    have both := of_decide_eq_true wanted
    have here : serviceId=connection.serviceId := both.1
    rw [if_pos here] at hub
    have any : event.stream.any subscriber.selection.includes=true := selection ▸ both.2
    obtain ⟨after,sent,-,ledger'⟩ := ledger_offer subscriber connected connection.received
      (gapTimes connection.subscriberId) rfl any small ledger
    rw [sent] at hub
    refine ⟨⟨after,hub⟩,offered++[event],[],after.dropped,?_,?_,fun other is => ?_⟩
    · rw [if_pos wanted,split] at next
      rw [List.append_nil]
      exact next
    · rw [queued_some hub]
      exact ledger'
    · rw [hub] at is
      cases is
      exact ⟨rfl,rfl⟩
  | false =>
    have same : (if serviceId=connection.serviceId then
        subscriber.offer event (gapTimes connection.subscriberId) else some subscriber)=
        some subscriber := by
      split_ifs with here
      · apply offer_unwanted
        have not_both := of_decide_eq_false wanted
        rw [← selection]
        cases any : event.stream.any connection.selection.includes with
        | false => rfl
        | true => exact absurd ⟨here,any⟩ not_both
      · rfl
    rw [same] at hub
    refine ⟨⟨subscriber,hub⟩,offered,[],subscriber.dropped,?_,?_,fun other is => ?_⟩
    · rw [if_neg (by rw [wanted]; exact Bool.false_ne_true),List.append_nil,split] at next
      rw [List.append_nil]
      exact next
    · rw [queued_some hub]
      exact ledger
    · rw [hub] at is
      cases is
      exact ⟨rfl,rfl⟩

/-- Publishing a line keeps the account of every subscription. -/
theorem Kept.emitted (kept : Kept s) (few : s.published.length < U64.top) :
    Kept (s.emitted serviceId stream text waiting now gapTimes) := by
  refine ⟨fun other id subscriber here => ?_,kept.small,kept.ids,fun connection mem => ?_,
    fun channel connection there => ?_,fun asked channel connection there isOpen => ?_⟩
  · have hub := s.hub.subscriber_publishLine serviceId stream text now gapTimes other id
    have here : (s.hub.publishLine serviceId stream text now gapTimes).2.subscriber other id=
      some subscriber := here
    rw [hub] at here
    split_ifs at here with same
    · obtain ⟨before,known,sent⟩ := Option.bind_eq_some_iff.mp here
      obtain ⟨selection,channel,connected⟩ := offer_same sent
      rw [selection,channel,connected,← same]
      exact kept.owner serviceId id before known
    · exact kept.owner other id subscriber here
  · have since := kept.since connection mem
    show connection.since ≤ (s.published++[_]).length
    rw [List.length_append]
    omega
  · cases held : s.subscriberOf channel with
    | some subscriber =>
      exact (kept.emitted_held serviceId stream text waiting now gapTimes few there held).2
    | none =>
      have gone := @subscriberOf_emitted s channel connection serviceId stream text waiting now
        gapTimes there
      rw [held,Option.bind_none] at gone
      obtain ⟨offered,rest,lost,split,ledger,-⟩ := kept.accounted channel connection there
      have next := matching_publish s.published
        (s.hub.publishLine serviceId stream text now gapTimes).1
        (kept.since connection (List.mem_of_getElem? there))
      rw [split,List.append_assoc] at next
      refine ⟨offered,_,lost,next,?_,fun subscriber is => ?_⟩
      · rw [queued_none gone]
        rwa [queued_none held] at ledger
      · rw [gone] at is
        cases is
  · obtain ⟨subscriber,held⟩ := kept.attached asked channel connection there isOpen
    exact (kept.emitted_held serviceId stream text waiting now gapTimes few there held).1

end Emit

theorem Kept.emit (kept : Kept s) (now : Nat) (gapTimes : Nat → Nat)
    (few : (s.emit now gapTimes).published.length ≤ U64.top) : Kept (s.emit now gapTimes) := by
  cases waits : s.waiting with
  | nil =>
    have same : s.emit now gapTimes=s := by rw [LiveLogRun.emit,waits]
    rw [same]
    exact kept
  | cons line waiting =>
    obtain ⟨serviceId,stream,text⟩ := line
    have same : s.emit now gapTimes=s.emitted serviceId stream text waiting now gapTimes := by
      rw [LiveLogRun.emit,waits]
      rfl
    rw [same] at few ⊢
    apply kept.emitted
    have length : (s.published++[(s.hub.publishLine serviceId stream text now gapTimes).1]).length ≤
      U64.top := few
    rw [List.length_append,List.length_singleton] at length
    exact length

end LiveLogRun

section Known

theorem exists_of_mem_left {α β : Type} {R : α → β → Prop} {xs : List α} {ys : List β} {x : α}
    (related : List.Forall₂ R xs ys) (mem : x∈xs) : ∃y∈ys,R x y := by
  induction related with
  | nil => cases mem
  | cons first rest ih =>
    rcases List.mem_cons.mp mem with rfl|later
    · exact ⟨_,List.mem_cons_self,first⟩
    · obtain ⟨y,inside,here⟩ := ih later
      exact ⟨y,List.mem_cons_of_mem _ inside,here⟩

theorem exists_of_mem_right {α β : Type} {R : α → β → Prop} {xs : List α} {ys : List β} {y : β}
    (related : List.Forall₂ R xs ys) (mem : y∈ys) : ∃x∈xs,R x y :=
  exists_of_mem_left related.flip mem

/-- The gap counts the line: it is one of those right before the line whose number the gap has. -/
def GapCounts (wanted : List LiveLogEvent) (gap line : LiveLogEvent) : Prop :=
  ∃first gone next rest,wanted=first++gone++next::rest ∧ gap.kind=.gap ∧
    gap.dropped=some gone.length ∧ gap.sequence=next.sequence ∧ line∈gone

theorem GapCounts.mono {wanted : List LiveLogEvent} {gap line : LiveLogEvent}
    (counts : GapCounts wanted gap line) (earlier later : List LiveLogEvent) :
    GapCounts (earlier++wanted++later) gap line := by
  obtain ⟨first,gone,next,rest,rfl,kind,dropped,sequence,here⟩ := counts
  exact ⟨earlier++first,gone,next,rest++later,by simp,kind,dropped,sequence,here⟩

/-- The line was shown, or counted in a gap that was shown. -/
def Known (wanted shown : List LiveLogEvent) (line : LiveLogEvent) : Prop :=
  line∈shown ∨ ∃gap∈shown,GapCounts wanted gap line

theorem Known.mono {wanted shown : List LiveLogEvent} {line : LiveLogEvent}
    (known : Known wanted shown line) (earlier later more : List LiveLogEvent) :
    Known (earlier++wanted++later) (shown++more) line := by
  rcases known with here|⟨gap,mem,counts⟩
  · exact .inl (List.mem_append_left _ here)
  · exact .inr ⟨gap,List.mem_append_left _ mem,counts.mono earlier later⟩

/-- Every line that was offered is told or counted in a gap, but for the last ones, which are lost
and not told yet. -/
theorem QueueLedger.known {matching events : List LiveLogEvent} {lost : Nat}
    (ledger : QueueLedger matching events lost) :
    ∃kept gone,matching=kept++gone ∧ gone.length=lost ∧ ∀line∈kept,Known matching events line := by
  obtain ⟨told,tells,accounts⟩ := ledger
  obtain ⟨kept,gone,parts,size,covers⟩ := accounts.covers
  refine ⟨kept,gone,parts,size,fun line mem => ?_⟩
  rcases covers line mem with item|counted
  · obtain ⟨entry,inside,is⟩ := List.mem_filterMap.mp item
    obtain ⟨event,here,tells⟩ := exists_of_mem_right tells inside
    cases tells with
    | line =>
      cases is
      exact .inl here
    | gap => cases is
  · obtain ⟨missing,next,first,lines,rest,inside,split,size,here⟩ := counted
    obtain ⟨gap,shown,tells⟩ := exists_of_mem_right tells inside
    cases tells with
    | gap _ _ kind dropped sequence =>
      exact .inr ⟨gap,shown,first,lines,next,rest,split,kind,by rw [size]; exact dropped,sequence,
        here⟩

end Known

end AkuSupervisor

import AkuSupervisor.Adapters.LiveLogLedger
import AkuSupervisor.Adapters.LiveLogRings

namespace AkuSupervisor

open ServiceLogs LossyQueue

namespace LiveLogRun

variable {s s' : LiveLogRun} {channel : Nat} {connection connection' : LiveLogConnection}

section LetGo

variable (s) (serviceId : String) (id : Nat)

/-- A connection after the hub let go of the queue of a subscriber. -/
def released (channel : Nat) (connection : LiveLogConnection) : LiveLogConnection :=
  match s.hub.subscriber serviceId id with
  | none => connection
  | some subscriber =>
    if subscriber.channel=channel then { connection with leftover := subscriber.queue }
    else connection

theorem orphan_getElem? (channel : Nat) :
    (s.orphan serviceId id)[channel]?=
      s.connections[channel]?.map (s.released serviceId id channel) := by
  unfold orphan released
  cases s.hub.subscriber serviceId id with
  | none => exact Option.map_id'.symm
  | some subscriber =>
    rw [List.getElem?_modify]
    rfl

theorem length_orphan : (s.orphan serviceId id).length=s.connections.length := by
  unfold orphan
  cases s.hub.subscriber serviceId id with
  | none => rfl
  | some subscriber => exact List.length_modify ..

/-- If the queue was its own, what waits there is left to it. -/
structure LetGo (channel : Nat) (connection connection' : LiveLogConnection) : Prop where
  same : SameConnection connection connection'
  leftover : (connection'.leftover=connection.leftover ∧
      ∀subscriber,s.hub.subscriber serviceId id=some subscriber → subscriber.channel≠channel) ∨
    ∃subscriber,s.hub.subscriber serviceId id=some subscriber ∧ subscriber.channel=channel ∧
      connection'.leftover=subscriber.queue

theorem letGo_released (channel : Nat) (connection : LiveLogConnection) :
    s.LetGo serviceId id channel connection (s.released serviceId id channel connection) := by
  unfold released
  cases known : s.hub.subscriber serviceId id with
  | none =>
    refine ⟨⟨rfl,rfl,rfl,rfl,rfl,rfl⟩,.inl ⟨rfl,fun subscriber here => ?_⟩⟩
    rw [known] at here
    cases here
  | some subscriber =>
    by_cases own : subscriber.channel=channel
    · simp only [own,if_true]
      exact ⟨⟨rfl,rfl,rfl,rfl,rfl,rfl⟩,.inr ⟨subscriber,known,own,rfl⟩⟩
    · simp only [own,if_false]
      refine ⟨⟨rfl,rfl,rfl,rfl,rfl,rfl⟩,.inl ⟨rfl,fun other here => ?_⟩⟩
      rw [known] at here
      cases here
      exact own

theorem released_isOpen (channel : Nat) (connection : LiveLogConnection) :
    (s.released serviceId id channel connection).isOpen=connection.isOpen := by
  unfold released
  cases s.hub.subscriber serviceId id with
  | none => rfl
  | some subscriber => by_cases own : subscriber.channel=channel <;> simp [own]

end LetGo

variable {serviceId : String} {id : Nat}

/-- A subscription keeps its account when the hub lets go of the queue of a subscriber. -/
theorem Kept.letGo (kept : Kept s) (there : s.connections[channel]?=some connection)
    (letGo : s.LetGo serviceId id channel connection connection')
    (there' : s'.connections[channel]?=some connection') (published : s'.published=s.published)
    (others : ∀other i,¬(serviceId=other ∧ id=i) →
      s'.hub.subscriber other i=s.hub.subscriber other i)
    (gone : ∀subscriber,s'.hub.subscriber serviceId id=some subscriber →
      subscriber.channel≠channel) :
    s'.Accounted channel connection' := by
  have none_there : ∀other i,serviceId=other → id=i →
      (s'.hub.subscriber other i).filter (·.channel=channel)=none := by
    intro other i service number
    subst service
    subst number
    apply Option.filter_eq_none_iff.mpr
    intro subscriber known own
    exact gone subscriber known (of_decide_eq_true own)
  have after := subscriberOf_eq there'
  rw [letGo.same.serviceId,letGo.same.subscriberId] at after
  apply (kept.accounted channel connection there).carry letGo.same published
  rcases letGo.leftover with ⟨leftover,apart⟩|⟨subscriber,known,own,leftover⟩
  · refine .inl ⟨?_,leftover⟩
    rw [after,subscriberOf_eq there]
    by_cases key : serviceId=connection.serviceId ∧ id=connection.subscriberId
    · rw [none_there _ _ key.1 key.2,← key.1,← key.2]
      symm
      apply Option.filter_eq_none_iff.mpr
      intro subscriber here own
      exact apart subscriber here (of_decide_eq_true own)
    · rw [others _ _ key]
  · obtain ⟨-,-,other,is,service,number,-⟩ := kept.owner serviceId id subscriber known
    rw [own,there] at is
    cases is
    refine .inr ⟨?_,?_⟩
    · rw [after]
      exact none_there _ _ service.symm number.symm
    · have held : s.subscriberOf channel=some subscriber := by
        rw [subscriberOf_some there]
        exact ⟨by rw [service,number]; exact known,own⟩
      rw [leftover,queued_some held]

theorem le_next (small : s.hub.nextSubscriberId ≤ U64.top) :
    s.hub.nextSubscriberId ≤ U64.saturatingAdd s.hub.nextSubscriberId 1 :=
  Nat.le_min.mpr ⟨Nat.le_succ _,small⟩

theorem next_le : U64.saturatingAdd s.hub.nextSubscriberId 1 ≤ s.hub.nextSubscriberId+1 :=
  Nat.min_le_left ..

/-- A refused subscription keeps every account. -/
theorem Kept.refused (kept : Kept s) :
    Kept { s with
      hub := { s.hub with nextSubscriberId := U64.saturatingAdd s.hub.nextSubscriberId 1 }
      asked := s.asked+1 } := by
  let t : LiveLogRun := { s with
    hub := { s.hub with nextSubscriberId := U64.saturatingAdd s.hub.nextSubscriberId 1 }
    asked := s.asked+1 }
  have same (channel : Nat) : t.subscriberOf channel=s.subscriberOf channel :=
    subscriberOf_congr rfl fun _ _ => rfl
  refine ⟨fun other id subscriber here => ?_,Nat.min_le_right ..,?_,kept.since,
    fun channel connection there => ?_,fun few channel connection there isOpen => ?_⟩
  · obtain ⟨low,rest⟩ := kept.owner other id subscriber here
    exact ⟨low.trans (le_next kept.small),rest⟩
  · exact next_le.trans (Nat.succ_le_succ kept.ids)
  · exact (kept.accounted channel connection there).carry ⟨rfl,rfl,rfl,rfl,rfl,rfl⟩ rfl
      (.inl ⟨same channel,rfl⟩)
  · have asked : s.asked ≤ U64.top := Nat.le_of_succ_le few
    show ∃subscriber,t.subscriberOf channel=some subscriber
    rw [same]
    exact kept.attached asked channel connection there isOpen

/-- The run after a subscription was accepted. -/
def joined (s : LiveLogRun) (serviceId : String) (service : LiveServiceState)
    (selection : LiveLogSelection) (initial : List LiveLogEvent) : LiveLogRun :=
  let id := U64.saturatingAdd s.hub.nextSubscriberId 1
  { s with
    hub := { s.hub with
      nextSubscriberId := id
      services := s.hub.services.insert serviceId { service with
        subscribers := service.subscribers.insert id
          ⟨selection,s.connections.length,[],true,0⟩ } }
    asked := s.asked+1
    connections := s.orphan serviceId id++
      [⟨serviceId,id,selection,initial,[],[],true,s.published.length,s.hub.nextSequence⟩] }

section JoinedConnections

variable (s) (serviceId : String) (service : LiveServiceState) (selection : LiveLogSelection)
  (initial : List LiveLogEvent)

theorem length_joined : (s.joined serviceId service selection initial).connections.length=
    s.connections.length+1 := by
  rw [← s.length_orphan serviceId (U64.saturatingAdd s.hub.nextSubscriberId 1)]
  exact List.length_append

/-- A subscription from before. -/
theorem joined_old (channel : Nat) (short : channel < s.connections.length) :
    (s.joined serviceId service selection initial).connections[channel]?=
      s.connections[channel]?.map (s.released serviceId
        (U64.saturatingAdd s.hub.nextSubscriberId 1) channel) := by
  rw [← s.orphan_getElem?]
  exact List.getElem?_append_left (by rw [length_orphan]; exact short)

theorem joined_new :
    (s.joined serviceId service selection initial).connections[s.connections.length]?=
      some ⟨serviceId,U64.saturatingAdd s.hub.nextSubscriberId 1,selection,initial,[],[],true,
        s.published.length,s.hub.nextSequence⟩ := by
  rw [← s.length_orphan serviceId (U64.saturatingAdd s.hub.nextSubscriberId 1)]
  exact List.getElem?_concat_length ..

end JoinedConnections

theorem subscribe_cases (s : LiveLogRun) (serviceId : String) (selection : LiveLogSelection)
    (tail : Nat) (cursor : Option LiveLogCursor) (now : Nat) :
    s.subscribe serviceId selection tail cursor now={ s with
        hub := { s.hub with nextSubscriberId := U64.saturatingAdd s.hub.nextSubscriberId 1 }
        asked := s.asked+1 } ∨
      ∃service,s.hub.services[serviceId]?=some service ∧
        s.subscribe serviceId selection tail cursor now=s.joined serviceId service selection
          (s.hub.replay service serviceId selection (min tail maxTailLines) cursor now) := by
  rcases s.hub.storeSubscribe_cases serviceId selection tail cursor s.connections.length now with
    ⟨error,answer⟩|⟨service,state,there,rfl,answer⟩
  · left
    rw [subscribe,answer]
  · right
    refine ⟨service,there,?_⟩
    rw [subscribe,answer]
    rfl

section Joined

variable {service : LiveServiceState} (there : s.hub.services[serviceId]?=some service)
  (selection : LiveLogSelection) (initial : List LiveLogEvent)

include there

theorem subscriber_joined (other : String) (i : Nat) :
    (s.joined serviceId service selection initial).hub.subscriber other i=
      if serviceId=other ∧ U64.saturatingAdd s.hub.nextSubscriberId 1=i then
        some ⟨selection,s.connections.length,[],true,0⟩
      else s.hub.subscriber other i := by
  rw [s.hub.subscriber_replaced serviceId _ _ rfl]
  by_cases here : serviceId=other
  · rw [if_pos here,FifoStore.lookup_insert,← here,s.hub.subscriber_of_service serviceId there]
    simp only [true_and]
  · rw [if_neg here,if_neg fun both => here both.1]

/-- A new subscription starts with an empty account, and the others keep theirs. -/
theorem Kept.joined (kept : Kept s) :
    Kept (s.joined serviceId service selection initial) := by
  have hub := subscriber_joined there selection initial
  have old {channel : Nat} (short : channel < s.connections.length) :=
    s.joined_old serviceId service selection initial channel short
  have new := s.joined_new serviceId service selection initial
  have before {channel : Nat} {connection' : LiveLogConnection}
      (is : (s.joined serviceId service selection initial).connections[channel]?=
        some connection') :
      (∃connection,s.connections[channel]?=some connection ∧ connection'=s.released serviceId
          (U64.saturatingAdd s.hub.nextSubscriberId 1) channel connection) ∨
        channel=s.connections.length := by
    have bound := (List.getElem?_eq_some_iff.mp is).1
    have total := s.length_joined serviceId service selection initial
    rcases Nat.lt_or_ge channel s.connections.length with short|long
    · rw [old short] at is
      obtain ⟨connection,was,become⟩ := Option.map_eq_some_iff.mp is
      exact .inl ⟨connection,was,become.symm⟩
    · exact .inr (by omega)
  have started : (s.joined serviceId service selection initial).subscriberOf s.connections.length=
      some ⟨selection,s.connections.length,[],true,0⟩ := by
    rw [subscriberOf_some new]
    refine ⟨?_,rfl⟩
    rw [hub,if_pos ⟨rfl,rfl⟩]
  refine ⟨fun other i subscriber here => ?_,Nat.min_le_right ..,?_,fun connection' mem => ?_,
    fun channel connection' is => ?_,fun few channel connection' is isOpen => ?_⟩
  · rw [hub] at here
    split_ifs at here with key
    · cases here
      obtain ⟨rfl,rfl⟩ := key
      exact ⟨Nat.le_refl _,rfl,_,new,rfl,rfl,rfl⟩
    · obtain ⟨low,connected,connection,is,own,number,wants⟩ := kept.owner other i subscriber here
      have short := (List.getElem?_eq_some_iff.mp is).1
      have same := (s.letGo_released serviceId (U64.saturatingAdd s.hub.nextSubscriberId 1)
        subscriber.channel connection).same
      refine ⟨low.trans (le_next kept.small),connected,_,?_,same.serviceId.trans own,
        same.subscriberId.trans number,same.selection.trans wants⟩
      rw [old short,is]
      rfl
  · exact next_le.trans (Nat.succ_le_succ kept.ids)
  · obtain ⟨channel,is⟩ := List.mem_iff_getElem?.mp mem
    rcases before is with ⟨connection,was,rfl⟩|rfl
    · have same := (s.letGo_released serviceId (U64.saturatingAdd s.hub.nextSubscriberId 1)
        channel connection).same
      rw [same.since]
      exact kept.since connection (List.mem_of_getElem? was)
    · rw [new] at is
      cases is
      exact Nat.le_refl _
  · rcases before is with ⟨connection,was,rfl⟩|rfl
    · have short := (List.getElem?_eq_some_iff.mp was).1
      apply kept.letGo was (s.letGo_released _ _ channel connection) is rfl
      · intro other i apart
        rw [hub,if_neg apart]
      · intro subscriber here
        rw [hub,if_pos ⟨rfl,rfl⟩] at here
        cases here
        exact Nat.ne_of_gt short
    · rw [new] at is
      cases is
      refine ⟨[],[],0,?_,?_,fun subscriber held => ?_⟩
      · show List.filter _ (s.published.drop s.published.length)=[]
        rw [List.drop_length,List.filter_nil]
      · rw [queued_some started]
        exact .start
      · rw [started] at held
        cases held
        exact ⟨rfl,rfl⟩
  · have asked : s.asked ≤ U64.top := Nat.le_of_succ_le few
    rcases before is with ⟨connection,was,rfl⟩|rfl
    · rw [released_isOpen] at isOpen
      obtain ⟨subscriber,held⟩ := kept.attached asked channel connection was isOpen
      have same := (s.letGo_released serviceId (U64.saturatingAdd s.hub.nextSubscriberId 1)
        channel connection).same
      obtain ⟨known,own⟩ := (subscriberOf_some was subscriber).mp held
      -- the new ID is beyond those given out
      have low := (kept.owner _ _ _ known).1
      have ids := kept.ids
      have next : U64.saturatingAdd s.hub.nextSubscriberId 1=s.hub.nextSubscriberId+1 :=
        Nat.min_eq_left (by have succ : s.asked+1 ≤ U64.top := few; omega)
      refine ⟨subscriber,(subscriberOf_some is subscriber).mpr ⟨?_,own⟩⟩
      rw [hub,same.serviceId,same.subscriberId,if_neg]
      · exact known
      · intro both
        have number := both.2
        omega
    · exact ⟨_,started⟩

end Joined

theorem Kept.subscribe (kept : Kept s) (serviceId : String) (selection : LiveLogSelection)
    (tail : Nat) (cursor : Option LiveLogCursor) (now : Nat) :
    Kept (s.subscribe serviceId selection tail cursor now) := by
  rcases s.subscribe_cases serviceId selection tail cursor now with refused|⟨service,there,joined⟩
  · rw [refused]
    exact kept.refused
  · rw [joined]
    exact kept.joined there selection _

/-- The run after a viewer took the next event of a queue that the hub has. -/
def taken (s : LiveLogRun) (channel : Nat) (connection : LiveLogConnection)
    (subscriber : LiveSubscriber) (event : LiveLogEvent) : LiveLogRun :=
  { s with
    hub := s.hub.setSubscriber connection.serviceId connection.subscriberId subscriber
    connections := s.connections.set channel
      { connection with received := connection.received++[event] } }

theorem Kept.taken (kept : Kept s) (there : s.connections[channel]?=some connection)
    {subscriber : LiveSubscriber} {event : LiveLogEvent} {queue : List LiveLogEvent}
    (held : s.subscriberOf channel=some subscriber) (waits : subscriber.queue=event::queue) :
    Kept (s.taken channel connection { subscriber with queue } event) := by
  obtain ⟨known,own⟩ := (subscriberOf_some there subscriber).mp held
  have hub := s.hub.subscriber_setSubscriber connection.serviceId connection.subscriberId
    subscriber { subscriber with queue } known
  have next : (s.taken channel connection { subscriber with queue } event).hub.nextSubscriberId=
      s.hub.nextSubscriberId := by
    unfold LiveLogRun.taken LiveLogHub.setSubscriber
    cases s.hub.services[connection.serviceId]? <;> rfl
  have short := (List.getElem?_eq_some_iff.mp there).1
  have here : (s.taken channel connection { subscriber with queue } event).connections[channel]?=
      some { connection with received := connection.received++[event] } :=
    List.getElem?_set_self short
  have other {c : Nat} (apart : channel≠c) :
      (s.taken channel connection { subscriber with queue } event).connections[c]?=
        s.connections[c]? := List.getElem?_set_ne apart
  have after : (s.taken channel connection { subscriber with queue } event).subscriberOf channel=
      some { subscriber with queue } := by
    rw [subscriberOf_some here]
    refine ⟨?_,own⟩
    show (s.hub.setSubscriber _ _ _).subscriber _ _=_
    rw [hub,if_pos ⟨rfl,rfl⟩]
  have same {c : Nat} (apart : channel≠c) {connection' : LiveLogConnection}
      (is : s.connections[c]?=some connection') :
      (s.taken channel connection { subscriber with queue } event).subscriberOf c=
        s.subscriberOf c := by
    rw [subscriberOf_eq is,subscriberOf_eq ((other apart).trans is)]
    show Option.filter _ ((s.hub.setSubscriber _ _ _).subscriber _ _)=_
    rw [hub]
    split_ifs with key
    · rw [← key.1,← key.2,known]
      have mine : ¬subscriber.channel=c := fun same => apart (own.symm.trans same)
      rw [Option.filter_some_neg (by simpa using mine),Option.filter_some_neg (by simpa using mine)]
    · rfl
  refine ⟨fun service id found is => ?_,?_,?_,fun connection' mem => ?_,
    fun c connection' is => ?_,fun few c connection' is isOpen => ?_⟩
  · have is : (s.hub.setSubscriber connection.serviceId connection.subscriberId
      { subscriber with queue }).subscriber service id=some found := is
    rw [hub] at is
    rw [next]
    have keeps (found : LiveSubscriber) (owner : id ≤ s.hub.nextSubscriberId ∧
        found.connected=true ∧ ∃connection,s.connections[found.channel]?=some connection ∧
          connection.serviceId=service ∧ connection.subscriberId=id ∧
          connection.selection=found.selection) :
        id ≤ s.hub.nextSubscriberId ∧ found.connected=true ∧ ∃connection',
          (s.taken channel connection { subscriber with queue } event).connections[found.channel]?=
            some connection' ∧ connection'.serviceId=service ∧ connection'.subscriberId=id ∧
          connection'.selection=found.selection := by
      obtain ⟨low,connected,old,was,rest⟩ := owner
      refine ⟨low,connected,?_⟩
      by_cases mine : channel=found.channel
      · rw [← mine,there] at was
        cases was
        rw [← mine]
        exact ⟨_,here,rest⟩
      · exact ⟨old,(other mine).trans was,rest⟩
    split_ifs at is with key
    · cases is
      obtain ⟨rfl,rfl⟩ := key
      exact keeps { subscriber with queue } (kept.owner _ _ subscriber known)
    · exact keeps found (kept.owner service id found is)
  · rw [next]
    exact kept.small
  · rw [next]
    exact kept.ids
  · rcases List.mem_or_eq_of_mem_set mem with old|rfl
    · exact kept.since connection' old
    · exact kept.since connection (List.mem_of_getElem? there)
  · by_cases mine : channel=c
    · subst mine
      rw [here] at is
      cases is
      obtain ⟨offered,rest,lost,split,ledger,dropped⟩ := kept.accounted channel connection there
      refine ⟨offered,rest,lost,split,?_,fun found is => ?_⟩
      · rw [queued_some after]
        rw [queued_some held,waits] at ledger
        show QueueLedger offered (connection.received++[event]++queue) lost
        rwa [← List.append_cons]
      · rw [after] at is
        cases is
        exact dropped subscriber held
    · rw [other mine] at is
      exact (kept.accounted c connection' is).carry ⟨rfl,rfl,rfl,rfl,rfl,rfl⟩ rfl
        (.inl ⟨same mine is,rfl⟩)
  · by_cases mine : channel=c
    · subst mine
      exact ⟨_,after⟩
    · rw [other mine] at is
      rw [same mine is]
      exact kept.attached few c connection' is isOpen

/-- The run after a viewer took the next event of a queue that the hub has let go of. -/
def takenLeft (s : LiveLogRun) (channel : Nat) (connection : LiveLogConnection)
    (event : LiveLogEvent) (leftover : List LiveLogEvent) : LiveLogRun :=
  { s with
    connections := s.connections.set channel
      { connection with received := connection.received++[event],leftover } }

theorem Kept.takenLeft (kept : Kept s) (there : s.connections[channel]?=some connection)
    {event : LiveLogEvent} {leftover : List LiveLogEvent}
    (gone : s.subscriberOf channel=none) (waits : connection.leftover=event::leftover) :
    Kept (s.takenLeft channel connection event leftover) := by
  have short := (List.getElem?_eq_some_iff.mp there).1
  have here : (s.takenLeft channel connection event leftover).connections[channel]?=
      some { connection with received := connection.received++[event],leftover } :=
    List.getElem?_set_self short
  have other {c : Nat} (apart : channel≠c) :
      (s.takenLeft channel connection event leftover).connections[c]?=s.connections[c]? :=
    List.getElem?_set_ne apart
  have same (c : Nat) :
      (s.takenLeft channel connection event leftover).subscriberOf c=s.subscriberOf c := by
    by_cases mine : channel=c
    · subst mine
      rw [subscriberOf_eq here,subscriberOf_eq there]
      rfl
    · cases is : s.connections[c]? with
      | none =>
        rw [subscriberOf,subscriberOf,other mine,is]
        rfl
      | some connection' =>
        rw [subscriberOf_eq is,subscriberOf_eq ((other mine).trans is)]
        rfl
  refine ⟨fun service id found is => ?_,kept.small,kept.ids,fun connection' mem => ?_,
    fun c connection' is => ?_,fun few c connection' is isOpen => ?_⟩
  · obtain ⟨low,connected,old,was,rest⟩ := kept.owner service id found is
    refine ⟨low,connected,?_⟩
    by_cases mine : channel=found.channel
    · rw [← mine,there] at was
      cases was
      rw [← mine]
      exact ⟨_,here,rest⟩
    · exact ⟨old,(other mine).trans was,rest⟩
  · rcases List.mem_or_eq_of_mem_set mem with old|rfl
    · exact kept.since connection' old
    · exact kept.since connection (List.mem_of_getElem? there)
  · by_cases mine : channel=c
    · subst mine
      rw [here] at is
      cases is
      obtain ⟨offered,rest,lost,split,ledger,-⟩ := kept.accounted channel connection there
      refine ⟨offered,rest,lost,split,?_,fun found is => ?_⟩
      · rw [queued_none ((same channel).trans gone)]
        rw [queued_none gone,waits] at ledger
        show QueueLedger offered (connection.received++[event]++leftover) lost
        rwa [← List.append_cons]
      · rw [same,gone] at is
        cases is
    · rw [other mine] at is
      exact (kept.accounted c connection' is).carry ⟨rfl,rfl,rfl,rfl,rfl,rfl⟩ rfl
        (.inl ⟨same c,rfl⟩)
  · rw [same]
    by_cases mine : channel=c
    · subst mine
      rw [here] at is
      cases is
      exact kept.attached few channel connection there isOpen
    · rw [other mine] at is
      exact kept.attached few c connection' is isOpen

theorem Kept.receive (kept : Kept s) (there : s.connections[channel]?=some connection) :
    Kept (s.receive channel connection) := by
  cases held : s.subscriberOf channel with
  | some subscriber =>
    cases waits : subscriber.queue with
    | nil =>
      have same : s.receive channel connection=s := by simp only [LiveLogRun.receive,held,waits]
      rw [same]
      exact kept
    | cons event queue =>
      have same : s.receive channel connection=
          s.taken channel connection { subscriber with queue } event := by
        simp only [LiveLogRun.receive,held,waits]
        rfl
      rw [same]
      exact kept.taken there held waits
  | none =>
    cases waits : connection.leftover with
    | nil =>
      have same : s.receive channel connection=s := by simp only [LiveLogRun.receive,held,waits]
      rw [same]
      exact kept
    | cons event leftover =>
      have same : s.receive channel connection=
          s.takenLeft channel connection event leftover := by
        simp only [LiveLogRun.receive,held,waits]
        rfl
      rw [same]
      exact kept.takenLeft there held waits

/-- A viewer that goes leaves every account as it is, its own included. -/
theorem Kept.drop (kept : Kept s) (there : s.connections[channel]?=some connection)
    (isOpen : connection.isOpen=true) : Kept (s.drop channel connection) := by
  have hub := s.hub.subscriber_unsubscribe connection.serviceId connection.subscriberId
  have next : (s.drop channel connection).hub.nextSubscriberId=s.hub.nextSubscriberId := by
    unfold LiveLogRun.drop LiveLogHub.unsubscribe
    cases s.hub.services[connection.serviceId]? <;> rfl
  let closed (c : Nat) (connection' : LiveLogConnection) : LiveLogConnection :=
    if channel=c then { connection' with isOpen := false } else connection'
  have became (c : Nat) : (s.drop channel connection).connections[c]?=s.connections[c]?.map
      fun connection' => closed c
        (s.released connection.serviceId connection.subscriberId c connection') := by
    show (List.modify _ channel _)[c]?=_
    rw [List.getElem?_modify,orphan_getElem?]
    cases s.connections[c]? with
    | none => rfl
    | some connection' => rfl
  have letGo (c : Nat) (connection' : LiveLogConnection) :
      s.LetGo connection.serviceId connection.subscriberId c connection'
        (closed c (s.released connection.serviceId connection.subscriberId c connection')) := by
    obtain ⟨same,leftover⟩ :=
      s.letGo_released connection.serviceId connection.subscriberId c connection'
    show s.LetGo _ _ c connection' (if channel=c then _ else _)
    split_ifs
    · exact ⟨⟨same.serviceId,same.subscriberId,same.selection,same.initial,same.received,
        same.since⟩,leftover⟩
    · exact ⟨same,leftover⟩
  refine ⟨fun service id found is => ?_,?_,?_,fun connection' mem => ?_,
    fun c connection' is => ?_,fun few c connection' is stillOpen => ?_⟩
  · have is : (s.hub.unsubscribe connection.serviceId connection.subscriberId).subscriber service
      id=some found := is
    rw [hub] at is
    split_ifs at is with key
    obtain ⟨low,connected,old,was,own,number,wants⟩ := kept.owner service id found is
    have same := (letGo found.channel old).same
    rw [next]
    refine ⟨low,connected,_,?_,same.serviceId.trans own,same.subscriberId.trans number,
      same.selection.trans wants⟩
    rw [became,was]
    rfl
  · rw [next]
    exact kept.small
  · rw [next]
    exact kept.ids
  · obtain ⟨c,is⟩ := List.mem_iff_getElem?.mp mem
    rw [became] at is
    obtain ⟨old,was,rfl⟩ := Option.map_eq_some_iff.mp is
    rw [(letGo c old).same.since]
    exact kept.since old (List.mem_of_getElem? was)
  · have is' := is
    rw [became] at is'
    obtain ⟨old,was,rfl⟩ := Option.map_eq_some_iff.mp is'
    apply kept.letGo was (letGo c old) is rfl
    · intro service id apart
      show (s.hub.unsubscribe _ _).subscriber service id=_
      rw [hub,if_neg apart]
    · intro subscriber found
      have found : (s.hub.unsubscribe connection.serviceId connection.subscriberId).subscriber
        connection.serviceId connection.subscriberId=some subscriber := found
      rw [hub,if_pos ⟨rfl,rfl⟩] at found
      cases found
  · have is' := is
    rw [became] at is'
    obtain ⟨old,was,rfl⟩ := Option.map_eq_some_iff.mp is'
    have apart : channel≠c := by
      intro mine
      have shut : (closed c (s.released connection.serviceId connection.subscriberId c old)).isOpen=
        false := by
        show (if channel=c then _ else _ : LiveLogConnection).isOpen=false
        rw [if_pos mine]
      rw [shut] at stillOpen
      cases stillOpen
    have wasOpen : old.isOpen=true := by
      have same : closed c (s.released connection.serviceId connection.subscriberId c old)=
        s.released connection.serviceId connection.subscriberId c old := if_neg apart
      rw [same,released_isOpen] at stillOpen
      exact stillOpen
    -- both queues are with the hub, so they have different IDs
    obtain ⟨subscriber,held⟩ := kept.attached few c old was wasOpen
    obtain ⟨other,held'⟩ := kept.attached few channel connection there isOpen
    obtain ⟨known,own⟩ := (subscriberOf_some was subscriber).mp held
    obtain ⟨known',own'⟩ := (subscriberOf_some there other).mp held'
    refine ⟨subscriber,(subscriberOf_some is subscriber).mpr ⟨?_,own⟩⟩
    rw [(letGo c old).same.serviceId,(letGo c old).same.subscriberId]
    show (s.hub.unsubscribe _ _).subscriber _ _=_
    rw [hub,if_neg]
    · exact known
    · intro key
      rw [key.1,key.2,known] at known'
      cases known'
      exact apart (own'.symm.trans own)

/-- A line more is published by each move at most. -/
def Few (s : LiveLogRun) : Prop := s.published.length ≤ U64.top

theorem kept_step : Run.Keeps advance (fun s move => Few (advance move s)) Kept := by
  intro s move kept few
  cases move with
  | publish serviceId stream bytes =>
    rw [advance]
    split_ifs
    · exact kept.takeLines ..
    · exact kept
  | closeStream serviceId stream =>
    rw [advance]
    split_ifs
    · exact kept.takeLines ..
    · exact kept
  | emit now gapTimes => exact kept.emit now gapTimes few
  | subscribe serviceId selection tail cursor now =>
    rw [advance]
    split_ifs
    · exact kept.subscribe ..
    · exact kept
  | receive channel =>
    rw [advance]
    cases there : s.connections[channel]? with
    | none => exact kept
    | some connection =>
      simp only
      split_ifs
      · exact kept.receive there
      · exact kept
  | drop channel =>
    rw [advance]
    cases there : s.connections[channel]? with
    | none => exact kept
    | some connection =>
      simp only
      split_ifs with both
      · exact kept.drop there both.1
      · exact kept

theorem replay_subscribers (instanceId serviceId : String) (lines : List PreloadedLine) (now : Nat)
    (state : LiveServiceState × Nat) (none : state.1.subscribers=∅) :
    (lines.foldl (fun (service,sequence) line =>
      let sequence := U64.saturatingAdd sequence 1
      (service.pushRing (.replayedLine instanceId serviceId line.stream sequence line.text
        line.sourceModifiedAtUnixMs now),sequence)) state).1.subscribers=∅ := by
  induction lines generalizing state with
  | nil => exact none
  | cons line lines ih => exact ih _ none

/-- A service that has just been added has no subscribers. -/
theorem preload_subscribers (hub : LiveLogHub) (serviceId : String) (lines : List PreloadedLine)
    (now : Nat) : (hub.preload serviceId lines now).1.subscribers=∅ :=
  replay_subscribers hub.instanceId serviceId lines now _ rfl

/-- A hub that only adds services has no subscribers and gives no IDs. -/
theorem reconcile_quiet (services : List (String × List PreloadedLine)) (now : Nat)
    (hub : LiveLogHub) (nobody : ∀serviceId id,hub.subscriber serviceId id=none) :
    (∀serviceId id,(services.foldl (fun hub (serviceId,lines) =>
        hub.reconcileService serviceId lines now) hub).subscriber serviceId id=none) ∧
      (services.foldl (fun hub (serviceId,lines) =>
        hub.reconcileService serviceId lines now) hub).nextSubscriberId=hub.nextSubscriberId := by
  induction services generalizing hub with
  | nil => exact ⟨nobody,rfl⟩
  | cons service services ih =>
    obtain ⟨added,lines⟩ := service
    have same : (hub.reconcileService added lines now).nextSubscriberId=hub.nextSubscriberId := by
      unfold LiveLogHub.reconcileService
      split_ifs <;> rfl
    have quiet (other : String) (i : Nat) :
        (hub.reconcileService added lines now).subscriber other i=none := by
      unfold LiveLogHub.reconcileService
      split_ifs with there
      · exact nobody other i
      · rw [hub.subscriber_replaced added _ _ rfl,preload_subscribers]
        split_ifs
        · rfl
        · exact nobody other i
    obtain ⟨none_there,ids⟩ := ih _ quiet
    exact ⟨none_there,ids.trans same⟩

theorem start_kept (instanceId : String) (services : List (String × List PreloadedLine))
    (now : Nat) : Kept (start instanceId services now) := by
  have empty (other : String) (i : Nat) :
      ({ LiveLogHub.new instanceId with
        services := (LiveLogHub.new instanceId).services.filter fun serviceId _ =>
          services.any (·.1=serviceId) } : LiveLogHub).subscriber other i=none := by
    rw [LiveLogHub.subscriber,Std.ExtTreeMap.getElem?_filter]
    rfl
  obtain ⟨nobody,fresh⟩ := reconcile_quiet services now _ empty
  refine ⟨fun serviceId id subscriber known => ?_,?_,?_,fun connection mem => ?_,
    fun channel connection there => ?_,fun few channel connection there => ?_⟩
  · have known := (nobody serviceId id).symm.trans known
    cases known
  · exact fresh.le.trans (Nat.zero_le _)
  · exact fresh.le.trans (Nat.zero_le _)
  · cases mem
  · cases there
  · cases there

/-- What a subscription got of the ring is a part of what was pushed before it. -/
def Replays (loaded : List LiveLogEvent) (s : LiveLogRun) : Prop :=
  ∀connection∈s.connections,
    List.Sublist (logLines connection.initial) (loaded++s.published.take connection.since)

variable {loaded : List LiveLogEvent}

theorem Replays.same (replays : Replays loaded s) (published : s'.published=s.published)
    (connections : ∀connection'∈s'.connections,∃connection∈s.connections,
      connection'.initial=connection.initial ∧ connection'.since=connection.since) :
    Replays loaded s' := by
  intro connection' mem
  obtain ⟨connection,was,initial,since⟩ := connections connection' mem
  rw [published,initial,since]
  exact replays connection was

theorem Replays.emit (replays : Replays loaded s) (kept : Kept s) (now : Nat)
    (gapTimes : Nat → Nat) : Replays loaded (s.emit now gapTimes) := by
  unfold LiveLogRun.emit
  cases s.waiting with
  | nil => exact replays
  | cons line waiting =>
    intro connection mem
    show List.Sublist _ (loaded++(s.published++[_]).take connection.since)
    rw [List.take_append_of_le_length (kept.since connection mem)]
    exact replays connection mem

theorem sublist_filter_drop (events : List LiveLogEvent) (n : Nat) (keep : LiveLogEvent → Bool) :
    List.Sublist (logLines ((events.filter keep).drop n)) events :=
  (List.filter_sublist.trans (List.drop_sublist _ _)).trans List.filter_sublist

/-- The lines of a replay are lines of the ring, in their order. -/
theorem replay_sublist (hub : LiveLogHub) (service : LiveServiceState) (serviceId : String)
    (selection : LiveLogSelection) (tail : Nat) (cursor : Option LiveLogCursor) (now : Nat) :
    List.Sublist (logLines (hub.replay service serviceId selection tail cursor now))
      service.ring := by
  cases cursor with
  | none => exact sublist_filter_drop service.ring _ _
  | some cursor =>
    simp only [LiveLogHub.replay]
    split_ifs
    · exact (List.filter_sublist.trans List.filter_sublist).trans List.filter_sublist
    · exact sublist_filter_drop service.ring _ _

theorem Replays.subscribe (replays : Replays loaded s) (rings : Rings loaded s)
    (serviceId : String) (selection : LiveLogSelection) (tail : Nat)
    (cursor : Option LiveLogCursor) (now : Nat) :
    Replays loaded (s.subscribe serviceId selection tail cursor now) := by
  rcases s.subscribe_cases serviceId selection tail cursor now with refused|⟨service,there,joined⟩
  · rw [refused]
    exact replays
  · rw [joined]
    intro connection' mem
    rcases List.mem_append.mp mem with old|new
    · obtain ⟨channel,is⟩ := List.mem_iff_getElem?.mp old
      rw [orphan_getElem?] at is
      obtain ⟨connection,was,rfl⟩ := Option.map_eq_some_iff.mp is
      have same := (s.letGo_released serviceId (U64.saturatingAdd s.hub.nextSubscriberId 1)
        channel connection).same
      rw [same.initial,same.since]
      exact replays connection (List.mem_of_getElem? was)
    · rw [List.mem_singleton.mp new]
      show List.Sublist (logLines (s.hub.replay service serviceId selection _ cursor now))
        (loaded++s.published.take s.published.length)
      rw [List.take_length]
      have ring := (rings.hub.rings serviceId service there).longest.suffix.sublist
      exact ((replay_sublist ..).trans ring).trans List.filter_sublist

theorem Replays.receive (replays : Replays loaded s)
    (there : s.connections[channel]?=some connection) :
    Replays loaded (s.receive channel connection) := by
  have mem := List.mem_of_getElem? there
  have set (changed : LiveLogConnection) (initial : changed.initial=connection.initial)
      (since : changed.since=connection.since) :
      ∀connection'∈s.connections.set channel changed,∃old∈s.connections,
        connection'.initial=old.initial ∧ connection'.since=old.since := by
    intro connection' inside
    rcases List.mem_or_eq_of_mem_set inside with old|rfl
    · exact ⟨connection',old,rfl,rfl⟩
    · exact ⟨connection,mem,initial,since⟩
  unfold LiveLogRun.receive
  cases s.subscriberOf channel with
  | some subscriber =>
    simp only
    cases subscriber.queue with
    | nil => exact replays
    | cons event queue => exact replays.same rfl (set _ rfl rfl)
  | none =>
    cases connection.leftover with
    | nil => exact replays
    | cons event leftover => exact replays.same rfl (set _ rfl rfl)

theorem Replays.drop (replays : Replays loaded s) (channel : Nat)
    (connection : LiveLogConnection) : Replays loaded (s.drop channel connection) := by
  refine @Replays.same s (s.drop channel connection) loaded replays rfl fun connection' mem => ?_
  obtain ⟨c,is⟩ := List.mem_iff_getElem?.mp mem
  have is : ((s.orphan connection.serviceId connection.subscriberId).modify channel
    fun connection => { connection with isOpen := false })[c]?=some connection' := is
  rw [List.getElem?_modify,orphan_getElem?] at is
  obtain ⟨released,become,rfl⟩ := Option.map_eq_some_iff.mp is
  obtain ⟨old,was,rfl⟩ := Option.map_eq_some_iff.mp become
  have same := (s.letGo_released connection.serviceId connection.subscriberId c old).same
  refine ⟨old,List.mem_of_getElem? was,?_⟩
  split_ifs
  · exact ⟨same.initial,same.since⟩
  · exact ⟨same.initial,same.since⟩

/-- All that holds of the subscriptions in every state of a run. -/
structure Delivers (loaded : List LiveLogEvent) (s : LiveLogRun) : Prop where
  rings : Rings loaded s
  kept : Kept s
  replays : Replays loaded s

theorem delivers_step : Run.Keeps advance (fun s move => (advance move s).numbered ≤ U64.top)
    (Delivers loaded) := by
  intro s move delivers room
  obtain ⟨rings,kept,replays⟩ := delivers
  have next := rings_step s move rings room
  have few : Few (advance move s) := by
    have counted := next.counted
    rw [List.length_append] at counted
    show (advance move s).published.length ≤ U64.top
    omega
  refine ⟨next,kept_step s move kept few,?_⟩
  cases move with
  | publish serviceId stream bytes =>
    rw [advance]
    split_ifs <;> exact replays
  | closeStream serviceId stream =>
    rw [advance]
    split_ifs <;> exact replays
  | emit now gapTimes => exact replays.emit kept now gapTimes
  | subscribe serviceId selection tail cursor now =>
    rw [advance]
    split_ifs
    · exact replays.subscribe rings serviceId selection tail cursor now
    · exact replays
  | receive channel =>
    rw [advance]
    cases there : s.connections[channel]? with
    | none => exact replays
    | some connection =>
      simp only
      split_ifs
      · exact replays.receive there
      · exact replays
  | drop channel =>
    rw [advance]
    cases there : s.connections[channel]? with
    | none => exact replays
    | some connection =>
      simp only
      split_ifs
      · exact replays.drop channel connection
      · exact replays

theorem start_delivers (instanceId : String) (services : List (String × List PreloadedLine))
    (now : Nat) (distinct : (services.map (·.1)).Nodup)
    (few : (services.flatMap (·.2)).length ≤ U64.top) :
    Delivers (loadedEvents instanceId now 0 services) (start instanceId services now) :=
  ⟨start_rings instanceId services now distinct few,start_kept instanceId services now,
    fun _ mem => absurd mem List.not_mem_nil⟩

section Told

variable {matching events told : List LiveLogEvent} {entries : List (Told LiveLogEvent)}

theorem logLines_tells (tells : List.Forall₂ Tells events entries) :
    logLines events=items entries ∧ gapSum events=gapTotal entries := by
  induction tells with
  | nil => exact ⟨rfl,rfl⟩
  | @cons event entry events entries first rest ih =>
    obtain ⟨lines,gaps⟩ := ih
    cases first with
    | line line =>
      have kind : event.kind=.line := of_decide_eq_true line
      refine ⟨?_,?_⟩
      · rw [logLines,List.filter_cons_of_pos line,items_item]
        exact congrArg _ lines
      · show (if event.kind=.gap then _ else 0)+gapSum _=_
        rw [kind,gaps]
        exact Nat.zero_add _
    | gap next lost kind dropped sequence hub =>
      have other : ¬event.isLine=true := by
        rw [LiveLogEvent.isLine,kind]
        decide
      refine ⟨?_,?_⟩
      · rw [logLines,List.filter_cons_of_neg other,items_gap]
        exact lines
      · show (if event.kind=.gap then _ else 0)+gapSum _=_
        rw [if_pos kind,dropped,gaps]
        rfl

theorem forall₂_split {α β : Type} {R : α → β → Prop} {before after : List α} {x : α}
    {l : List β} (related : List.Forall₂ R (before++x::after) l) :
    ∃front y back,l=front++y::back ∧ List.Forall₂ R before front ∧ R x y ∧
      List.Forall₂ R after back := by
  induction before generalizing l with
  | nil =>
    cases related with
    | cons first rest => exact ⟨[],_,_,rfl,.nil,first,rest⟩
  | cons b before ih =>
    cases related with
    | cons first rest =>
      obtain ⟨front,y,back,rfl,earlier,here,later⟩ := ih rest
      exact ⟨_::front,y,back,rfl,.cons first earlier,here,later⟩

/-- A gap counts lines that were published after all that was told before it, and before all that is
told after it. -/
theorem ledger_gap {lost : Nat} (ledger : QueueLedger matching events lost)
    {before after : List LiveLogEvent} {gap : LiveLogEvent} (split : events=before++gap::after)
    (kind : gap.kind=.gap) :
    ∃first gone rest,matching=first++gone++rest ∧ gap.dropped=some gone.length ∧
      List.Sublist (logLines before) first ∧ List.Sublist (logLines after) rest := by
  obtain ⟨entries,tells,accounts⟩ := ledger
  rw [split] at tells
  obtain ⟨front,entry,back,rfl,earlier,here,later⟩ := forall₂_split tells
  cases here with
  | line line =>
    unfold LiveLogEvent.isLine at line
    rw [kind] at line
    exact absurd line (by decide)
  | gap next lost _ dropped _ _ =>
    obtain ⟨first,gone,rest,parts,size,low,high⟩ := accounts.gap rfl
    refine ⟨first,gone,next::rest,parts,?_,?_,?_⟩
    · rw [size]
      exact dropped
    · rw [(logLines_tells earlier).1]
      exact low
    · rw [(logLines_tells later).1]
      exact high

end Told

/-- What a viewer has received after its replay, with what still waits for it. -/
def told (s : LiveLogRun) (channel : Nat) (connection : LiveLogConnection) : List LiveLogEvent :=
  connection.received++s.queued channel connection

/-- The lines of a subscription come with increasing numbers, and those that come after the replay
were published for it. Each line published for it is there or counted in a gap, but for the last
ones, which are lost and not told yet, and each gap counts the lines that are missing where it
stands. -/
structure Conserved (s : LiveLogRun) (channel : Nat) (connection : LiveLogConnection) : Prop where
  increasing : ((logLines (connection.initial++s.told channel connection)).map
    LiveLogEvent.number).Pairwise (· < ·)
  inside : List.Sublist (logLines (s.told channel connection)) (connection.matching s.published)
  known : ∃kept gone,connection.matching s.published=kept++gone ∧
    gone.length=s.pendingDropped channel ∧
    ∀line∈kept,Known (connection.matching s.published) (s.told channel connection) line
  counted : (connection.matching s.published).length=
    (logLines (s.told channel connection)).length+gapSum (s.told channel connection)+
      s.pendingDropped channel
  gaps : ∀before gap after,s.told channel connection=before++gap::after → gap.kind=.gap →
    ∃first lost rest,connection.matching s.published=first++lost++rest ∧
      gap.dropped=some lost.length ∧ List.Sublist (logLines before) first ∧
      List.Sublist (logLines after) rest

/-- The account of a subscription that the hub has. -/
theorem Delivers.ledger (delivers : Delivers loaded s) (few : s.asked ≤ U64.top)
    (there : s.connections[channel]?=some connection) (isOpen : connection.isOpen=true) :
    QueueLedger (connection.matching s.published) (s.told channel connection)
      (s.pendingDropped channel) := by
  obtain ⟨subscriber,held⟩ := delivers.kept.attached few channel connection there isOpen
  obtain ⟨offered,rest,lost,split,ledger,known⟩ :=
    delivers.kept.accounted channel connection there
  obtain ⟨rfl,rfl⟩ := known subscriber held
  have pending : s.pendingDropped channel=subscriber.dropped := by
    rw [pendingDropped,held]
    rfl
  rw [pending,split,List.append_nil]
  exact ledger

/-- What is told is told of lines that were published since the subscription. -/
theorem Delivers.told_sublist (delivers : Delivers loaded s)
    (there : s.connections[channel]?=some connection) :
    List.Sublist (logLines (s.told channel connection)) (connection.matching s.published) := by
  obtain ⟨offered,rest,lost,split,ledger,-⟩ := delivers.kept.accounted channel connection there
  obtain ⟨entries,tells,accounts⟩ := ledger
  show List.Sublist (logLines (connection.received++s.queued channel connection)) _
  rw [(logLines_tells tells).1,split]
  exact accounts.sublist.trans (List.sublist_append_left _ _)

theorem Delivers.increasing (delivers : Delivers loaded s)
    (there : s.connections[channel]?=some connection) :
    ((logLines (connection.initial++s.told channel connection)).map
      LiveLogEvent.number).Pairwise (· < ·) := by
  have live : List.Sublist (logLines (s.told channel connection))
      (s.published.drop connection.since) :=
    (delivers.told_sublist there).trans List.filter_sublist
  have all := (delivers.replays connection (List.mem_of_getElem? there)).append live
  rw [List.append_assoc,List.take_append_drop] at all
  have lines : logLines (connection.initial++s.told channel connection)=
      logLines connection.initial++logLines (s.told channel connection) :=
    List.filter_append ..
  rw [lines]
  exact delivers.rings.hub.increasing.sublist (all.map _)

/-- In every run with numbers and subscription IDs that last, what is published for a viewer is
conserved. -/
theorem delivery_conserved (instanceId : String) (services : List (String × List PreloadedLine))
    (now : Nat) (distinct : (services.map (·.1)).Nodup) (moves : List LiveLogMove)
    (few : (after instanceId services now moves).numbered ≤ U64.top)
    (asked : (after instanceId services now moves).asked ≤ U64.top) (channel : Nat)
    (connection : LiveLogConnection)
    (there : (after instanceId services now moves).connections[channel]?=some connection)
    (isOpen : connection.isOpen=true) :
    (after instanceId services now moves).Conserved channel connection := by
  have along := numbered_along moves (start instanceId services now) few
  have lines := (numbered_final moves (start instanceId services now)).1.trans few
  have delivers := delivers_step.final (start_delivers instanceId services now distinct lines) along
  have ledger := delivers.ledger asked there isOpen
  refine ⟨delivers.increasing there,delivers.told_sublist there,ledger.known,?_,
    fun before gap after split kind => ledger_gap ledger split kind⟩
  obtain ⟨entries,tells,accounts⟩ := ledger
  obtain ⟨told,gaps⟩ := logLines_tells tells
  show (connection.matching (Run.final advance moves _).published).length=_
  rw [accounts.count,← told,← gaps]
  rfl

/-- A viewer of one stream, which gets a line from the ring and a new one. -/
def deliveredMoves : List LiveLogMove :=
  [.subscribe "api" .stdout 10 none 1,.publish "api" .stdout [104,105,10,104],.emit 2 fun _ => 2,
    .receive 0]

def deliveredConnection : LiveLogConnection where
  serviceId := "api"
  subscriberId := 1
  selection := .stdout
  initial := [.replayedLine "1-1" "api" .stdout 1 "ready" none 0]
  received := [.line "1-1" "api" .stdout 2 "hi" 2]
  leftover := []
  isOpen := true
  since := 0
  watermark := 1

theorem delivery_conserved_line :
    (after "1-1" [("api",[⟨.stdout,none,"ready"⟩])] 0 deliveredMoves).Conserved 0
      deliveredConnection :=
  delivery_conserved "1-1" [("api",[⟨.stdout,none,"ready"⟩])] 0 (by decide) deliveredMoves
    (by decide +kernel) (by decide +kernel) 0 deliveredConnection (by decide +kernel) rfl

end LiveLogRun

end AkuSupervisor

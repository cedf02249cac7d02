import AkuSupervisor.Adapters.LiveLogDelivery

namespace AkuSupervisor

open ServiceLogs LossyQueue

/-- What the client asks for whenever it connects. -/
structure LiveLogViewer where
  serviceId : String
  selection : LiveLogSelection
  tail : Nat

def LiveLogViewer.wants (viewer : LiveLogViewer) (event : LiveLogEvent) : Bool :=
  event.serviceId=viewer.serviceId ∧ event.stream.any viewer.selection.includes

/-- The cursor after an event. -/
def advanceLiveLogCursor (cursor : Option LiveLogCursor) (event : LiveLogEvent) :
    Option LiveLogCursor :=
  match event.sequence with
  | none => cursor
  | some sequence =>
    match cursor with
    | none => some ⟨event.hubInstanceId,sequence⟩
    | some cursor =>
      if cursor.hubInstanceId=event.hubInstanceId then
        some { cursor with sequence := max cursor.sequence sequence }
      else some ⟨event.hubInstanceId,sequence⟩

/-- A client that follows the log of a service, next to all that the hub does. `channel` is its last
connection, of which it has read `read` events. `earlier` are the events it read before, which left
it the cursor `resumedFrom`, and `first` tells where the publications stood when it first
connected. -/
structure LiveLogFollower where
  run : LiveLogRun
  cursor : Option LiveLogCursor
  channel : Option Nat
  online : Bool
  read : Nat
  earlier : List LiveLogEvent
  resumedFrom : Option LiveLogCursor
  first : Nat

/-- Something happens at the hub, or the client connects, reads an event, or loses its
connection. -/
inductive LiveLogFollowMove where
  | hub (move : LiveLogMove)
  | connect (now : Nat)
  | read
  | disconnect

def LiveLogFollowMove.isConnect : LiveLogFollowMove → Bool
  | .connect _ => true
  | _ => false

namespace LiveLogFollower

/-- What the server sends over the last connection. -/
def stream (f : LiveLogFollower) : List LiveLogEvent :=
  match f.channel.bind (f.run.connections[·]?) with
  | some connection => connection.initial++connection.received
  | none => []

/-- All events that the client has read. -/
def shown (f : LiveLogFollower) : List LiveLogEvent := f.earlier++f.stream.take f.read

/-- The client connects with its cursor, unless the hub refuses it. -/
def connect (viewer : LiveLogViewer) (now : Nat) (f : LiveLogFollower) : LiveLogFollower :=
  let run := f.run.subscribe viewer.serviceId viewer.selection viewer.tail f.cursor now
  if f.run.connections.length < run.connections.length then
    { run
      cursor := f.cursor
      channel := some f.run.connections.length
      online := true
      read := 0
      earlier := f.shown
      resumedFrom := f.cursor
      first := if f.channel.isSome then f.first else f.run.published.length }
  else { f with run }

def advance (viewer : LiveLogViewer) (move : LiveLogFollowMove) (f : LiveLogFollower) :
    LiveLogFollower :=
  match move with
  | .hub move => { f with run := LiveLogRun.advance move f.run }
  | .connect now =>
    if f.online=false ∧ f.run.waiting=[] then f.connect viewer now else f
  | .read =>
    match f.stream[f.read]? with
    | some event =>
      if f.online=true then
        { f with cursor := advanceLiveLogCursor f.cursor event,read := f.read+1 }
      else f
    | none => f
  | .disconnect => { f with online := false }

def start (run : LiveLogRun) : LiveLogFollower := ⟨run,none,none,false,0,[],none,0⟩

def after (viewer : LiveLogViewer) (run : LiveLogRun) (moves : List LiveLogFollowMove) :
    LiveLogFollower :=
  Run.final (advance viewer) moves (start run)

/-- The client has a cursor, and the last event it has read is no gap. -/
def Resumable (f : LiveLogFollower) : Prop :=
  f.cursor.isSome=true ∧ f.shown.getLast?.all (·.kind≠.gap)=true

instance (f : LiveLogFollower) : Decidable f.Resumable := inferInstanceAs (Decidable (_ ∧ _))

/-- Whenever the client connects again, it can resume. -/
def ResumesWell (f : LiveLogFollower) (move : LiveLogFollowMove) : Prop :=
  move.isConnect=true → f.channel.isSome=true → f.Resumable

instance (f : LiveLogFollower) (move : LiveLogFollowMove) : Decidable (f.ResumesWell move) :=
  inferInstanceAs (Decidable (_ → _ → _))

end LiveLogFollower

/-- A line with the number and the hub that every published line has. -/
structure Sequenced (instanceId : String) (event : LiveLogEvent) : Prop where
  hub : event.hubInstanceId=instanceId
  sequence : event.sequence=some event.number

section Cursor

variable {instanceId : String} {events : List LiveLogEvent}

/-- The cursor after events of the hub: the largest number seen. -/
theorem cursor_after (cursor : Option LiveLogCursor)
    (own : ∀c,cursor=some c → c.hubInstanceId=instanceId)
    (sequenced : ∀event∈events,Sequenced instanceId event) :
    (events=[] ∧ events.foldl advanceLiveLogCursor cursor=cursor) ∨
      ∃c,events.foldl advanceLiveLogCursor cursor=some c ∧ c.hubInstanceId=instanceId ∧
        (∀event∈events,event.number ≤ c.sequence) ∧
        (∀before,cursor=some before → before.sequence ≤ c.sequence) ∧
        ((∃before,cursor=some before ∧ c.sequence=before.sequence) ∨
          ∃event∈events,c.sequence=event.number) := by
  induction events using List.reverseRecOn with
  | nil => exact .inl ⟨rfl,rfl⟩
  | append_singleton events event ih =>
    obtain ⟨hub,sequence⟩ := sequenced event (by simp)
    have ih := ih fun other mem => sequenced other (List.mem_append_left _ mem)
    right
    rw [List.foldl_append]
    show ∃c,advanceLiveLogCursor (events.foldl advanceLiveLogCursor cursor) event=some c ∧ _
    rcases ih with ⟨rfl,same⟩|⟨c,is,here,most,more,from_⟩
    · rw [same]
      cases cursor with
      | none =>
        refine ⟨⟨instanceId,event.number⟩,?_,rfl,?_,?_,?_⟩
        · rw [advanceLiveLogCursor,sequence,hub]
        · intro other mem
          rw [List.mem_singleton.mp mem]
        · intro before none
          cases none
        · exact .inr ⟨event,by simp,rfl⟩
      | some before =>
        have mine := own before rfl
        refine ⟨{ before with sequence := max before.sequence event.number },?_,mine,?_,?_,?_⟩
        · rw [advanceLiveLogCursor,sequence]
          simp only [mine,hub,if_true]
        · intro other mem
          rw [List.mem_singleton.mp mem]
          exact Nat.le_max_right ..
        · intro other is
          cases is
          exact Nat.le_max_left ..
        · rcases Nat.le_total before.sequence event.number with le|ge
          · exact .inr ⟨event,by simp,Nat.max_eq_right le⟩
          · exact .inl ⟨before,rfl,Nat.max_eq_left ge⟩
    · rw [is]
      refine ⟨{ c with sequence := max c.sequence event.number },?_,here,?_,?_,?_⟩
      · rw [advanceLiveLogCursor,sequence]
        simp only [here,hub,if_true]
      · intro other mem
        rcases List.mem_append.mp mem with old|new
        · exact (most other old).trans (Nat.le_max_left ..)
        · rw [List.mem_singleton.mp new]
          exact Nat.le_max_right ..
      · intro before was
        exact (more before was).trans (Nat.le_max_left ..)
      · rcases Nat.le_total c.sequence event.number with le|ge
        · exact .inr ⟨event,by simp,Nat.max_eq_right le⟩
        · have same : max c.sequence event.number=c.sequence := Nat.max_eq_left ge
          rcases from_ with ⟨before,was,eq⟩|⟨other,mem,eq⟩
          · exact .inl ⟨before,was,same.trans eq⟩
          · exact .inr ⟨other,List.mem_append_left _ mem,same.trans eq⟩

end Cursor

section Queue

variable {offered events before after : List LiveLogEvent} {lost : Nat}
  {event line : LiveLogEvent}

/-- Where the numbers increase, a line with a smaller number comes before. -/
theorem mem_upTo {numbers : List LiveLogEvent}
    (increasing : (numbers.map LiveLogEvent.number).Pairwise (· < ·))
    {front back : List LiveLogEvent} (split : numbers=front++event::back) (mem : line∈numbers)
    (le : line.number ≤ event.number) :
    line∈front++[event] := by
  rw [split,List.map_append,List.map_cons,List.pairwise_append,List.pairwise_cons] at increasing
  rw [split] at mem
  rcases List.mem_append.mp mem with here|later
  · exact List.mem_append_left _ here
  · rcases List.mem_cons.mp later with rfl|behind
    · exact List.mem_append_right _ (List.mem_singleton_self _)
    · have less := increasing.2.1.1 line.number (List.mem_map_of_mem behind)
      omega

/-- Once a line was told, every line that was offered before it was told or counted in a gap, and
all that was told has a smaller number. -/
theorem told_upTo (increasing : (offered.map LiveLogEvent.number).Pairwise (· < ·))
    (ledger : QueueLedger offered events lost) (split : events=before++event::after)
    (isLine : event.isLine=true) :
    event∈offered ∧ (∀other∈before,other.number ≤ event.number) ∧
      ∀line∈offered,line.number ≤ event.number →
        Known offered (before++[event]) line := by
  obtain ⟨entries,tells,accounts⟩ := ledger
  rw [split] at tells
  obtain ⟨front,entry,back,rfl,earlier,here,-⟩ := LiveLogRun.forall₂_split tells
  cases here with
  | gap next lost kind =>
    unfold LiveLogEvent.isLine at isLine
    rw [kind] at isLine
    exact absurd isLine (by decide)
  | line =>
    obtain ⟨first,rest,parts,upTo,-⟩ := accounts.upTo_item rfl
    have whole : QueueLedger (first++[event]) (before++[event]) 0 :=
      ⟨_,List.rel_append earlier (.cons (.line event isLine) .nil),upTo⟩
    obtain ⟨kept,gone,all,size,known⟩ := whole.known
    have none_gone := List.eq_nil_of_length_eq_zero size
    rw [none_gone,List.append_nil] at all
    have sorted := increasing
    rw [parts,List.map_append,List.map_cons,List.pairwise_append,List.pairwise_cons] at increasing
    have le {other : LiveLogEvent} (mem : other∈first++[event]) : other.number ≤ event.number := by
      rcases List.mem_append.mp mem with old|same
      · exact (increasing.2.2 _ (List.mem_map_of_mem old) _ List.mem_cons_self).le
      · rw [List.mem_singleton.mp same]
    have inside {lost : Nat} {next : LiveLogEvent} (mem : .gap lost next∈front++[.item event]) :
        ∃low gone high,first++[event]=low++gone++next::high ∧ gone.length=lost := by
      obtain ⟨a,b,cut⟩ := List.append_of_mem mem
      obtain ⟨low,gone,high,parts,size,-,-⟩ := upTo.gap cut
      exact ⟨low,gone,high,parts,size⟩
    refine ⟨by rw [parts]; simp,fun other mem => ?_,fun line mem small => ?_⟩
    · obtain ⟨entry,there,tells⟩ := exists_of_mem_left earlier mem
      cases tells with
      | line =>
        apply le
        apply upTo.sublist.subset
        rw [items_append]
        exact List.mem_append_left _ (List.mem_filterMap.mpr ⟨_,there,rfl⟩)
      | gap next lost _ _ sequence =>
        obtain ⟨low,gone,high,all,-⟩ := inside (List.mem_append_left _ there)
        have number : other.number=next.number := congrArg (Option.getD · 0) sequence
        rw [number]
        apply le
        rw [all]
        simp
    · have early := mem_upTo sorted parts mem small
      rw [all] at early
      have upToLine := (known line early).mono [] rest []
      rw [List.nil_append,List.append_nil,← List.append_cons,← parts] at upToLine
      exact upToLine

end Queue

theorem drop_split {events : List LiveLogEvent} {first since : Nat} (le : first ≤ since)
    (short : since ≤ events.length) :
    events.drop first=(events.take since).drop first++events.drop since := by
  rw [← List.drop_append_of_le_length,List.take_append_drop]
  rw [List.length_take]
  omega

theorem trimRing_suffix (ring : List LiveLogEvent) (bytes : Nat) :
    (LiveServiceState.trimRing ring bytes).1 <:+ ring := by
  induction ring generalizing bytes with
  | nil => exact List.suffix_refl _
  | cons oldest ring ih =>
    rw [LiveServiceState.trimRing]
    split_ifs
    · exact (ih _).trans (List.suffix_cons ..)
    · exact List.suffix_refl _

namespace LiveLogRun

variable {loaded : List LiveLogEvent} {s : LiveLogRun} {instanceId : String}

/-- The ring of a service, empty if there is none. -/
def ringOf (s : LiveLogRun) (serviceId : String) : List LiveLogEvent :=
  ((s.hub.services[serviceId]?.map LiveServiceState.ring).getD [])

/-- All that was pushed carries the name of the hub and a number. -/
structure Stamped (instanceId : String) (loaded : List LiveLogEvent) (s : LiveLogRun) : Prop where
  hub : s.hub.instanceId=instanceId
  lines : ∀event∈loaded++s.published,Sequenced instanceId event ∧ event.isLine=true

theorem ringOf_same {hub : LiveLogHub} (same : SameRings s.hub hub) (t : LiveLogRun)
    (is : t.hub=hub) (serviceId : String) : t.ringOf serviceId=s.ringOf serviceId := by
  have equal := congrArg (Option.map Prod.fst) (same.rings serviceId)
  rw [Option.map_map,Option.map_map] at equal
  unfold ringOf
  rw [is]
  exact congrArg (Option.getD · []) equal

/-- What the viewer side of a connection keeps while the hub goes on. -/
structure Extends (connection connection' : LiveLogConnection) : Prop where
  serviceId : connection'.serviceId=connection.serviceId
  selection : connection'.selection=connection.selection
  initial : connection'.initial=connection.initial
  since : connection'.since=connection.since
  received : ∃more,connection'.received=connection.received++more

theorem Extends.refl (connection : LiveLogConnection) : Extends connection connection :=
  ⟨rfl,rfl,rfl,rfl,[],(List.append_nil _).symm⟩

theorem SameConnection.extends {connection connection' : LiveLogConnection}
    (same : SameConnection connection connection') : Extends connection connection' :=
  ⟨same.serviceId,same.selection,same.initial,same.since,[],by rw [same.received,List.append_nil]⟩

/-- Publications and connections grow at their ends, and a ring gets new lines only. -/
structure Grows (loaded : List LiveLogEvent) (s t : LiveLogRun) : Prop where
  published : ∃more,t.published=s.published++more ∧
    ∀event∈more,∀old∈loaded++s.published,old.number < event.number
  ring : ∀serviceId,∀line∈t.ringOf serviceId,line∈s.ringOf serviceId ∨
    ∀old∈loaded++s.published,old.number < line.number
  connections : ∀(channel : Nat) (connection : LiveLogConnection),
    s.connections[channel]?=some connection →
    ∃connection',t.connections[channel]?=some connection' ∧ Extends connection connection'

/-- Where nothing is published, the rings stay. -/
theorem grows_same {t : LiveLogRun} (rings : SameRings s.hub t.hub)
    (published : t.published=s.published)
    (connections : ∀(channel : Nat) (connection : LiveLogConnection),
      s.connections[channel]?=some connection →
      ∃connection',t.connections[channel]?=some connection' ∧ Extends connection connection') :
    Grows loaded s t := by
  refine ⟨⟨[],by rw [published,List.append_nil],by simp⟩,fun serviceId line mem => ?_,connections⟩
  rw [ringOf_same rings t rfl] at mem
  exact .inl mem

theorem grows_refl (loaded : List LiveLogEvent) (s : LiveLogRun) : Grows loaded s s :=
  grows_same (.refl _) rfl fun _ connection there => ⟨connection,there,.refl _⟩

theorem sameRings_joined {serviceId : String} {service : LiveServiceState}
    (there : s.hub.services[serviceId]?=some service) (selection : LiveLogSelection)
    (initial : List LiveLogEvent) :
    SameRings s.hub (s.joined serviceId service selection initial).hub := by
  refine sameRings_insert there ?_ ?_ _ <;> rfl

theorem Rings.grows_emit (rings : Rings loaded s) (now : Nat) (gapTimes : Nat → Nat)
    (room : (s.emit now gapTimes).numbered ≤ U64.top) :
    Grows loaded s (s.emit now gapTimes) := by
  unfold LiveLogRun.emit at room ⊢
  cases line : s.waiting with
  | nil => exact grows_refl loaded s
  | cons first waiting =>
    obtain ⟨serviceId,stream,text⟩ := first
    rw [line] at room
    have known := rings.waiting _ (line ▸ List.mem_cons_self)
    obtain ⟨service,found⟩ := Option.isSome_iff_exists.mp
      (Std.ExtTreeMap.mem_iff_isSome_getElem?.mp known)
    have room : (loaded++s.published).length+1 ≤ U64.top := by
      rw [← rings.counted]
      exact room
    obtain ⟨event,-⟩ := rings.hub.publish found stream text now gapTimes room
    have newer : ∀old∈loaded++s.published,
        old.number < (s.hub.publishLine serviceId stream text now gapTimes).1.number := by
      intro old mem
      have bounded := rings.hub.bounded old mem
      rw [event]
      exact Nat.lt_succ_of_le bounded
    refine ⟨⟨_,rfl,fun other mem => ?_⟩,fun other line mem => ?_,
      fun _ connection there => ⟨connection,there,.refl _⟩⟩
    · rw [List.mem_singleton.mp mem]
      exact newer
    · have mem : line∈((((s.hub.publishLine serviceId stream text now gapTimes).2).services[
          other]?.map LiveServiceState.ring).getD []) := mem
      simp only [LiveLogHub.publishLine,found,FifoStore.lookup_insert] at mem
      by_cases same : serviceId=other
      · rw [if_pos same] at mem
        have inside := (trimRing_suffix _ _).subset mem
        rcases List.mem_append.mp inside with old|new
        · left
          unfold ringOf
          rw [← same,found]
          exact old
        · right
          have is := List.mem_singleton.mp new
          rw [is]
          exact newer
      · rw [if_neg same] at mem
        exact .inl mem

theorem grows_step (move : LiveLogMove) (rings : Rings loaded s)
    (room : (advance move s).numbered ≤ U64.top) : Grows loaded s (advance move s) := by
  have kept : ∀(channel : Nat) (connection : LiveLogConnection),
      s.connections[channel]?=some connection →
      ∃connection',s.connections[channel]?=some connection' ∧ Extends connection connection' :=
    fun _ connection there => ⟨connection,there,.refl _⟩
  have set (channel : Nat) (connection changed : LiveLogConnection)
      (there : s.connections[channel]?=some connection) (more : Extends connection changed) :
      ∀(c : Nat) (connection : LiveLogConnection),s.connections[c]?=some connection →
        ∃connection',(s.connections.set channel changed)[c]?=some connection' ∧
          Extends connection connection' := by
    intro c other is
    by_cases same : channel=c
    · subst same
      rw [there] at is
      cases is
      exact ⟨changed,List.getElem?_set_self (List.getElem?_eq_some_iff.mp there).1,more⟩
    · exact ⟨other,(List.getElem?_set_ne same).trans is,.refl _⟩
  cases move with
  | publish serviceId stream bytes =>
    rw [advance]
    split_ifs
    · exact grows_same (sameRings_takeLines ..) rfl kept
    · exact grows_refl loaded s
  | closeStream serviceId stream =>
    rw [advance]
    split_ifs
    · exact grows_same (sameRings_takeLines ..) rfl kept
    · exact grows_refl loaded s
  | emit now gapTimes => exact rings.grows_emit now gapTimes room
  | subscribe serviceId selection tail cursor now =>
    rw [advance]
    split_ifs
    · have same := sameRings_storeSubscribe s.hub serviceId selection tail cursor
        s.connections.length now
      rcases s.subscribe_cases serviceId selection tail cursor now with refused|⟨service,there,is⟩
      · rw [refused]
        exact grows_same ⟨rfl,rfl,fun _ => rfl⟩ rfl kept
      · rw [is]
        refine grows_same (sameRings_joined there ..) rfl fun channel connection was => ?_
        have short := (List.getElem?_eq_some_iff.mp was).1
        have become := s.joined_old serviceId service selection
          (s.hub.replay service serviceId selection (min tail maxTailLines) cursor now) channel
          short
        rw [was] at become
        exact ⟨_,become,(s.letGo_released serviceId _ channel connection).same.extends⟩
    · exact grows_refl loaded s
  | receive channel =>
    rw [advance]
    cases there : s.connections[channel]? with
    | none => exact grows_refl loaded s
    | some connection =>
      simp only
      split_ifs
      · unfold LiveLogRun.receive
        cases s.subscriberOf channel with
        | some subscriber =>
          simp only
          cases subscriber.queue with
          | nil => exact grows_refl loaded s
          | cons event queue =>
            exact grows_same (sameRings_setSubscriber ..) rfl
              (set channel connection _ there ⟨rfl,rfl,rfl,rfl,_,rfl⟩)
        | none =>
          cases connection.leftover with
          | nil => exact grows_refl loaded s
          | cons event leftover =>
            exact grows_same (.refl _) rfl (set channel connection _ there ⟨rfl,rfl,rfl,rfl,_,rfl⟩)
      · exact grows_refl loaded s
  | drop channel =>
    rw [advance]
    cases there : s.connections[channel]? with
    | none => exact grows_refl loaded s
    | some connection =>
      simp only
      split_ifs
      · refine grows_same (sameRings_unsubscribe ..) rfl fun c other was => ?_
        have same := (s.letGo_released connection.serviceId connection.subscriberId c other).same
        show ∃connection',(List.modify _ channel _)[c]?=some connection' ∧ _
        rw [List.getElem?_modify,orphan_getElem?,was]
        refine ⟨_,rfl,?_⟩
        by_cases mine : channel=c
        · simp only [mine,if_true]
          exact ⟨same.serviceId,same.selection,same.initial,same.since,[],
            by rw [List.append_nil]; exact same.received⟩
        · simp only [mine,if_false]
          exact same.extends
      · exact grows_refl loaded s

theorem stamped_step (move : LiveLogMove) (stamped : Stamped instanceId loaded s) :
    Stamped instanceId loaded (advance move s) := by
  have same {t : LiveLogRun} (rings : SameRings s.hub t.hub) (published : t.published=s.published) :
      Stamped instanceId loaded t :=
    ⟨rings.instanceId.trans stamped.hub,by rw [published]; exact stamped.lines⟩
  cases move with
  | publish serviceId stream bytes =>
    rw [advance]
    split_ifs
    · exact same (sameRings_takeLines ..) rfl
    · exact stamped
  | closeStream serviceId stream =>
    rw [advance]
    split_ifs
    · exact same (sameRings_takeLines ..) rfl
    · exact stamped
  | emit now gapTimes =>
    rw [advance]
    unfold LiveLogRun.emit
    cases s.waiting with
    | nil => exact stamped
    | cons first waiting =>
      refine ⟨stamped.hub,fun event mem => ?_⟩
      have mem : event∈loaded++(s.published++[_]) := mem
      rw [← List.append_assoc] at mem
      rcases List.mem_append.mp mem with old|new
      · exact stamped.lines event old
      · rw [List.mem_singleton.mp new]
        exact ⟨⟨stamped.hub,rfl⟩,rfl⟩
  | subscribe serviceId selection tail cursor now =>
    rw [advance]
    split_ifs
    · rcases s.subscribe_cases serviceId selection tail cursor now with refused|⟨service,there,is⟩
      · rw [refused]
        exact same ⟨rfl,rfl,fun _ => rfl⟩ rfl
      · rw [is]
        exact same (sameRings_joined there ..) rfl
    · exact stamped
  | receive channel =>
    rw [advance]
    cases s.connections[channel]? with
    | none => exact stamped
    | some connection =>
      simp only
      split_ifs
      · unfold LiveLogRun.receive
        cases s.subscriberOf channel with
        | some subscriber =>
          simp only
          cases subscriber.queue with
          | nil => exact stamped
          | cons event queue => exact same (sameRings_setSubscriber ..) rfl
        | none =>
          cases connection.leftover with
          | nil => exact stamped
          | cons event leftover => exact same (.refl _) rfl
      · exact stamped
  | drop channel =>
    rw [advance]
    cases s.connections[channel]? with
    | none => exact stamped
    | some connection =>
      simp only
      split_ifs
      · exact same (sameRings_unsubscribe ..) rfl
      · exact stamped

theorem preloaded_sequenced {serviceId : String} {now n : Nat} {lines : List PreloadedLine}
    {event : LiveLogEvent} (mem : event∈preloadedEvents instanceId serviceId now n lines) :
    Sequenced instanceId event ∧ event.isLine=true := by
  induction lines generalizing n with
  | nil => cases mem
  | cons line lines ih =>
    rcases List.mem_cons.mp mem with rfl|later
    · exact ⟨⟨rfl,rfl⟩,rfl⟩
    · exact ih later

theorem loaded_sequenced {services : List (String × List PreloadedLine)} {now n : Nat}
    {event : LiveLogEvent} (mem : event∈loadedEvents instanceId now n services) :
    Sequenced instanceId event ∧ event.isLine=true := by
  induction services generalizing n with
  | nil => cases mem
  | cons service services ih =>
    rcases List.mem_append.mp mem with here|later
    · exact preloaded_sequenced here
    · exact ih later

/-- Services are added under the instance of the hub. -/
theorem reconcile_instance (services : List (String × List PreloadedLine)) (now : Nat)
    (hub : LiveLogHub) : (services.foldl (fun hub (serviceId,lines) =>
      hub.reconcileService serviceId lines now) hub).instanceId=hub.instanceId := by
  induction services generalizing hub with
  | nil => rfl
  | cons service services ih =>
    obtain ⟨serviceId,lines⟩ := service
    rw [List.foldl_cons,ih]
    simp only [LiveLogHub.reconcileService]
    split_ifs <;> rfl

theorem start_stamped (instanceId : String) (services : List (String × List PreloadedLine))
    (now : Nat) :
    Stamped instanceId (loadedEvents instanceId now 0 services)
      (start instanceId services now) := by
  refine ⟨reconcile_instance services now _,fun event mem => ?_⟩
  rcases List.mem_append.mp mem with loaded|published
  · exact loaded_sequenced loaded
  · cases published

end LiveLogRun

end AkuSupervisor

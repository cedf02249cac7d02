import Mathlib.Algebra.Group.Nat.Defs
import AkuSupervisor.Adapters.LiveLogRun
import AkuSupervisor.Lib.LongestSuffix

namespace AkuSupervisor

open ServiceLogs LongestSuffix

def textTotal : List LiveLogEvent → Nat
  | [] => 0
  | event::events => event.textBytes+textTotal events

/-- The bounds of a ring. -/
def Fits (ring : List LiveLogEvent) : Prop :=
  ring.length ≤ liveRingLines ∧ textTotal ring ≤ liveRingBytes

instance : DecidablePred Fits := fun ring =>
  inferInstanceAs (Decidable (ring.length ≤ liveRingLines ∧ textTotal ring ≤ liveRingBytes))

@[simp] theorem textTotal_append (events more : List LiveLogEvent) :
    textTotal (events++more)=textTotal events+textTotal more := by
  induction events with
  | nil => simp [textTotal]
  | cons event events ih =>
    rw [List.cons_append,textTotal,textTotal,ih]
    omega

theorem fits_nil : Fits [] := ⟨Nat.zero_le _,Nat.zero_le _⟩

theorem fits_shorter (events : List LiveLogEvent) (event : LiveLogEvent)
    (fit : Fits (events++[event])) : Fits events := by
  obtain ⟨lines,bytes⟩ := fit
  rw [List.length_append] at lines
  rw [textTotal_append] at bytes
  exact ⟨by omega,by omega⟩

namespace LiveServiceState

/-- The loop of `push_ring`, with a subtraction that fails below zero. -/
def checkedTrim : List LiveLogEvent → Nat → Option (List LiveLogEvent × Nat)
  | [],bytes => some ([],bytes)
  | oldest::ring,bytes =>
    if liveRingLines<(oldest::ring).length ∨ liveRingBytes<bytes then
      if oldest.textBytes ≤ bytes then checkedTrim ring (bytes-oldest.textBytes) else none
    else some (oldest::ring,bytes)

/-- `push_ring`, with an addition that fails beyond 64 bits and subtractions that fail below zero. -/
def checkedPush (s : LiveServiceState) (event : LiveLogEvent) : Option LiveServiceState :=
  if s.ringBytes+event.textBytes ≤ U64.top then
    (checkedTrim (s.ring++[event]) (s.ringBytes+event.textBytes)).map fun trimmed =>
      { s with ring := trimmed.1,ringBytes := trimmed.2 }
  else none

theorem trimRing_exact (ring : List LiveLogEvent) :
    trimRing ring (textTotal ring)=(keep Fits ring,textTotal (keep Fits ring)) := by
  induction ring with
  | nil => rfl
  | cons oldest ring ih =>
    have behind : textTotal (oldest::ring)-oldest.textBytes=textTotal ring := by
      rw [textTotal]
      omega
    rw [trimRing,keep,behind,ih]
    by_cases fit : Fits (oldest::ring)
    · have inside : ¬(liveRingLines < (oldest::ring).length ∨
          liveRingBytes < textTotal (oldest::ring)) := by
        obtain ⟨lines,bytes⟩ := fit
        omega
      rw [if_neg inside,if_pos fit]
    · have outside : liveRingLines < (oldest::ring).length ∨
          liveRingBytes < textTotal (oldest::ring) := by
        unfold Fits at fit
        omega
      rw [if_pos outside,if_neg fit]

theorem checkedTrim_exact (ring : List LiveLogEvent) :
    checkedTrim ring (textTotal ring)=some (trimRing ring (textTotal ring)) := by
  induction ring with
  | nil => rfl
  | cons oldest ring ih =>
    have behind : textTotal (oldest::ring)-oldest.textBytes=textTotal ring := by
      rw [textTotal]
      omega
    have above : oldest.textBytes ≤ textTotal (oldest::ring) := by
      rw [textTotal]
      omega
    rw [checkedTrim,trimRing,if_pos above,behind,ih]
    split_ifs <;> rfl

/-- A text that leaves no room for anything, the count of bytes included, ends with an empty ring. -/
theorem trimRing_overflow (ring : List LiveLogEvent) (event : LiveLogEvent) (bytes : Nat)
    (much : textTotal ring+liveRingBytes < bytes) (less : bytes ≤ textTotal ring+event.textBytes) :
    trimRing (ring++[event]) bytes=([],0) := by
  induction ring generalizing bytes with
  | nil =>
    rw [textTotal] at much less
    rw [List.nil_append,trimRing,if_pos (.inr (by omega)),trimRing]
    have none : bytes-event.textBytes=0 := by omega
    rw [none]
  | cons oldest ring ih =>
    rw [textTotal] at much less
    rw [List.cons_append,trimRing,if_pos (.inr (by omega))]
    exact ih _ (by omega) (by omega)

/-- The ring is the longest end of what was pushed that fits, and its bytes are counted. -/
structure KeepsRing (s : LiveServiceState) (pushed : List LiveLogEvent) : Prop where
  longest : Longest Fits s.ring pushed
  bytes : s.ringBytes=textTotal s.ring

variable {s : LiveServiceState} {pushed : List LiveLogEvent}

theorem KeepsRing.small (keeps : KeepsRing s pushed) : s.ringBytes ≤ liveRingBytes := by
  rw [keeps.bytes]
  exact keeps.longest.good.2

theorem KeepsRing.push (keeps : KeepsRing s pushed) (event : LiveLogEvent) :
    KeepsRing (s.pushRing event) (pushed++[event]) := by
  have small := keeps.small
  have limit : liveRingBytes=1048576 := by decide
  have top : U64.top=18446744073709551615 := rfl
  have total : textTotal (s.ring++[event])=s.ringBytes+event.textBytes := by
    rw [textTotal_append,← keeps.bytes]
    rfl
  have next := keep_longest fits_nil (s.ring++[event])
  have trimmed : trimRing (s.ring++[event]) (U64.saturatingAdd s.ringBytes event.textBytes)=
      (keep Fits (s.ring++[event]),textTotal (keep Fits (s.ring++[event]))) := by
    by_cases within : s.ringBytes+event.textBytes ≤ U64.top
    · have sum : U64.saturatingAdd s.ringBytes event.textBytes=textTotal (s.ring++[event]) := by
        rw [total]
        exact Nat.min_eq_left within
      rw [sum,trimRing_exact]
    · have sum : U64.saturatingAdd s.ringBytes event.textBytes=U64.top :=
        Nat.min_eq_right (Nat.le_of_not_le within)
      have large : liveRingBytes < event.textBytes := by omega
      have empty : keep Fits (s.ring++[event])=[] := by
        apply next.eq_nil
        intro other nonempty suffix good
        rcases List.suffix_concat_iff.mp suffix with none|⟨front,rfl,-⟩
        · exact nonempty none
        · have bytes := good.2
          rw [textTotal_append,textTotal,textTotal] at bytes
          omega
      rw [sum,empty]
      apply trimRing_overflow
      · rw [← keeps.bytes]
        omega
      · rw [← keeps.bytes]
        omega
  refine ⟨?_,?_⟩
  · show Longest Fits (trimRing _ _).1 _
    rw [trimmed]
    exact keeps.longest.snoc fits_shorter next
  · show (trimRing _ _).2=textTotal (trimRing _ _).1
    rw [trimmed]

/-- With a text that fits a string, nothing saturates. -/
theorem KeepsRing.checked (keeps : KeepsRing s pushed) (event : LiveLogEvent)
    (string : event.textBytes < 2^63) : s.checkedPush event=some (s.pushRing event) := by
  have small := keeps.small
  have limit : liveRingBytes=1048576 := by decide
  have top : U64.top=18446744073709551615 := rfl
  have room : s.ringBytes+event.textBytes ≤ U64.top := by omega
  have total : s.ringBytes+event.textBytes=textTotal (s.ring++[event]) := by
    rw [textTotal_append,← keeps.bytes]
    rfl
  have sum : U64.saturatingAdd s.ringBytes event.textBytes=s.ringBytes+event.textBytes :=
    Nat.min_eq_left room
  rw [checkedPush,if_pos room,total,checkedTrim_exact]
  unfold pushRing
  rw [sum,total]
  rfl

end LiveServiceState

open LiveServiceState

/-- The events for the lines of a service that is new, when `n` events came before. -/
def preloadedEvents (instanceId serviceId : String) (now : Nat) :
    Nat → List PreloadedLine → List LiveLogEvent
  | _,[] => []
  | n,line::lines =>
    .replayedLine instanceId serviceId line.stream (n+1) line.text line.sourceModifiedAtUnixMs now::
      preloadedEvents instanceId serviceId now (n+1) lines

/-- The events for the lines of all services of a new hub. -/
def loadedEvents (instanceId : String) (now : Nat) :
    Nat → List (String × List PreloadedLine) → List LiveLogEvent
  | _,[] => []
  | n,(serviceId,lines)::services =>
    preloadedEvents instanceId serviceId now n lines++
      loadedEvents instanceId now (n+lines.length) services

/-- The events that were pushed for one service. -/
def pushedFor (serviceId : String) (pushed : List LiveLogEvent) : List LiveLogEvent :=
  pushed.filter (·.serviceId=serviceId)

/-- The rings of a hub, when these events were pushed. -/
structure HubRings (hub : LiveLogHub) (pushed : List LiveLogEvent) : Prop where
  counted : hub.nextSequence=pushed.length
  increasing : (pushed.map LiveLogEvent.number).Pairwise (· < ·)
  bounded : ∀event∈pushed,event.number ≤ pushed.length
  known : ∀event∈pushed,event.serviceId∈hub.services
  rings : ∀serviceId service,hub.services[serviceId]?=some service →
    KeepsRing service (pushedFor serviceId pushed)

/-- Events with the next numbers. -/
structure Continues (n : Nat) (events : List LiveLogEvent) : Prop where
  increasing : (events.map LiveLogEvent.number).Pairwise (· < ·)
  bounds : ∀event∈events,n < event.number ∧ event.number ≤ n+events.length

theorem numbers_append {n : Nat} {pushed events : List LiveLogEvent} (length : pushed.length=n)
    (before : (pushed.map LiveLogEvent.number).Pairwise (· < ·))
    (bounded : ∀event∈pushed,event.number ≤ pushed.length) (continues : Continues n events) :
    ((pushed++events).map LiveLogEvent.number).Pairwise (· < ·) ∧
      ∀event∈pushed++events,event.number ≤ (pushed++events).length := by
  constructor
  · rw [List.map_append,List.pairwise_append]
    refine ⟨before,continues.increasing,fun a first b second => ?_⟩
    obtain ⟨event,mem,rfl⟩ := List.mem_map.mp first
    obtain ⟨later,mem',rfl⟩ := List.mem_map.mp second
    have low := bounded event mem
    have high := (continues.bounds later mem').1
    omega
  · intro event mem
    rw [List.length_append]
    rcases List.mem_append.mp mem with old|new
    · have low := bounded event old
      omega
    · have high := (continues.bounds event new).2
      omega

section Preload

variable (instanceId serviceId : String) (now : Nat)

theorem length_preloadedEvents (n : Nat) (lines : List PreloadedLine) :
    (preloadedEvents instanceId serviceId now n lines).length=lines.length := by
  induction lines generalizing n with
  | nil => rfl
  | cons line lines ih => simp [preloadedEvents,ih]

theorem preloadedEvents_continue (n : Nat) (lines : List PreloadedLine) :
    Continues n (preloadedEvents instanceId serviceId now n lines) := by
  induction lines generalizing n with
  | nil => exact ⟨List.Pairwise.nil,by simp [preloadedEvents]⟩
  | cons line lines ih =>
    obtain ⟨increasing,bounds⟩ := ih (n+1)
    rw [length_preloadedEvents] at bounds
    constructor
    · rw [preloadedEvents,List.map_cons,List.pairwise_cons]
      refine ⟨fun number mem => ?_,increasing⟩
      obtain ⟨event,inside,rfl⟩ := List.mem_map.mp mem
      exact (bounds event inside).1
    · intro event mem
      rw [length_preloadedEvents]
      rcases List.mem_cons.mp mem with rfl|later
      · show n < n+1 ∧ n+1 ≤ _
        simp
      · obtain ⟨low,high⟩ := bounds event later
        rw [List.length_cons]
        omega

theorem serviceId_preloadedEvents {n : Nat} {lines : List PreloadedLine} {event : LiveLogEvent}
    (mem : event∈preloadedEvents instanceId serviceId now n lines) :
    event.serviceId=serviceId := by
  induction lines generalizing n with
  | nil => simp [preloadedEvents] at mem
  | cons line lines ih =>
    rcases List.mem_cons.mp mem with rfl|later
    · rfl
    · exact ih later

/-- Reading the lines of a service pushes their events into its ring. -/
theorem preload_fold (lines : List PreloadedLine) (service : LiveServiceState)
    (pushed : List LiveLogEvent) (n : Nat) (keeps : KeepsRing service pushed)
    (room : n+lines.length ≤ U64.top) :
    ∃loaded,lines.foldl (fun (service,sequence) line =>
        let sequence := U64.saturatingAdd sequence 1
        (service.pushRing (.replayedLine instanceId serviceId line.stream sequence line.text
          line.sourceModifiedAtUnixMs now),sequence)) (service,n)=(loaded,n+lines.length) ∧
      KeepsRing loaded (pushed++preloadedEvents instanceId serviceId now n lines) := by
  induction lines generalizing service pushed n with
  | nil => exact ⟨service,rfl,by simpa [preloadedEvents] using keeps⟩
  | cons line lines ih =>
    rw [List.length_cons] at room
    have next : U64.saturatingAdd n 1=n+1 := Nat.min_eq_left (by omega)
    have pushed_one := keeps.push (.replayedLine instanceId serviceId line.stream (n+1) line.text
      line.sourceModifiedAtUnixMs now)
    obtain ⟨loaded,fold,rest⟩ := ih _ _ (n+1) pushed_one (by omega)
    refine ⟨loaded,?_,?_⟩
    · rw [List.foldl_cons]
      simp only [next]
      rw [fold,List.length_cons]
      congr 1
      omega
    · rw [preloadedEvents,List.append_cons]
      exact rest

end Preload

theorem length_loadedEvents (instanceId : String) (now n : Nat)
    (services : List (String × List PreloadedLine)) :
    (loadedEvents instanceId now n services).length=(services.flatMap (·.2)).length := by
  induction services generalizing n with
  | nil => rfl
  | cons service services ih =>
    rw [loadedEvents,List.length_append,length_preloadedEvents,ih,List.flatMap_cons,
      List.length_append]

theorem pushedFor_append (serviceId : String) (pushed events : List LiveLogEvent) :
    pushedFor serviceId (pushed++events)=pushedFor serviceId pushed++pushedFor serviceId events :=
  List.filter_append ..

theorem pushedFor_all {serviceId : String} {events : List LiveLogEvent}
    (own : ∀event∈events,event.serviceId=serviceId) : pushedFor serviceId events=events :=
  List.filter_eq_self.mpr fun event mem => by simpa using own event mem

theorem pushedFor_none {serviceId : String} {events : List LiveLogEvent}
    (others : ∀event∈events,event.serviceId≠serviceId) : pushedFor serviceId events=[] :=
  List.filter_eq_nil_iff.mpr fun event mem => by simpa using others event mem

theorem default_keeps : KeepsRing .default [] :=
  ⟨⟨List.suffix_refl _,fits_nil,fun _ suffix _ => suffix⟩,rfl⟩

/-- A service that is new is added with its ring. -/
theorem HubRings.add {hub : LiveLogHub} {pushed : List LiveLogEvent} (rings : HubRings hub pushed)
    (serviceId : String) (lines : List PreloadedLine) (now : Nat)
    (fresh : serviceId∉hub.services) (room : pushed.length+lines.length ≤ U64.top) :
    HubRings (hub.reconcileService serviceId lines now)
      (pushed++preloadedEvents hub.instanceId serviceId now pushed.length lines) := by
  obtain ⟨loaded,fold,keeps⟩ := preload_fold hub.instanceId serviceId now lines .default []
    pushed.length default_keeps room
  have preloaded : hub.preload serviceId lines now=(loaded,pushed.length+lines.length) := by
    rw [LiveLogHub.preload,rings.counted]
    exact fold
  have own (event : LiveLogEvent)
      (mem : event∈preloadedEvents hub.instanceId serviceId now pushed.length lines) :
      event.serviceId=serviceId := serviceId_preloadedEvents _ _ _ mem
  have numbers := numbers_append rfl rings.increasing rings.bounded
    (preloadedEvents_continue hub.instanceId serviceId now pushed.length lines)
  rw [LiveLogHub.reconcileService,if_neg fresh,preloaded]
  refine ⟨?_,numbers.1,numbers.2,fun event mem => ?_,fun id service found => ?_⟩
  · rw [List.length_append,length_preloadedEvents]
  · simp only [Std.ExtTreeMap.mem_insert]
    rcases List.mem_append.mp mem with old|new
    · exact .inr (rings.known event old)
    · exact .inl (by rw [own event new]; simp)
  · simp only [Std.ExtTreeMap.getElem?_insert] at found
    rw [pushedFor_append]
    by_cases same : serviceId=id
    · subst same
      have none : pushedFor serviceId pushed=[] := pushedFor_none fun event mem eq =>
        fresh (eq ▸ rings.known event mem)
      rw [if_pos (by simp)] at found
      cases found
      rw [none,List.nil_append,pushedFor_all own]
      exact keeps
    · rw [if_neg (by simpa using same)] at found
      have none : pushedFor id (preloadedEvents hub.instanceId serviceId now pushed.length lines)=[] :=
        pushedFor_none fun event mem eq => same ((own event mem).symm.trans eq)
      rw [none,List.append_nil]
      exact rings.rings id service found

theorem reconcile_fold (services : List (String × List PreloadedLine)) (now : Nat)
    (hub : LiveLogHub) (pushed : List LiveLogEvent) (rings : HubRings hub pushed)
    (distinct : (services.map (·.1)).Nodup) (fresh : ∀serviceId∈services.map (·.1),
      serviceId∉hub.services)
    (room : pushed.length+(services.flatMap (·.2)).length ≤ U64.top) :
    HubRings (services.foldl (fun hub (serviceId,lines) =>
        hub.reconcileService serviceId lines now) hub)
      (pushed++loadedEvents hub.instanceId now pushed.length services) := by
  induction services generalizing hub pushed with
  | nil => simpa [loadedEvents] using rings
  | cons service services ih =>
    obtain ⟨serviceId,lines⟩ := service
    rw [List.map_cons,List.nodup_cons] at distinct
    rw [List.flatMap_cons,List.length_append] at room
    simp only at room
    have new := fresh serviceId List.mem_cons_self
    have added := rings.add serviceId lines now new (by omega)
    have same : (hub.reconcileService serviceId lines now).instanceId=hub.instanceId := by
      rw [LiveLogHub.reconcileService,if_neg new]
    have later : ∀other∈services.map (·.1),
        other∉(hub.reconcileService serviceId lines now).services := by
      intro other mem inside
      rw [LiveLogHub.reconcileService,if_neg new] at inside
      simp only [Std.ExtTreeMap.mem_insert] at inside
      rcases inside with eq|old
      · have eq : serviceId=other := by simpa using eq
        exact distinct.1 (eq ▸ mem)
      · exact fresh other (List.mem_cons_of_mem _ mem) old
    have length : (pushed++preloadedEvents hub.instanceId serviceId now pushed.length lines).length=
        pushed.length+lines.length := by
      rw [List.length_append,length_preloadedEvents]
    have rest := ih _ _ added distinct.2 later (by rw [length]; omega)
    rw [same,length,List.append_assoc] at rest
    exact rest

def ringState (s : LiveServiceState) : List LiveLogEvent × Nat := (s.ring,s.ringBytes)

/-- The hubs have the same rings and numbers. -/
structure SameRings (hub other : LiveLogHub) : Prop where
  instanceId : other.instanceId=hub.instanceId
  nextSequence : other.nextSequence=hub.nextSequence
  rings : ∀serviceId : String,
    other.services[serviceId]?.map ringState=hub.services[serviceId]?.map ringState

theorem SameRings.refl (hub : LiveLogHub) : SameRings hub hub := ⟨rfl,rfl,fun _ => rfl⟩

theorem SameRings.mem {hub other : LiveLogHub} (same : SameRings hub other) (serviceId : String) :
    serviceId∈other.services ↔ serviceId∈hub.services := by
  have isSome := congrArg Option.isSome (same.rings serviceId)
  rw [Option.isSome_map,Option.isSome_map] at isSome
  rw [Std.ExtTreeMap.mem_iff_isSome_getElem?,Std.ExtTreeMap.mem_iff_isSome_getElem?,isSome]

theorem HubRings.same {hub other : LiveLogHub} {pushed : List LiveLogEvent}
    (rings : HubRings hub pushed) (same : SameRings hub other) : HubRings other pushed := by
  refine ⟨same.nextSequence.trans rings.counted,rings.increasing,rings.bounded,
    fun event mem => (same.mem _).mpr (rings.known event mem),fun serviceId service found => ?_⟩
  have equal := same.rings serviceId
  rw [found] at equal
  obtain ⟨old,was,parts⟩ := Option.map_eq_some_iff.mp equal.symm
  have ring : service.ring=old.ring := (congrArg Prod.fst parts).symm
  have bytes : service.ringBytes=old.ringBytes := (congrArg Prod.snd parts).symm
  obtain ⟨longest,counted⟩ := rings.rings serviceId old was
  exact ⟨by rw [ring]; exact longest,by rw [bytes,ring]; exact counted⟩

/-- A service that is stored again with its ring. -/
theorem sameRings_insert {hub : LiveLogHub} {serviceId : String} {service changed : LiveServiceState}
    (found : hub.services[serviceId]?=some service) (ring : changed.ring=service.ring)
    (bytes : changed.ringBytes=service.ringBytes) (subscribers : Nat) :
    SameRings hub { hub with
      nextSubscriberId := subscribers
      services := hub.services.insert serviceId changed } := by
  refine ⟨rfl,rfl,fun other => ?_⟩
  simp only [Std.ExtTreeMap.getElem?_insert]
  by_cases same : serviceId=other
  · subst same
    rw [if_pos (by simp),found]
    simp [ringState,ring,bytes]
  · rw [if_neg (by simpa using same)]

theorem sameRings_takeLines (hub : LiveLogHub) (serviceId : String) (stream : LogStream)
    (bytes : List UInt8) (close : Bool) :
    SameRings hub (hub.takeLines serviceId stream bytes close).2 := by
  unfold LiveLogHub.takeLines
  cases found : hub.services[serviceId]? with
  | none => exact .refl hub
  | some service => exact sameRings_insert found (by cases stream <;> rfl) (by cases stream <;> rfl) _

theorem sameRings_storeSubscribe (hub : LiveLogHub) (serviceId : String)
    (selection : LiveLogSelection) (tail : Nat) (cursor : Option LiveLogCursor)
    (channel now : Nat) :
    SameRings hub (hub.storeSubscribe serviceId selection tail cursor channel now).2 := by
  unfold LiveLogHub.storeSubscribe LiveLogHub.subscribe
  cases found : hub.services[serviceId]? with
  | none =>
    simp only [found]
    exact ⟨rfl,rfl,fun _ => rfl⟩
  | some service =>
    simp only [found]
    split_ifs
    · exact ⟨rfl,rfl,fun _ => rfl⟩
    · refine sameRings_insert found ?_ ?_ _ <;> rfl

theorem sameRings_setSubscriber (hub : LiveLogHub) (serviceId : String) (subscriberId : Nat)
    (subscriber : LiveSubscriber) :
    SameRings hub (hub.setSubscriber serviceId subscriberId subscriber) := by
  unfold LiveLogHub.setSubscriber
  cases found : hub.services[serviceId]? with
  | none => exact .refl hub
  | some service => refine sameRings_insert found ?_ ?_ _ <;> rfl

theorem sameRings_unsubscribe (hub : LiveLogHub) (serviceId : String) (subscriberId : Nat) :
    SameRings hub (hub.unsubscribe serviceId subscriberId) := by
  unfold LiveLogHub.unsubscribe
  cases found : hub.services[serviceId]? with
  | none => exact .refl hub
  | some service => refine sameRings_insert found ?_ ?_ _ <;> rfl

/-- A line of a service that the hub has goes into the ring of this service. -/
theorem HubRings.publish {hub : LiveLogHub} {pushed : List LiveLogEvent} (rings : HubRings hub pushed)
    {serviceId : String} {service : LiveServiceState}
    (found : hub.services[serviceId]?=some service) (stream : LogStream) (text : String) (now : Nat)
    (gapTimes : Nat → Nat) (room : pushed.length+1 ≤ U64.top) :
    (hub.publishLine serviceId stream text now gapTimes).1=
        .line hub.instanceId serviceId stream (pushed.length+1) text now ∧
      HubRings (hub.publishLine serviceId stream text now gapTimes).2
        (pushed++[.line hub.instanceId serviceId stream (pushed.length+1) text now]) := by
  have next : U64.saturatingAdd hub.nextSequence 1=pushed.length+1 := by
    rw [rings.counted]
    exact Nat.min_eq_left room
  unfold LiveLogHub.publishLine
  simp only [next,found]
  generalize made : LiveLogEvent.line hub.instanceId serviceId stream (pushed.length+1) text now=event
  have own : event.serviceId=serviceId := by rw [← made]; rfl
  have number : event.number=pushed.length+1 := by rw [← made]; rfl
  have continues : Continues pushed.length [event] := by
    refine ⟨List.pairwise_singleton _ _,fun other mem => ?_⟩
    rw [List.mem_singleton.mp mem,number]
    simp
  have numbers := numbers_append rfl rings.increasing rings.bounded continues
  refine ⟨trivial,by simp,numbers.1,numbers.2,fun other mem => ?_,fun id after here => ?_⟩
  · simp only [Std.ExtTreeMap.mem_insert]
    rcases List.mem_append.mp mem with old|new
    · exact .inr (rings.known other old)
    · exact .inl (by rw [List.mem_singleton.mp new,own]; simp)
  · simp only [Std.ExtTreeMap.getElem?_insert] at here
    rw [pushedFor_append]
    by_cases same : serviceId=id
    · subst same
      rw [if_pos (by simp)] at here
      cases here
      have all : pushedFor serviceId [event]=[event] := pushedFor_all fun other mem => by
        rw [List.mem_singleton.mp mem,own]
      obtain ⟨longest,bytes⟩ := (rings.rings serviceId service found).push event
      rw [all]
      exact ⟨longest,bytes⟩
    · rw [if_neg (by simpa using same)] at here
      have none : pushedFor id [event]=[] := pushedFor_none fun other mem eq =>
        same (by rw [← eq,List.mem_singleton.mp mem,own])
      rw [none,List.append_nil]
      exact rings.rings id after here

/-- The rings of a hub for which these events were pushed: in each the longest end that fits, its bytes
counted, with numbers that increase and that no other ring has. -/
structure RingsHold (hub : LiveLogHub) (pushed : List LiveLogEvent) : Prop where
  longest : ∀(serviceId : String) (service : LiveServiceState),
    hub.services[serviceId]?=some service → Longest Fits service.ring (pushedFor serviceId pushed)
  bytes : ∀(serviceId : String) (service : LiveServiceState),
    hub.services[serviceId]?=some service → service.ringBytes=textTotal service.ring
  increasing : ∀(serviceId : String) (service : LiveServiceState),
    hub.services[serviceId]?=some service →
      (service.ring.map LiveLogEvent.number).Pairwise (· < ·)
  apart : ∀(serviceId other : String) (service another : LiveServiceState),serviceId≠other →
    hub.services[serviceId]?=some service → hub.services[other]?=some another →
      ∀a∈service.ring,∀b∈another.ring,a.number≠b.number

theorem HubRings.hold {hub : LiveLogHub} {pushed : List LiveLogEvent} (rings : HubRings hub pushed) :
    RingsHold hub pushed := by
  have inside {serviceId : String} {service : LiveServiceState}
      (found : hub.services[serviceId]?=some service) :
      List.Sublist service.ring (pushedFor serviceId pushed) :=
    (rings.rings serviceId service found).longest.suffix.sublist
  have mem {serviceId : String} {service : LiveServiceState} {event : LiveLogEvent}
      (found : hub.services[serviceId]?=some service) (here : event∈service.ring) :
      event∈pushed ∧ event.serviceId=serviceId := by
    simpa [pushedFor] using (inside found).subset here
  refine ⟨fun serviceId service found => (rings.rings serviceId service found).longest,
    fun serviceId service found => (rings.rings serviceId service found).bytes,
    fun serviceId service found => ?_,fun serviceId other service another apart found found' => ?_⟩
  · exact rings.increasing.sublist (((inside found).trans List.filter_sublist).map _)
  · intro a here b here' same
    obtain ⟨first,own⟩ := mem found here
    obtain ⟨second,own'⟩ := mem found' here'
    have distinct : (pushed.map LiveLogEvent.number).Nodup := rings.increasing.imp Nat.ne_of_lt
    have equal : a=b := List.inj_on_of_nodup_map distinct first second same
    exact apart (own.symm.trans (equal ▸ own'))

namespace LiveLogRun

/-- What holds of the rings in every state of a run that began with the events `loaded`. -/
structure Rings (loaded : List LiveLogEvent) (s : LiveLogRun) : Prop where
  hub : HubRings s.hub (loaded++s.published)
  waiting : ∀line∈s.waiting,line.1∈s.hub.services
  counted : s.numbered=(loaded++s.published).length

variable {loaded : List LiveLogEvent} {s : LiveLogRun}

/-- What changes no ring keeps them. -/
theorem Rings.same (rings : Rings loaded s) {t : LiveLogRun} (same : SameRings s.hub t.hub)
    (published : t.published=s.published) (numbered : t.numbered=s.numbered)
    (waiting : ∀line∈t.waiting,line.1∈s.hub.services) : Rings loaded t := by
  refine ⟨?_,fun line mem => (same.mem _).mpr (waiting line mem),?_⟩
  · rw [published]
    exact rings.hub.same same
  · rw [published,numbered]
    exact rings.counted

theorem Rings.takeLines (rings : Rings loaded s) (serviceId : String) (stream : LogStream)
    (bytes : List UInt8) (close : Bool) : Rings loaded (s.takeLines serviceId stream bytes close) := by
  refine rings.same (sameRings_takeLines ..) rfl rfl fun line mem => ?_
  unfold LiveLogRun.takeLines LiveLogHub.takeLines at mem
  cases found : s.hub.services[serviceId]? with
  | none => simp [found] at mem
  | some service =>
    obtain ⟨text,-,rfl⟩ := List.mem_map.mp mem
    exact Std.ExtTreeMap.mem_iff_isSome_getElem?.mpr (by rw [found]; rfl)

theorem Rings.emit (rings : Rings loaded s) (now : Nat) (gapTimes : Nat → Nat)
    (room : (s.emit now gapTimes).numbered ≤ U64.top) : Rings loaded (s.emit now gapTimes) := by
  unfold LiveLogRun.emit at room ⊢
  cases line : s.waiting with
  | nil => exact rings
  | cons first waiting =>
    obtain ⟨serviceId,stream,text⟩ := first
    rw [line] at room
    have known := rings.waiting _ (line ▸ List.mem_cons_self)
    obtain ⟨service,found⟩ := Option.isSome_iff_exists.mp
      (Std.ExtTreeMap.mem_iff_isSome_getElem?.mp known)
    have room : (loaded++s.published).length+1 ≤ U64.top := by
      rw [← rings.counted]
      exact room
    obtain ⟨event,after⟩ := rings.hub.publish found stream text now gapTimes room
    refine ⟨?_,fun other mem => ?_,?_⟩
    · show HubRings _ (loaded++(s.published++[_]))
      rw [event,← List.append_assoc]
      exact after
    · have there := rings.waiting other (line ▸ List.mem_cons_of_mem _ mem)
      unfold LiveLogHub.publishLine
      simp only [found,Std.ExtTreeMap.mem_insert]
      exact .inr there
    · show s.numbered+1=(loaded++(s.published++[_])).length
      rw [rings.counted]
      simp [Nat.add_assoc]

theorem Rings.subscribe (rings : Rings loaded s) (serviceId : String) (selection : LiveLogSelection)
    (tail : Nat) (cursor : Option LiveLogCursor) (now : Nat) :
    Rings loaded (s.subscribe serviceId selection tail cursor now) := by
  have same := sameRings_storeSubscribe s.hub serviceId selection tail cursor s.connections.length now
  unfold LiveLogRun.subscribe
  generalize s.hub.storeSubscribe serviceId selection tail cursor s.connections.length now=answer
    at same ⊢
  obtain ⟨result,hub⟩ := answer
  cases result <;> exact rings.same same rfl rfl rings.waiting

theorem Rings.receive (rings : Rings loaded s) (channel : Nat) (connection : LiveLogConnection) :
    Rings loaded (s.receive channel connection) := by
  unfold LiveLogRun.receive
  cases s.subscriberOf channel with
  | none =>
    cases connection.leftover with
    | nil => exact rings
    | cons event leftover => exact rings.same (.refl _) rfl rfl rings.waiting
  | some subscriber =>
    simp only
    cases subscriber.queue with
    | nil => exact rings
    | cons event queue => exact rings.same (sameRings_setSubscriber ..) rfl rfl rings.waiting

/-- Each step keeps the rings, as long as the numbers last. -/
theorem rings_step : Run.Keeps advance (fun s move => (advance move s).numbered ≤ U64.top)
    (Rings loaded) := by
  intro s move rings room
  cases move with
  | publish serviceId stream bytes =>
    rw [advance]
    split_ifs
    · exact rings.takeLines ..
    · exact rings
  | closeStream serviceId stream =>
    rw [advance]
    split_ifs
    · exact rings.takeLines ..
    · exact rings
  | emit now gapTimes => exact rings.emit now gapTimes room
  | subscribe serviceId selection tail cursor now =>
    rw [advance]
    split_ifs
    · exact rings.subscribe ..
    · exact rings
  | receive channel =>
    rw [advance]
    cases s.connections[channel]? with
    | none => exact rings
    | some connection =>
      simp only
      split_ifs
      · exact rings.receive ..
      · exact rings
  | drop channel =>
    rw [advance]
    cases s.connections[channel]? with
    | none => exact rings
    | some connection =>
      simp only
      split_ifs
      · exact rings.same (sameRings_unsubscribe ..) rfl rfl rings.waiting
      · exact rings

theorem numbered_step (move : LiveLogMove) (s : LiveLogRun) :
    s.numbered ≤ (advance move s).numbered ∧ (advance move s).numbered ≤ s.numbered+1 := by
  have same {t : LiveLogRun} (numbered : t.numbered=s.numbered) :
      s.numbered ≤ t.numbered ∧ t.numbered ≤ s.numbered+1 := by omega
  cases move with
  | publish serviceId stream bytes =>
    rw [advance]
    split_ifs <;> exact same rfl
  | closeStream serviceId stream =>
    rw [advance]
    split_ifs <;> exact same rfl
  | emit now gapTimes =>
    rw [advance,LiveLogRun.emit]
    cases s.waiting with
    | nil => exact same rfl
    | cons line waiting => exact ⟨Nat.le_succ _,Nat.le_refl _⟩
  | subscribe serviceId selection tail cursor now =>
    rw [advance]
    split_ifs
    · rw [LiveLogRun.subscribe]
      split <;> exact same rfl
    · exact same rfl
  | receive channel =>
    rw [advance]
    split
    · split_ifs
      · rw [LiveLogRun.receive]
        split <;> split <;> exact same rfl
      · exact same rfl
    · exact same rfl
  | drop channel =>
    rw [advance]
    split
    · split_ifs <;> exact same rfl
    · exact same rfl

theorem numbered_final (moves : List LiveLogMove) (s : LiveLogRun) :
    s.numbered ≤ (Run.final advance moves s).numbered ∧
      (Run.final advance moves s).numbered ≤ s.numbered+moves.length := by
  induction moves generalizing s with
  | nil => simp
  | cons move moves ih =>
    obtain ⟨more,one⟩ := numbered_step move s
    obtain ⟨low,high⟩ := ih (advance move s)
    rw [Run.final_cons,List.length_cons]
    omega

/-- If the numbers last for a whole run, they last at each step of it. -/
theorem numbered_along (moves : List LiveLogMove) (s : LiveLogRun)
    (few : (Run.final advance moves s).numbered ≤ U64.top) :
    Run.Along advance (fun s move => (advance move s).numbered ≤ U64.top) moves s := by
  induction moves generalizing s with
  | nil => trivial
  | cons move moves ih =>
    have low := (numbered_final moves (advance move s)).1
    exact ⟨low.trans few,ih (advance move s) few⟩

/-- If the move publishes a line, its number and the bytes of its ring do not saturate. -/
def PushesExactly (s : LiveLogRun) (move : LiveLogMove) : Prop :=
  ∀now gapTimes serviceId stream text waiting,move=.emit now gapTimes →
    s.waiting=(serviceId,stream,text)::waiting →
      s.hub.nextSequence+1 ≤ U64.top ∧
      ∀service,s.hub.services[serviceId]?=some service → text.utf8ByteSize < 2^63 →
        let event := LiveLogEvent.line s.hub.instanceId serviceId stream (s.hub.nextSequence+1) text now
        service.checkedPush event=some (service.pushRing event)

theorem Rings.pushesExactly (rings : Rings loaded s) (move : LiveLogMove)
    (room : (advance move s).numbered ≤ U64.top) : PushesExactly s move := by
  intro now gapTimes serviceId stream text waiting eq line
  subst eq
  have next : s.numbered+1 ≤ U64.top := by
    rw [advance,LiveLogRun.emit,line] at room
    exact room
  rw [rings.counted,← rings.hub.counted] at next
  exact ⟨next,fun service found string => (rings.hub.rings serviceId service found).checked _ string⟩

theorem start_rings (instanceId : String) (services : List (String × List PreloadedLine))
    (now : Nat) (distinct : (services.map (·.1)).Nodup)
    (few : (services.flatMap (·.2)).length ≤ U64.top) :
    Rings (loadedEvents instanceId now 0 services) (start instanceId services now) := by
  have empty (f : String → LiveServiceState → Bool) :
      (∅ : Std.ExtTreeMap String LiveServiceState).filter f=∅ := by
    apply Std.ExtTreeMap.ext_getElem?
    intro serviceId
    simp [Std.ExtTreeMap.getElem?_filter]
  have fresh : HubRings (LiveLogHub.new instanceId) [] :=
    ⟨rfl,List.Pairwise.nil,by simp,by simp,fun serviceId service found => by
      simp [LiveLogHub.new] at found⟩
  have rings := reconcile_fold services now (LiveLogHub.new instanceId) [] fresh distinct
    (by simp [LiveLogHub.new]) (by simpa using few)
  have hub : (start instanceId services now).hub=services.foldl (fun hub (serviceId,lines) =>
      hub.reconcileService serviceId lines now) (LiveLogHub.new instanceId) := by
    show (LiveLogHub.new instanceId).reconcile services now=_
    unfold LiveLogHub.reconcile
    simp only [LiveLogHub.new,empty]
  refine ⟨?_,by simp [start],?_⟩
  · show HubRings _ (loadedEvents instanceId now 0 services++[])
    rw [hub,List.append_nil]
    exact rings
  · show (services.flatMap (·.2)).length=(loadedEvents instanceId now 0 services++[]).length
    rw [List.append_nil,length_loadedEvents]

/-- In every run with numbers that last, every ring is the longest end of what was pushed for its service
that fits, and nothing saturates. -/
theorem rings_exact (instanceId : String) (services : List (String × List PreloadedLine))
    (now : Nat) (distinct : (services.map (·.1)).Nodup) (moves : List LiveLogMove)
    (few : (after instanceId services now moves).numbered ≤ U64.top) :
    Run.Along advance PushesExactly moves (start instanceId services now) ∧
      RingsHold (after instanceId services now moves).hub
        (loadedEvents instanceId now 0 services++
          (after instanceId services now moves).published) := by
  have along := numbered_along moves (start instanceId services now) few
  have lines := (numbered_final moves (start instanceId services now)).1.trans few
  have rings := start_rings instanceId services now distinct lines
  exact ⟨rings_step.along (fun s move rings room => rings.pushesExactly move room) rings along,
    (rings_step.final rings along).hub.hold⟩

/-- One line, of a service whose log file has another. -/
theorem rings_exact_line :
    RingsHold (after "1-1" [("api",[⟨.stdout,none,"ready"⟩])] 0
        [.publish "api" .stdout [104,105,10],.emit 1 fun _ => 1]).hub
      (loadedEvents "1-1" 0 0 [("api",[⟨.stdout,none,"ready"⟩])]++
        (after "1-1" [("api",[⟨.stdout,none,"ready"⟩])] 0
          [.publish "api" .stdout [104,105,10],.emit 1 fun _ => 1]).published) := by
  have few := (numbered_final [.publish "api" .stdout [104,105,10],.emit 1 fun _ => 1]
    (start "1-1" [("api",[⟨.stdout,none,"ready"⟩])] 0)).2
  exact (rings_exact "1-1" [("api",[⟨.stdout,none,"ready"⟩])] 0 (by decide) _
    (few.trans (by decide))).2

end LiveLogRun

end AkuSupervisor

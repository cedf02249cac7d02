import AkuSupervisor.Adapters.LiveLogFollow

namespace AkuSupervisor

open ServiceLogs LossyQueue

namespace LiveLogFollower

open LiveLogRun

variable {viewer : LiveLogViewer} {loaded : List LiveLogEvent} {instanceId : String}
  {f : LiveLogFollower} {channel : Nat} {connection : LiveLogConnection} {line : LiveLogEvent}

/-- The last connection of the client: lines up to the cursor it came with are known, and it has got
all later ones that were in the ring. -/
structure Follows (viewer : LiveLogViewer) (f : LiveLogFollower) (channel : Nat)
    (connection : LiveLogConnection) : Prop where
  there : f.run.connections[channel]?=some connection
  serviceId : connection.serviceId=viewer.serviceId
  selection : connection.selection=viewer.selection
  read : f.read ≤ (connection.initial++connection.received).length
  first : f.first ≤ connection.since
  lines : ∀event∈connection.initial,event.isLine=true
  beyond : ∀c,f.resumedFrom=some c → (∀event∈connection.initial,c.sequence < event.number) ∧
    ∀event∈f.run.published.drop connection.since,c.sequence < event.number
  past : ∀line∈f.run.ringOf viewer.serviceId,line∈f.run.published.drop f.first →
    viewer.wants line=true → ∀c,f.resumedFrom=some c → line.number ≤ c.sequence →
      Known (f.run.published.filter viewer.wants) f.earlier line
  replayed : ∀line∈f.run.ringOf viewer.serviceId,
    line∈(f.run.published.take connection.since).drop f.first → viewer.wants line=true →
      (∀c,f.resumedFrom=some c → c.sequence < line.number) → line∈connection.initial

/-- What holds of the client in every state of a run. -/
structure Holds (viewer : LiveLogViewer) (loaded : List LiveLogEvent) (instanceId : String)
    (f : LiveLogFollower) : Prop where
  delivers : Delivers loaded f.run
  stamped : Stamped instanceId loaded f.run
  fresh : f.channel=none → f.earlier=[] ∧ f.read=0 ∧ f.resumedFrom=none
  follows : ∀channel,f.channel=some channel → ∃connection,Follows viewer f channel connection
  cursor : f.cursor=(f.stream.take f.read).foldl advanceLiveLogCursor f.resumedFrom
  hub : ∀c,f.resumedFrom=some c → c.hubInstanceId=instanceId
  bounded : ∀c,f.resumedFrom=some c → ∃old∈loaded++f.run.published,c.sequence=old.number
  earlier : ∀event∈f.earlier,∃c,f.resumedFrom=some c ∧ event.number ≤ c.sequence
  increasing : ((logLines f.earlier).map LiveLogEvent.number).Pairwise (· < ·)

theorem stream_of (is : f.channel=some channel)
    (there : f.run.connections[channel]?=some connection) :
    f.stream=connection.initial++connection.received := by
  unfold stream
  rw [is,Option.bind_some,there]

theorem stream_none (is : f.channel=none) : f.stream=[] := by
  unfold stream
  rw [is]
  rfl

theorem Follows.wants (follows : Follows viewer f channel connection) :
    connection.wants=viewer.wants := by
  funext event
  unfold LiveLogConnection.wants LiveLogViewer.wants
  rw [follows.serviceId,follows.selection]

/-- What the server sends has the numbers of published lines, and is a line or a gap. -/
theorem Holds.sent (holds : Holds viewer loaded instanceId f)
    (follows : Follows viewer f channel connection) (event : LiveLogEvent)
    (mem : event∈connection.initial++connection.received) :
    Sequenced instanceId event ∧ (∃old∈loaded++f.run.published,event.number=old.number) ∧
      (event.isLine=true ∨ event.kind=.gap) := by
  have lines (line : LiveLogEvent) (pushed : line∈loaded++f.run.published) :
      Sequenced instanceId line ∧ (∃old∈loaded++f.run.published,line.number=old.number) ∧
        (line.isLine=true ∨ line.kind=.gap) :=
    ⟨(holds.stamped.lines line pushed).1,⟨line,pushed,rfl⟩,
      .inl (holds.stamped.lines line pushed).2⟩
  rcases List.mem_append.mp mem with initial|received
  · have inside := (holds.delivers.replays connection (List.mem_of_getElem? follows.there)).subset
      (List.mem_filter.mpr ⟨initial,follows.lines event initial⟩)
    apply lines
    rcases List.mem_append.mp inside with old|new
    · exact List.mem_append_left _ old
    · exact List.mem_append_right _ (List.mem_of_mem_take new)
  · obtain ⟨offered,rest,lost,split,⟨entries,tells,accounts⟩,-⟩ :=
      holds.delivers.kept.accounted channel connection follows.there
    have published (line : LiveLogEvent) (mem : line∈offered) : line∈loaded++f.run.published := by
      have inside : line∈connection.matching f.run.published := by
        rw [split]
        exact List.mem_append_left _ mem
      exact List.mem_append_right _ (List.mem_of_mem_drop (List.mem_filter.mp inside).1)
    obtain ⟨entry,there,tells⟩ := exists_of_mem_left tells (List.mem_append_left _ received)
    cases tells with
    | line =>
      apply lines
      apply published
      exact accounts.sublist.subset (List.mem_filterMap.mpr ⟨_,there,rfl⟩)
    | gap next lost kind _ sequence hub =>
      obtain ⟨front,back,cut⟩ := List.append_of_mem there
      obtain ⟨low,gone,high,all,-⟩ := accounts.gap cut
      have pushed := published next (by rw [all]; simp)
      have stamp := (holds.stamped.lines next pushed).1
      have number : event.number=next.number := congrArg (Option.getD · 0) sequence
      refine ⟨⟨hub.trans stamp.hub,?_⟩,⟨next,pushed,number⟩,.inr kind⟩
      rw [sequence,number]
      exact stamp.sequence

/-- Where the cursor stands. -/
theorem Holds.cursor_cases (holds : Holds viewer loaded instanceId f)
    (follows : Follows viewer f channel connection) (is : f.channel=some channel) :
    (f.stream.take f.read=[] ∧ f.cursor=f.resumedFrom) ∨
      ∃c,f.cursor=some c ∧ c.hubInstanceId=instanceId ∧
        (∀event∈f.stream.take f.read,event.number ≤ c.sequence) ∧
        (∀before,f.resumedFrom=some before → before.sequence ≤ c.sequence) ∧
        ((∃before,f.resumedFrom=some before ∧ c.sequence=before.sequence) ∨
          ∃event∈f.stream.take f.read,c.sequence=event.number) := by
  rw [holds.cursor]
  apply cursor_after f.resumedFrom holds.hub
  intro event mem
  rw [stream_of is follows.there] at mem
  exact (holds.sent follows event (List.mem_of_mem_take mem)).1

/-- A line of the ring was pushed. -/
theorem mem_ringOf {s : LiveLogRun} (rings : Rings loaded s) {serviceId : String}
    (mem : line∈s.ringOf serviceId) : line∈loaded++s.published := by
  unfold ringOf at mem
  cases there : s.hub.services[serviceId]? with
  | none =>
    rw [there] at mem
    cases mem
  | some service =>
    rw [there] at mem
    have ring := (rings.hub.rings serviceId service there).longest.suffix.subset mem
    exact (List.mem_filter.mp ring).1

theorem Holds.initial_increasing (holds : Holds viewer loaded instanceId f)
    (follows : Follows viewer f channel connection) :
    (connection.initial.map LiveLogEvent.number).Pairwise (· < ·) := by
  have replays := holds.delivers.replays connection (List.mem_of_getElem? follows.there)
  have lines : logLines connection.initial=connection.initial :=
    List.filter_eq_self.mpr follows.lines
  rw [lines] at replays
  have all := replays.trans (List.Sublist.append_left (List.take_sublist ..) loaded)
  exact holds.delivers.rings.hub.increasing.sublist (all.map _)

/-- The client has read all that was replayed up to any event it has read. -/
theorem Holds.read_replayed (holds : Holds viewer loaded instanceId f)
    (follows : Follows viewer f channel connection) (initial : line∈connection.initial)
    {event : LiveLogEvent} (mem : event∈(connection.initial++connection.received).take f.read)
    (le : line.number ≤ event.number) :
    line∈(connection.initial++connection.received).take f.read := by
  rw [List.take_append] at mem ⊢
  by_cases short : f.read ≤ connection.initial.length
  · rw [Nat.sub_eq_zero_of_le short,List.take_zero,List.append_nil] at mem ⊢
    obtain ⟨before,after,cut⟩ := List.append_of_mem mem
    have split : connection.initial=before++event::(after++connection.initial.drop f.read) := by
      rw [← List.cons_append,← List.append_assoc,← cut,List.take_append_drop]
    have here := mem_upTo (holds.initial_increasing follows) split initial le
    rw [cut,List.append_cons]
    exact List.mem_append_left _ here
  · rw [List.take_of_length_le (by omega)]
    exact List.mem_append_left _ initial

/-- Once the last event read is a line, all that was published up to it is known. -/
theorem Holds.read_live (holds : Holds viewer loaded instanceId f)
    (follows : Follows viewer f channel connection)
    (live : line∈f.run.published.drop connection.since) (wanted : viewer.wants line=true)
    {before : List LiveLogEvent} {last : LiveLogEvent}
    (is : (connection.initial++connection.received).take f.read=before++[last])
    (noGap : last.kind≠.gap) {event : LiveLogEvent} (mem : event∈before++[last])
    (le : line.number ≤ event.number) :
    Known (connection.matching f.run.published) (before++[last]) line := by
  have numbers := holds.delivers.rings.hub.increasing
  have mine := List.mem_of_getElem? follows.there
  have inside : line∈connection.matching f.run.published :=
    List.mem_filter.mpr ⟨live,by rw [follows.wants]; exact wanted⟩
  -- whatever was replayed is older than the line
  have older (old : LiveLogEvent) (initial : old∈connection.initial) :
      old.number < line.number := by
    have pushed := (holds.delivers.replays connection mine).subset
      (List.mem_filter.mpr ⟨initial,follows.lines old initial⟩)
    rw [← List.take_append_drop connection.since f.run.published,← List.append_assoc,
      List.map_append,List.pairwise_append] at numbers
    exact numbers.2.2 _ (List.mem_map_of_mem pushed) _ (List.mem_map_of_mem live)
  rw [List.take_append] at is
  have young : event∈connection.received.take (f.read-connection.initial.length) := by
    rw [← is] at mem
    rcases List.mem_append.mp mem with replayed|received
    · have less := older event (List.mem_of_mem_take replayed)
      omega
    · exact received
  obtain ⟨rest,final,cut⟩ : ∃rest final,
      connection.received.take (f.read-connection.initial.length)=rest++[final] :=
    ⟨_,_,(List.dropLast_append_getLast (List.ne_nil_of_mem young)).symm⟩
  rw [cut,← List.append_assoc] at is
  obtain ⟨same,ends⟩ := List.append_inj' is rfl
  cases ends
  obtain ⟨offered,later,lost,all,ledger,-⟩ :=
    holds.delivers.kept.accounted channel connection follows.there
  have split : connection.received++f.run.queued channel connection=
      rest++last::(connection.received.drop (f.read-connection.initial.length)++
        f.run.queued channel connection) := by
    rw [← List.cons_append,← List.append_assoc,List.append_cons rest,← cut,List.take_append_drop]
  have isLine : last.isLine=true := by
    have received : last∈connection.received :=
      List.mem_of_mem_take (by rw [cut]; exact List.mem_append_right _ (List.mem_singleton_self _))
    have sent := (holds.sent follows last (List.mem_append_right _ received)).2.2
    exact sent.resolve_right noGap
  have sublist : List.Sublist (connection.matching f.run.published) (loaded++f.run.published) :=
    (List.filter_sublist.trans (List.drop_sublist _ _)).trans (List.sublist_append_right _ _)
  have increasing := numbers.sublist (sublist.map _)
  rw [all] at increasing inside
  have first : (offered.map LiveLogEvent.number).Pairwise (· < ·) :=
    increasing.sublist ((List.sublist_append_left _ _).map _)
  obtain ⟨told,most,covers⟩ := told_upTo first ledger split isLine
  have upTo : line.number ≤ last.number := by
    rw [cut] at young
    rcases List.mem_append.mp young with old|new
    · exact le.trans (most event old)
    · rw [List.mem_singleton.mp new] at le
      exact le
  obtain ⟨low,high,parts⟩ := List.append_of_mem told
  have offers : line∈offered := by
    have whole : offered++later=low++last::(high++later) := by
      rw [parts,List.append_assoc,List.cons_append]
    have early := mem_upTo increasing whole inside upTo
    rw [parts,List.append_cons]
    exact List.mem_append_left _ early
  rw [all,← same,List.append_assoc]
  rcases covers line offers upTo with shown|⟨gap,here,counts⟩
  · exact .inl (List.mem_append_right _ shown)
  · exact .inr ⟨gap,List.mem_append_right _ here,counts.mono [] later⟩

/-- A line of the ring up to the cursor is known, unless the client has just read a gap. -/
theorem Holds.covers (holds : Holds viewer loaded instanceId f)
    (follows : Follows viewer f channel connection) (is : f.channel=some channel)
    (noGap : f.shown.getLast?.all (·.kind≠.gap)=true) {c : LiveLogCursor}
    (cursor : f.cursor=some c) (ring : line∈f.run.ringOf viewer.serviceId)
    (since : line∈f.run.published.drop f.first) (wanted : viewer.wants line=true)
    (le : line.number ≤ c.sequence) : Known (f.run.published.filter viewer.wants) f.shown line := by
  by_cases past : ∃before,f.resumedFrom=some before ∧ line.number ≤ before.sequence
  · obtain ⟨before,was,small⟩ := past
    have known := (follows.past line ring since wanted before was small).mono [] []
      (f.stream.take f.read)
    rwa [List.nil_append,List.append_nil] at known
  have later : ∀before,f.resumedFrom=some before → before.sequence < line.number := by
    intro before was
    exact Nat.lt_of_not_le fun small => past ⟨before,was,small⟩
  rcases holds.cursor_cases follows is with ⟨-,same⟩|⟨c',now,-,-,-,from_⟩
  · exact absurd ⟨c,same.symm.trans cursor,le⟩ past
  · cases now.symm.trans cursor
    rcases from_ with ⟨before,was,eq⟩|⟨event,mem,eq⟩
    · exact absurd ⟨before,was,eq ▸ le⟩ past
    rw [eq] at le
    unfold shown at noGap ⊢
    rw [stream_of is follows.there] at mem noGap ⊢
    have short := holds.delivers.kept.since connection (List.mem_of_getElem? follows.there)
    rw [drop_split follows.first short] at since
    rcases List.mem_append.mp since with old|new
    · have initial := follows.replayed line ring old wanted later
      exact .inl (List.mem_append_right _ (holds.read_replayed follows initial mem le))
    · obtain ⟨before,last,cut⟩ : ∃before last,
          (connection.initial++connection.received).take f.read=before++[last] :=
        ⟨_,_,(List.dropLast_append_getLast (List.ne_nil_of_mem mem)).symm⟩
      rw [cut,← List.append_assoc,List.getLast?_concat,Option.all_some] at noGap
      have plain : last.kind≠.gap := of_decide_eq_true noGap
      have known := holds.read_live follows new wanted cut plain (cut ▸ mem) le
      rw [cut]
      rcases known with here|⟨gap,here,counts⟩
      · exact .inl (List.mem_append_right _ here)
      · refine .inr ⟨gap,List.mem_append_right _ here,?_⟩
        have wider := counts.mono ((f.run.published.take connection.since).filter viewer.wants) []
        rw [List.append_nil] at wider
        unfold LiveLogConnection.matching at wider
        rwa [follows.wants,← List.filter_append,List.take_append_drop] at wider

variable {run : LiveLogRun} {connection' : LiveLogConnection}

/-- What the connection has got stays right while the hub goes on. -/
theorem Follows.grows (follows : Follows viewer f channel connection)
    (holds : Holds viewer loaded instanceId f) (grows : Grows loaded f.run run)
    (there : run.connections[channel]?=some connection') (more : Extends connection connection') :
    Follows viewer { f with run } channel connection' := by
  obtain ⟨fresh,published,newer⟩ := grows.published
  obtain ⟨received,is⟩ := more.received
  have short := holds.delivers.kept.since connection (List.mem_of_getElem? follows.there)
  have first : f.first ≤ f.run.published.length := follows.first.trans short
  -- the cursor the client came with is a number that was given before
  have above (c : LiveLogCursor) (was : f.resumedFrom=some c) (event : LiveLogEvent)
      (new : ∀old∈loaded++f.run.published,old.number < event.number) :
      c.sequence < event.number := by
    obtain ⟨old,mem,eq⟩ := holds.bounded c was
    rw [eq]
    exact new old mem
  constructor
  · exact there
  · exact more.serviceId.trans follows.serviceId
  · exact more.selection.trans follows.selection
  · show f.read ≤ _
    have read := follows.read
    rw [more.initial,is,← List.append_assoc,List.length_append]
    omega
  · exact follows.first.trans more.since.ge
  · rw [more.initial]
    exact follows.lines
  · intro c was
    obtain ⟨initial,later⟩ := follows.beyond c was
    rw [more.initial,more.since]
    refine ⟨initial,fun event mem => ?_⟩
    have mem : event∈run.published.drop connection.since := mem
    rw [published,List.drop_append_of_le_length short] at mem
    rcases List.mem_append.mp mem with old|new
    · exact later event old
    · exact above c was event (newer event new)
  · intro line ring since wanted c was le
    have since : line∈run.published.drop f.first := since
    show Known (run.published.filter viewer.wants) f.earlier line
    rcases grows.ring viewer.serviceId line ring with old|new
    · rw [published,List.drop_append_of_le_length first] at since
      have here : line∈f.run.published.drop f.first := by
        refine (List.mem_append.mp since).resolve_right fun young => ?_
        exact Nat.lt_irrefl _ (newer line young line (mem_ringOf holds.delivers.rings old))
      have known := (follows.past line old here wanted c was le).mono []
        (fresh.filter viewer.wants) []
      rwa [List.nil_append,List.append_nil,← List.filter_append,← published] at known
    · have less := above c was line new
      omega
  · intro line ring since wanted later
    have since : line∈(run.published.take connection'.since).drop f.first := since
    rw [more.since,published,List.take_append_of_le_length short] at since
    rw [more.initial]
    rcases grows.ring viewer.serviceId line ring with old|new
    · exact follows.replayed line old since wanted later
    · have pushed : line∈loaded++f.run.published :=
        List.mem_append_right _ (List.mem_of_mem_take (List.mem_of_mem_drop since))
      exact absurd (new line pushed) (Nat.lt_irrefl _)

theorem Holds.hub_step (holds : Holds viewer loaded instanceId f) (move : LiveLogMove)
    (room : (LiveLogRun.advance move f.run).numbered ≤ U64.top) :
    Holds viewer loaded instanceId { f with run := LiveLogRun.advance move f.run } := by
  have grows := grows_step move holds.delivers.rings room
  obtain ⟨fresh,published,-⟩ := grows.published
  constructor
  · exact delivers_step f.run move holds.delivers room
  · exact stamped_step move holds.stamped
  · exact holds.fresh
  · intro channel is
    obtain ⟨connection,follows⟩ := holds.follows channel is
    obtain ⟨connection',there,more⟩ := grows.connections channel connection follows.there
    exact ⟨connection',follows.grows holds grows there more⟩
  · have read : (stream { f with run := LiveLogRun.advance move f.run }).take f.read=
        f.stream.take f.read := by
      rcases Option.eq_none_or_eq_some f.channel with is|⟨channel,is⟩
      · rw [stream_none is,stream_none (f := { f with run := LiveLogRun.advance move f.run }) is]
      · obtain ⟨connection,follows⟩ := holds.follows channel is
        obtain ⟨connection',there,more⟩ := grows.connections channel connection follows.there
        obtain ⟨received,longer⟩ := more.received
        rw [stream_of is follows.there,
          stream_of (f := { f with run := LiveLogRun.advance move f.run }) is there,more.initial,
          longer,← List.append_assoc,List.take_append_of_le_length follows.read]
    show f.cursor=_
    rw [read]
    exact holds.cursor
  · exact holds.hub
  · intro c was
    obtain ⟨old,mem,eq⟩ := holds.bounded c was
    refine ⟨old,?_,eq⟩
    show old∈loaded++(LiveLogRun.advance move f.run).published
    rw [published,← List.append_assoc]
    exact List.mem_append_left _ mem
  · exact holds.earlier
  · exact holds.increasing

theorem Holds.read_step (holds : Holds viewer loaded instanceId f) {event : LiveLogEvent}
    (next : f.stream[f.read]?=some event) :
    Holds viewer loaded instanceId
      { f with cursor := advanceLiveLogCursor f.cursor event,read := f.read+1 } := by
  obtain ⟨short,here⟩ := List.getElem?_eq_some_iff.mp next
  constructor
  · exact holds.delivers
  · exact holds.stamped
  · intro nobody
    have nobody : f.channel=none := nobody
    rw [stream_none nobody] at short
    exact absurd short (Nat.not_lt_zero _)
  · intro channel is
    have is : f.channel=some channel := is
    obtain ⟨connection,follows⟩ := holds.follows channel is
    rw [stream_of is follows.there] at short
    exact ⟨connection,follows.there,follows.serviceId,follows.selection,short,follows.first,
      follows.lines,follows.beyond,follows.past,follows.replayed⟩
  · show advanceLiveLogCursor f.cursor event=
      (f.stream.take (f.read+1)).foldl advanceLiveLogCursor f.resumedFrom
    rw [List.take_succ_eq_append_getElem short,here,List.foldl_append,← holds.cursor]
    rfl
  · exact holds.hub
  · exact holds.bounded
  · exact holds.earlier
  · exact holds.increasing

theorem Holds.disconnect_step (holds : Holds viewer loaded instanceId f) :
    Holds viewer loaded instanceId { f with online := false } := by
  constructor
  · exact holds.delivers
  · exact holds.stamped
  · exact holds.fresh
  · intro channel is
    obtain ⟨connection,follows⟩ := holds.follows channel is
    exact ⟨connection,follows.there,follows.serviceId,follows.selection,follows.read,follows.first,
      follows.lines,follows.beyond,follows.past,follows.replayed⟩
  · exact holds.cursor
  · exact holds.hub
  · exact holds.bounded
  · exact holds.earlier
  · exact holds.increasing

/-- The lines the client has read on all its connections, and those still to come, have increasing
numbers. -/
theorem Holds.all_increasing (holds : Holds viewer loaded instanceId f)
    (follows : Follows viewer f channel connection) :
    ((logLines (f.earlier++(connection.initial++connection.received))).map
      LiveLogEvent.number).Pairwise (· < ·) := by
  have split : logLines (f.earlier++(connection.initial++connection.received))=
      logLines f.earlier++logLines (connection.initial++connection.received) :=
    List.filter_append ..
  rw [split,List.map_append,List.pairwise_append]
  refine ⟨holds.increasing,?_,fun a before b after => ?_⟩
  · have all := holds.delivers.increasing follows.there
    refine all.sublist (List.Sublist.map _ (List.Sublist.filter _ ?_))
    exact List.Sublist.append_left (List.sublist_append_left ..) _
  · obtain ⟨old,mem,rfl⟩ := List.mem_map.mp before
    obtain ⟨new,mem',rfl⟩ := List.mem_map.mp after
    obtain ⟨c,was,le⟩ := holds.earlier old (List.mem_filter.mp mem).1
    obtain ⟨initial,later⟩ := follows.beyond c was
    refine Nat.lt_of_le_of_lt le ?_
    obtain ⟨inside,isLine⟩ := List.mem_filter.mp mem'
    rcases List.mem_append.mp inside with replayed|received
    · exact initial new replayed
    · apply later
      have told := (holds.delivers.told_sublist follows.there).subset
        (List.mem_filter.mpr ⟨List.mem_append_left _ received,isLine⟩)
      exact (List.mem_filter.mp told).1

theorem Holds.shown_increasing (holds : Holds viewer loaded instanceId f) :
    ((logLines f.shown).map LiveLogEvent.number).Pairwise (· < ·) := by
  unfold shown
  rcases Option.eq_none_or_eq_some f.channel with is|⟨channel,is⟩
  · rw [stream_none is,List.take_nil,List.append_nil]
    exact holds.increasing
  · obtain ⟨connection,follows⟩ := holds.follows channel is
    rw [stream_of is follows.there]
    refine (holds.all_increasing follows).sublist (List.Sublist.map _ (List.Sublist.filter _ ?_))
    exact List.Sublist.append_left (List.take_sublist ..) _

/-- What the client knows of its cursor when it connects again. -/
theorem Holds.resume (holds : Holds viewer loaded instanceId f) :
    (∀c,f.cursor=some c → c.hubInstanceId=instanceId ∧
        ∃old∈loaded++f.run.published,c.sequence=old.number) ∧
      ∀event∈f.shown,∃c,f.cursor=some c ∧ event.number ≤ c.sequence := by
  unfold shown
  rcases Option.eq_none_or_eq_some f.channel with is|⟨channel,is⟩
  · obtain ⟨nothing,-,start⟩ := holds.fresh is
    have none : f.cursor=none := by
      rw [holds.cursor,stream_none is,List.take_nil,start]
      rfl
    rw [none,nothing,stream_none is]
    exact ⟨fun _ is => (by cases is),fun _ mem => (by cases List.take_nil ▸ mem)⟩
  · obtain ⟨connection,follows⟩ := holds.follows channel is
    rcases holds.cursor_cases follows is with ⟨nothing,same⟩|⟨c,now,here,most,more,from_⟩
    · rw [nothing,same,List.append_nil]
      exact ⟨fun c was => ⟨holds.hub c was,holds.bounded c was⟩,holds.earlier⟩
    · refine ⟨fun c' is' => ?_,fun event mem => ⟨c,now,?_⟩⟩
      · cases now.symm.trans is'
        refine ⟨here,?_⟩
        rcases from_ with ⟨before,was,eq⟩|⟨event,mem,eq⟩
        · rw [eq]
          exact holds.bounded before was
        · rw [stream_of is follows.there] at mem
          rw [eq]
          exact (holds.sent follows event (List.mem_of_mem_take mem)).2.1
      · rcases List.mem_append.mp mem with old|new
        · obtain ⟨before,was,le⟩ := holds.earlier event old
          exact le.trans (more before was)
        · exact most event new

/-- What the hub replays to a client that comes with a cursor of the hub, or with none. -/
theorem Holds.replay (holds : Holds viewer loaded instanceId f) {service : LiveServiceState}
    (there : f.run.hub.services[viewer.serviceId]?=some service) (tail now : Nat) :
    (∀event∈f.run.hub.replay service viewer.serviceId viewer.selection tail f.cursor now,
      event.isLine=true ∧ ∀c,f.cursor=some c → c.sequence < event.number) ∧
      ∀c,f.cursor=some c → ∀line∈f.run.ringOf viewer.serviceId,viewer.wants line=true →
        c.sequence < line.number →
        line∈f.run.hub.replay service viewer.serviceId viewer.selection tail f.cursor now := by
  have ring : f.run.ringOf viewer.serviceId=service.ring := by
    unfold ringOf
    rw [there]
    rfl
  have lines (event : LiveLogEvent) (mem : event∈service.ring) :
      Sequenced instanceId event ∧ event.isLine=true :=
    holds.stamped.lines event (mem_ringOf holds.delivers.rings (ring.symm ▸ mem))
  cases cursor : f.cursor with
  | none =>
    refine ⟨fun event mem => ⟨?_,fun c no => by cases no⟩,fun c no => by cases no⟩
    have mem := List.mem_of_mem_drop mem
    exact (lines event (List.mem_filter.mp mem).1).2
  | some c =>
    have mine : c.hubInstanceId=f.run.hub.instanceId :=
      ((holds.resume.1 c cursor).1).trans holds.stamped.hub.symm
    simp only [LiveLogHub.replay,mine,if_true]
    refine ⟨fun event mem => ?_,fun c' is line inside wanted later => ?_⟩
    · obtain ⟨matching,later⟩ := List.mem_filter.mp mem
      obtain ⟨stamp,isLine⟩ := lines event (List.mem_filter.mp matching).1
      refine ⟨isLine,fun c' is => ?_⟩
      cases is
      rw [stamp.sequence,Option.any_some] at later
      exact of_decide_eq_true later
    · cases is
      rw [ring] at inside
      have wanted : line.serviceId=viewer.serviceId ∧
          line.stream.any viewer.selection.includes=true := of_decide_eq_true wanted
      refine List.mem_filter.mpr ⟨List.mem_filter.mpr ⟨inside,wanted.2⟩,?_⟩
      rw [(lines line inside).1.sequence,Option.any_some]
      exact decide_eq_true later

/-- The client after a connection was accepted. -/
def connected (viewer : LiveLogViewer) (now : Nat) (f : LiveLogFollower)
    (service : LiveServiceState) : LiveLogFollower where
  run := f.run.joined viewer.serviceId service viewer.selection
    (f.run.hub.replay service viewer.serviceId viewer.selection (min viewer.tail maxTailLines)
      f.cursor now)
  cursor := f.cursor
  channel := some f.run.connections.length
  online := true
  read := 0
  earlier := f.shown
  resumedFrom := f.cursor
  first := if f.channel.isSome then f.first else f.run.published.length

theorem connect_cases (viewer : LiveLogViewer) (now : Nat) (f : LiveLogFollower) :
    f.connect viewer now=
        { f with
          run := f.run.subscribe viewer.serviceId viewer.selection viewer.tail f.cursor now } ∨
      ∃service,f.run.hub.services[viewer.serviceId]?=some service ∧
        f.run.subscribe viewer.serviceId viewer.selection viewer.tail f.cursor now=
          (f.connected viewer now service).run ∧
        f.connect viewer now=f.connected viewer now service := by
  rcases f.run.subscribe_cases viewer.serviceId viewer.selection viewer.tail f.cursor now with
    refused|⟨service,there,is⟩
  · left
    unfold connect
    rw [refused]
    exact if_neg (Nat.lt_irrefl _)
  · right
    refine ⟨service,there,is,?_⟩
    unfold connect
    rw [is]
    refine if_pos ?_
    rw [length_joined]
    exact Nat.lt_succ_self _

/-- A client that can resume knows all lines up to its cursor, and is sent the others. -/
theorem Holds.connected_follows (holds : Holds viewer loaded instanceId f) (now : Nat)
    {service : LiveServiceState} (there : f.run.hub.services[viewer.serviceId]?=some service)
    (well : f.channel.isSome=true → f.Resumable) :
    ∃connection,Follows viewer (f.connected viewer now service) f.run.connections.length
      connection := by
  obtain ⟨sent,all⟩ := holds.replay there (min viewer.tail maxTailLines) now
  have rings : (f.connected viewer now service).run.ringOf viewer.serviceId=
      f.run.ringOf viewer.serviceId := ringOf_same (sameRings_joined there _ _) _ rfl _
  refine ⟨_,joined_new f.run viewer.serviceId service viewer.selection _,rfl,rfl,Nat.zero_le _,?_,
    fun event mem => (sent event mem).1,?_,?_,?_⟩
  · show (if f.channel.isSome then f.first else f.run.published.length) ≤ f.run.published.length
    split_ifs with before
    · obtain ⟨channel,is⟩ := Option.isSome_iff_exists.mp before
      obtain ⟨connection,follows⟩ := holds.follows channel is
      exact follows.first.trans
        (holds.delivers.kept.since connection (List.mem_of_getElem? follows.there))
    · exact Nat.le_refl _
  · intro c was
    refine ⟨fun event mem => (sent event mem).2 c was,fun event mem => ?_⟩
    have mem : event∈f.run.published.drop f.run.published.length := mem
    rw [List.drop_length] at mem
    cases mem
  · intro line ring since wanted c was le
    have since : line∈f.run.published.drop
        (if f.channel.isSome then f.first else f.run.published.length) := since
    rw [rings] at ring
    split_ifs at since with before
    · obtain ⟨channel,is⟩ := Option.isSome_iff_exists.mp before
      obtain ⟨connection,follows⟩ := holds.follows channel is
      exact holds.covers follows is (well before).2 was ring since wanted le
    · rw [List.drop_length] at since
      cases since
  · intro line ring since wanted later
    have since : line∈(f.run.published.take f.run.published.length).drop
        (if f.channel.isSome then f.first else f.run.published.length) := since
    rw [List.take_length] at since
    rw [rings] at ring
    split_ifs at since with before
    · obtain ⟨c,was⟩ := Option.isSome_iff_exists.mp (well before).1
      exact all c was line ring wanted (later c was)
    · rw [List.drop_length] at since
      cases since

theorem Holds.connect_step (holds : Holds viewer loaded instanceId f) (now : Nat)
    (free : f.run.waiting=[]) (well : f.channel.isSome=true → f.Resumable)
    (room : (f.connect viewer now).run.numbered ≤ U64.top) :
    Holds viewer loaded instanceId (f.connect viewer now) := by
  have subscribed : LiveLogRun.advance
      (.subscribe viewer.serviceId viewer.selection viewer.tail f.cursor now) f.run=
      f.run.subscribe viewer.serviceId viewer.selection viewer.tail f.cursor now := if_pos free
  rcases connect_cases viewer now f with refused|⟨service,there,is,accepted⟩
  · rw [refused] at room ⊢
    rw [← subscribed] at room ⊢
    exact holds.hub_step _ room
  · rw [accepted] at room ⊢
    obtain ⟨cursor,shown⟩ := holds.resume
    have stamped := stamped_step
      (.subscribe viewer.serviceId viewer.selection viewer.tail f.cursor now) holds.stamped
    have delivers := delivers_step f.run
      (.subscribe viewer.serviceId viewer.selection viewer.tail f.cursor now) holds.delivers
    rw [subscribed,is] at stamped delivers
    constructor
    · apply delivers
      show (LiveLogRun.advance _ f.run).numbered ≤ U64.top
      rw [subscribed,is]
      exact room
    · exact stamped
    · intro no
      cases no
    · intro channel same
      cases same
      exact holds.connected_follows now there well
    · rfl
    · exact fun c was => (cursor c was).1
    · exact fun c was => (cursor c was).2
    · exact shown
    · exact holds.shown_increasing

theorem holds_step : Run.Keeps (advance viewer)
    (fun f move => (advance viewer move f).run.numbered ≤ U64.top ∧ f.ResumesWell move)
    (Holds viewer loaded instanceId) := by
  intro f move holds ok
  obtain ⟨room,well⟩ := ok
  cases move with
  | hub move => exact holds.hub_step move room
  | connect now =>
    rw [advance] at room ⊢
    split_ifs at room ⊢ with both
    · exact holds.connect_step now both.2 (well rfl) room
    · exact holds
  | read =>
    rw [advance]
    cases next : f.stream[f.read]? with
    | none => exact holds
    | some event =>
      simp only
      split_ifs
      · exact holds.read_step next
      · exact holds
  | disconnect => exact holds.disconnect_step

theorem numbered_step (viewer : LiveLogViewer) (move : LiveLogFollowMove) (f : LiveLogFollower) :
    f.run.numbered ≤ (advance viewer move f).run.numbered := by
  cases move with
  | hub move => exact (LiveLogRun.numbered_step move f.run).1
  | connect now =>
    rw [advance]
    split_ifs with both
    · have more := (LiveLogRun.numbered_step
        (.subscribe viewer.serviceId viewer.selection viewer.tail f.cursor now) f.run).1
      rw [LiveLogRun.advance,if_pos both.2] at more
      rcases connect_cases viewer now f with refused|⟨service,-,is,accepted⟩
      · rw [refused]
        exact more
      · rw [accepted,← is]
        exact more
    · exact Nat.le_refl _
  | read =>
    rw [advance]
    cases f.stream[f.read]? with
    | none => exact Nat.le_refl _
    | some event =>
      simp only
      split_ifs <;> exact Nat.le_refl _
  | disconnect => exact Nat.le_refl _

theorem numbered_final (viewer : LiveLogViewer) (moves : List LiveLogFollowMove)
    (f : LiveLogFollower) :
    f.run.numbered ≤ (Run.final (advance viewer) moves f).run.numbered := by
  induction moves generalizing f with
  | nil => exact Nat.le_refl _
  | cons move moves ih => exact (numbered_step viewer move f).trans (ih (advance viewer move f))

theorem numbered_along (viewer : LiveLogViewer) (moves : List LiveLogFollowMove)
    (f : LiveLogFollower) (few : (Run.final (advance viewer) moves f).run.numbered ≤ U64.top) :
    Run.Along (advance viewer) (fun f move => (advance viewer move f).run.numbered ≤ U64.top)
      moves f := by
  induction moves generalizing f with
  | nil => trivial
  | cons move moves ih =>
    exact ⟨(numbered_final viewer moves (advance viewer move f)).trans few,ih _ few⟩

theorem start_holds (viewer : LiveLogViewer) (instanceId : String)
    (services : List (String × List PreloadedLine)) (now : Nat)
    (distinct : (services.map (·.1)).Nodup) (few : (services.flatMap (·.2)).length ≤ U64.top) :
    Holds viewer (loadedEvents instanceId now 0 services) instanceId
      (start (LiveLogRun.start instanceId services now)) := by
  constructor
  · exact start_delivers instanceId services now distinct few
  · exact start_stamped instanceId services now
  · exact fun _ => ⟨rfl,rfl,rfl⟩
  · intro channel is
    cases is
  · rfl
  · intro c is
    cases is
  · intro c is
    cases is
  · intro event mem
    cases mem
  · exact .nil

/-- The lines that the client has read over all its connections, and those it is going to read over
the last one, come with increasing numbers. Of the lines it wants that were published after it first
connected and before the last connection, and are still in the ring, each was read or counted in a
gap before, or the last connection replays it. -/
structure LosesNothing (viewer : LiveLogViewer) (f : LiveLogFollower)
    (connection : LiveLogConnection) : Prop where
  increasing : ((logLines (f.earlier++(connection.initial++connection.received))).map
    LiveLogEvent.number).Pairwise (· < ·)
  complete : ∀line∈f.run.ringOf viewer.serviceId,
    line∈(f.run.published.take connection.since).drop f.first → viewer.wants line=true →
      Known (f.run.published.filter viewer.wants) f.earlier line ∨ line∈connection.initial

theorem Holds.losesNothing (holds : Holds viewer loaded instanceId f)
    (follows : Follows viewer f channel connection) : f.LosesNothing viewer connection := by
  refine ⟨holds.all_increasing follows,fun line ring since wanted => ?_⟩
  have short := holds.delivers.kept.since connection (List.mem_of_getElem? follows.there)
  by_cases past : ∃c,f.resumedFrom=some c ∧ line.number ≤ c.sequence
  · obtain ⟨c,was,le⟩ := past
    have here : line∈f.run.published.drop f.first := by
      rw [drop_split follows.first short]
      exact List.mem_append_left _ since
    exact .inl (follows.past line ring here wanted c was le)
  · right
    apply follows.replayed line ring since wanted
    intro c was
    exact Nat.lt_of_not_le fun le => past ⟨c,was,le⟩

def followedViewer : LiveLogViewer := ⟨"api",.both,10⟩

/-- A line is read, the connection breaks, and the next line comes before the client is back. -/
def followedMoves : List LiveLogFollowMove :=
  [.connect 1,.hub (.publish "api" .stdout [104,105,10]),.hub (.emit 2 fun _ => 2),
    .hub (.receive 0),.read,.disconnect,.hub (.publish "api" .stdout [104,111,10]),
    .hub (.emit 3 fun _ => 3),.connect 4]

def followedConnection : LiveLogConnection where
  serviceId := "api"
  subscriberId := 2
  selection := .both
  initial := [.line "1-1" "api" .stdout 2 "ho" 3]
  received := []
  leftover := []
  isOpen := true
  since := 2
  watermark := 2

end LiveLogFollower

end AkuSupervisor

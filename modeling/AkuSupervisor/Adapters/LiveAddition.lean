import AkuSupervisor.Adapters.LiveLogRings
import AkuSupervisor.Adapters.LogFraming
import AkuSupervisor.Lib.LossyText
import AkuSupervisor.Platform.LogRotation

/-! A service that is added to the live log while its log pumps run. -/

namespace AkuSupervisor

open ServiceLogs TextLines LongestSuffix

namespace ServiceLogs

def maxReadBytes : Nat := 5*1024*1024

/-- The last lines of a log file, which is read whole; a file that is missing has none. -/
def readTailLines (path : String) (files : String → Option (List UInt8)) (lines : Nat) :
    Except ServiceLogError (List String) :=
  match files path with
  | none => .ok []
  | some content =>
    if maxReadBytes < content.length then .error (.oversized path content.length)
    else
      let tail := textLines (decodeLossy content)
      .ok (tail.drop (tail.length-lines))

end ServiceLogs

/-- The log pump of one stream between two of its steps: what it has published (and what the log held
before it), and the chunk that it has appended to the log but not published. -/
structure LogPump where
  writer : RotatingLogWriter
  published : List UInt8
  pending : Option (List UInt8)

/-- All that the stream has put into its log. -/
def LogPump.output (p : LogPump) : List UInt8 := p.published++p.pending.getD []

def LogPump.active (p : LogPump) : List UInt8 := (p.writer.files p.writer.path).getD []

/-- The log of a stream as its tail was read. -/
structure TailTaken where
  output : List UInt8
  active : List UInt8

/-- How far `reconcile` has come with the service: the streams it has still to read, with the lines
it has read so far. -/
inductive AdditionStage where
  | idle
  | reading (unread : List LogStream) (lines : List PreloadedLine)
  | added

structure LiveAddition where
  hub : LiveLogHub
  pumps : LogStream → LogPump
  stage : AdditionStage
  taken : LogStream → Option TailTaken

inductive AdditionMove where
  | append (stream : LogStream) (chunk : List UInt8)
  | publish (stream : LogStream) (now : Nat) (gapTimes : Nat → Nat)
  /-- `stderrFirst` tells that the file of `stderr` is the older one. -/
  | observe (stderrFirst : Bool)
  | read (modifiedAt : Option Nat)
  | insert (now : Nat)

namespace LiveAddition

variable (serviceId : String)

def setPump (s : LiveAddition) (stream : LogStream) (pump : LogPump) : LiveAddition :=
  { s with pumps := Function.update s.pumps stream pump }

def append (stream : LogStream) (chunk : List UInt8) (s : LiveAddition) : LiveAddition :=
  let pump := s.pumps stream
  if pump.pending≠none ∨ chunk=[] ∨ logBufferBytes < chunk.length then s
  else match pump.writer.write chunk with
    | .error _ => s
    | .ok writer => s.setPump stream ⟨writer,pump.published,some chunk⟩

def publish (stream : LogStream) (now : Nat) (gapTimes : Nat → Nat) (s : LiveAddition) :
    LiveAddition :=
  let pump := s.pumps stream
  match pump.pending with
  | none => s
  | some chunk =>
    let hub := (s.hub.publish serviceId stream chunk false now gapTimes).2
    { s with hub }.setPump stream ⟨pump.writer,pump.published++chunk,none⟩

/-- The service is missing from the hub: its streams are read, the older file first. -/
def observe (stderrFirst : Bool) (s : LiveAddition) : LiveAddition :=
  match s.stage with
  | .idle =>
    if serviceId∈s.hub.services then s
    else { s with
      stage := .reading (if stderrFirst then [.stderr,.stdout] else [.stdout,.stderr]) [] }
  | _ => s

def readTail (pump : LogPump) : List String :=
  match readTailLines pump.writer.path pump.writer.files (maxTailLines/2) with
  | .ok lines => lines
  | .error _ => []

def read (modifiedAt : Option Nat) (s : LiveAddition) : LiveAddition :=
  match s.stage with
  | .reading (stream::unread) lines =>
    let pump := s.pumps stream
    { s with
      stage := .reading unread (lines++(readTail pump).map fun text => ⟨stream,modifiedAt,text⟩)
      taken := Function.update s.taken stream (some ⟨pump.output,pump.active⟩) }
  | _ => s

def insert (now : Nat) (s : LiveAddition) : LiveAddition :=
  match s.stage with
  | .reading [] lines =>
    { s with hub := s.hub.reconcileService serviceId lines now,stage := .added }
  | _ => s

def step (move : AdditionMove) (s : LiveAddition) : LiveAddition :=
  match move with
  | .append stream chunk => append stream chunk s
  | .publish stream now gapTimes => publish serviceId stream now gapTimes s
  | .observe stderrFirst => observe serviceId stderrFirst s
  | .read modifiedAt => read modifiedAt s
  | .insert now => insert serviceId now s

/-- The complete lines of a log, as a viewer should see them. -/
def lineTexts (bytes : List UInt8) : List String :=
  (rawLines [] bytes).map fun line => decodeLossy (dropReturn line)

/-- The complete lines that were published, but for those before the tail that was read. -/
def expectedTexts (taken : TailTaken) (published : List UInt8) : List String :=
  (lineTexts published).drop
    ((lineTexts taken.output).length-min (maxTailLines/2) (lineTexts taken.active).length)

def content (event : LiveLogEvent) : Option LogStream × Option String := (event.stream,event.text)

def textsOf (lines : List (LogStream × String)) (stream : LogStream) : List String :=
  (lines.filter (·.1=stream)).map Prod.snd

/-- The events of these lines, in this order. -/
def EventsOf (lines : List (LogStream × String)) (events : List LiveLogEvent) : Prop :=
  events.map content=lines.map fun line => (some line.1,some line.2)

/-- The ring of the service is the longest end that fits of events which tell, for each stream, every
complete line from the tail on, once and in order. -/
def Shown (s : LiveAddition) : Prop :=
  ∃service events lines,s.hub.services[serviceId]?=some service ∧
    Longest Fits service.ring events ∧ EventsOf lines events ∧
    ∀stream,∃taken,s.taken stream=some taken ∧
      textsOf lines stream=expectedTexts taken (s.pumps stream).published

/-- The active file begins and ends where a line does. -/
structure LineStart (output active : List UInt8) : Prop where
  front : Ended (output.take (output.length-active.length))
  active : Ended active

/-- A tail is read between two lines; no chunk that came after a tail was read is published before
the service is inserted, and none that came before is published later; and an unfinished line stays
short. -/
def Calm (s : LiveAddition) : AdditionMove → Prop
  | .read _ => ∀stream unread lines,s.stage=.reading (stream::unread) lines →
      LineStart (s.pumps stream).output (s.pumps stream).active
  | .publish stream _ _ =>
      (∀unread lines taken,s.stage=.reading unread lines → s.taken stream=some taken →
        taken.output=(s.pumps stream).output) ∧
      (s.stage=.added → (unfinished [] (s.pumps stream).output).length < maxPartialLineBytes)
  | .insert _ => ∀lines stream taken,s.stage=.reading [] lines → s.taken stream=some taken →
      (s.pumps stream).pending≠none → taken.output≠(s.pumps stream).output
  | _ => True

section Texts

theorem lineTexts_append (bytes more : List UInt8) :
    lineTexts (bytes++more)=lineTexts bytes++
      (rawLines (unfinished [] bytes) more).map fun line => decodeLossy (dropReturn line) := by
  rw [lineTexts,rawLines_append,List.map_append]
  rfl

theorem lineTexts_ended {bytes : List UInt8} (ended : Ended bytes) (more : List UInt8) :
    lineTexts (bytes++more)=lineTexts bytes++lineTexts more := by
  rw [lineTexts_append,unfinished_ended ended]
  rfl

theorem textsOf_append (lines more : List (LogStream × String)) (stream : LogStream) :
    textsOf (lines++more) stream=textsOf lines stream++textsOf more stream := by
  simp [textsOf]

theorem textsOf_stream (texts : List String) (stream other : LogStream) :
    textsOf (texts.map fun text => (stream,text)) other=if other=stream then texts else [] := by
  induction texts with
  | nil => simp [textsOf]
  | cons text texts ih =>
    rw [List.map_cons,← List.singleton_append,textsOf_append,ih]
    by_cases same : other=stream
    · subst same
      simp [textsOf]
    · simp [textsOf,same,Ne.symm same]

theorem eventsOf_append {lines more : List (LogStream × String)}
    {events later : List LiveLogEvent} (first : EventsOf lines events)
    (second : EventsOf more later) : EventsOf (lines++more) (events++later) := by
  unfold EventsOf at first second ⊢
  rw [List.map_append,List.map_append,first,second]

/-- The tail of the active file is that of all that was put into the log. -/
theorem expectedTexts_tail {output active : List UInt8} (start : LineStart output active)
    (suffix : active <:+ output) :
    (lineTexts active).drop ((lineTexts active).length-maxTailLines/2)=
      expectedTexts ⟨output,active⟩ output := by
  obtain ⟨front,rfl⟩ := suffix
  have ended := start.front
  rw [List.length_append,Nat.add_sub_cancel,List.take_left] at ended
  have split := lineTexts_ended ended active
  have count : (lineTexts (front++active)).length-
      min (maxTailLines/2) (lineTexts active).length=
        (lineTexts front).length+((lineTexts active).length-maxTailLines/2) := by
    rw [split,List.length_append]
    omega
  rw [expectedTexts,count,split,List.drop_append]
  simp

theorem LineStart.ended {output active : List UInt8} (start : LineStart output active)
    (suffix : active <:+ output) : Ended output := by
  obtain ⟨front,rfl⟩ := suffix
  have ended := start.front
  rw [List.length_append,Nat.add_sub_cancel,List.take_left] at ended
  exact ended.both start.active

/-- What is published later comes behind. -/
theorem expectedTexts_append {taken : TailTaken} {published : List UInt8}
    (before : taken.output <+: published) (chunk : List UInt8) :
    expectedTexts taken (published++chunk)=expectedTexts taken published++
      (rawLines (unfinished [] published) chunk).map fun line => decodeLossy (dropReturn line) := by
  obtain ⟨later,rfl⟩ := before
  rw [expectedTexts,lineTexts_append,List.drop_append_of_le_length,expectedTexts]
  rw [lineTexts_append,List.length_append]
  omega

end Texts

section Hub

open LiveServiceState

variable {serviceId} {hub : LiveLogHub} {service : LiveServiceState} {events : List LiveLogEvent}

/-- Lines that are published go into the ring in their order, and leave the unfinished lines alone. -/
theorem publishLines_keeps (stream : LogStream) (now : Nat) (gapTimes : Nat → Nat)
    (found : hub.services[serviceId]?=some service) (keeps : KeepsRing service events)
    (texts : List String) :
    ∃after more,(texts.foldl (fun hub text =>
        (hub.publishLine serviceId stream text now gapTimes).2) hub).services[serviceId]?=
          some after ∧
      KeepsRing after (events++more) ∧ EventsOf (texts.map fun text => (stream,text)) more ∧
      ∀other,after.partialOf other=service.partialOf other := by
  induction texts generalizing hub service events with
  | nil => exact ⟨service,[],found,by rwa [List.append_nil],rfl,fun _ => rfl⟩
  | cons text texts ih =>
    obtain ⟨event,published⟩ : ∃event,(hub.publishLine serviceId stream text now gapTimes).1=event :=
      ⟨_,rfl⟩
    have stored : (hub.publishLine serviceId stream text now gapTimes).2.services[serviceId]?=
        some (service.publishEvent event gapTimes) := by
      rw [← published]
      unfold LiveLogHub.publishLine
      simp only [found,Std.ExtTreeMap.getElem?_insert_self]
    have pushed : KeepsRing (service.publishEvent event gapTimes) (events++[event]) := by
      obtain ⟨longest,bytes⟩ := keeps.push event
      exact ⟨longest,bytes⟩
    obtain ⟨after,more,there,kept,texts_of,same⟩ := ih stored pushed
    refine ⟨after,event::more,there,?_,?_,fun other => (same other).trans ?_⟩
    · rw [List.append_cons]
      exact kept
    · have own : EventsOf [(stream,text)] [event] := by
        rw [← published]
        rfl
      exact eventsOf_append own texts_of
    · cases other <;> rfl

theorem publish_keeps (stream : LogStream) (chunk : List UInt8) (now : Nat) (gapTimes : Nat → Nat)
    (found : hub.services[serviceId]?=some service) (keeps : KeepsRing service events) :
    ∃after more,
      (hub.publish serviceId stream chunk false now gapTimes).2.services[serviceId]?=some after ∧
      KeepsRing after (events++more) ∧
      EventsOf ((takeCompleteLines (service.partialOf stream++chunk) false).1.map fun text =>
        (stream,text)) more ∧
      after.partialOf stream=(takeCompleteLines (service.partialOf stream++chunk) false).2 ∧
      ∀other,other≠stream → after.partialOf other=service.partialOf other := by
  generalize taken : takeCompleteLines (service.partialOf stream++chunk) false=lines
  have stored : (hub.services.insert serviceId (service.setPartial stream lines.2))[serviceId]?=
      some (service.setPartial stream lines.2) := Std.ExtTreeMap.getElem?_insert_self
  have keeps' : KeepsRing (service.setPartial stream lines.2) events := by
    obtain ⟨longest,bytes⟩ := keeps
    cases stream <;> exact ⟨longest,bytes⟩
  obtain ⟨after,more,there,kept,texts,same⟩ := @publishLines_keeps serviceId
    { hub with services := hub.services.insert serviceId (service.setPartial stream lines.2) } _ _
    stream now gapTimes stored keeps' lines.1
  refine ⟨after,more,?_,kept,texts,?_,fun other apart => ?_⟩
  · unfold LiveLogHub.publish LiveLogHub.takeLines
    simp only [found,taken]
    exact there
  · rw [same]
    cases stream <;> rfl
  · rw [same]
    cases stream <;> cases other <;> first | rfl | exact absurd rfl apart

theorem publish_missing (missing : hub.services[serviceId]?=none) (stream : LogStream)
    (chunk : List UInt8) (now : Nat) (gapTimes : Nat → Nat) :
    (hub.publish serviceId stream chunk false now gapTimes).2=hub := by
  unfold LiveLogHub.publish LiveLogHub.takeLines
  simp only [missing]
  rfl

/-- So do the lines that are read from the files. -/
theorem preload_keeps (instanceId : String) (now sequence : Nat) (lines : List PreloadedLine)
    (keeps : KeepsRing service events) :
    ∃loaded more,lines.foldl (fun (service,sequence) line =>
        let sequence := U64.saturatingAdd sequence 1
        (LiveServiceState.pushRing service (.replayedLine instanceId serviceId line.stream sequence
          line.text line.sourceModifiedAtUnixMs now),sequence)) (service,sequence)=loaded ∧
      KeepsRing loaded.1 (events++more) ∧
      EventsOf (lines.map fun line => (line.stream,line.text)) more ∧
      ∀stream,loaded.1.partialOf stream=service.partialOf stream := by
  induction lines generalizing service events sequence with
  | nil => exact ⟨_,[],rfl,by rwa [List.append_nil],rfl,fun _ => rfl⟩
  | cons line lines ih =>
    obtain ⟨event,replayed⟩ : ∃event,LiveLogEvent.replayedLine instanceId serviceId line.stream
        (U64.saturatingAdd sequence 1) line.text line.sourceModifiedAtUnixMs now=event := ⟨_,rfl⟩
    obtain ⟨loaded,more,fold,kept,texts,same⟩ :=
      ih (U64.saturatingAdd sequence 1) (keeps.push event)
    refine ⟨loaded,event::more,?_,?_,?_,fun stream => (same stream).trans ?_⟩
    · rw [List.foldl_cons]
      simp only [replayed]
      exact fold
    · rw [List.append_cons]
      exact kept
    · have own : EventsOf [(line.stream,line.text)] [event] := by
        rw [← replayed]
        rfl
      exact eventsOf_append own texts
    · cases stream <;> rfl

end Hub

/-- A pump whose writer knows its log, which holds an end of all that was put into it. -/
structure Feeding (p : LogPump) : Prop where
  tracks : p.writer.Tracks
  kept : RotatingLogWriter.kept p.writer.path p.writer.files <:+ p.output
  filled : ∀chunk,p.pending=some chunk → chunk≠[]

/-- The log has only grown since its tail was read: what it had then is published, or it is all. -/
def Grown (taken : TailTaken) (p : LogPump) : Prop :=
  p.output=taken.output ∨ p.pending≠none ∧ p.published=taken.output

/-- What is known of a stream while the service is read, and of the lines read from it. -/
def StreamRead (s : LiveAddition) (unread : List LogStream) (lines : List PreloadedLine)
    (stream : LogStream) : Prop :=
  let texts := textsOf (lines.map fun line => (line.stream,line.text)) stream
  if stream∈unread then texts=[]
  else ∃taken,s.taken stream=some taken ∧ Grown taken (s.pumps stream) ∧ Ended taken.output ∧
    texts=expectedTexts taken taken.output

/-- What is known of a stream of a service that was inserted. -/
def StreamShown (s : LiveAddition) (service : LiveServiceState)
    (lines : List (LogStream × String)) (stream : LogStream) : Prop :=
  ∃taken,s.taken stream=some taken ∧ taken.output <+: (s.pumps stream).published ∧
    textsOf lines stream=expectedTexts taken (s.pumps stream).published ∧
    service.partialOf stream=unfinished [] (s.pumps stream).published

def StageHolds (s : LiveAddition) : AdditionStage → Prop
  | .idle => ∀stream,s.taken stream=none
  | .reading unread lines => unread.Nodup ∧ s.hub.services[serviceId]?=none ∧
      ∀stream,StreamRead s unread lines stream
  | .added => ∃service events lines,s.hub.services[serviceId]?=some service ∧
      LiveServiceState.KeepsRing service events ∧ EventsOf lines events ∧
      ∀stream,StreamShown s service lines stream

structure Seam (s : LiveAddition) : Prop where
  pumps : ∀stream,Feeding (s.pumps stream)
  stage : StageHolds serviceId s s.stage

section Steps

variable {serviceId} {s : LiveAddition}

theorem LogPump.active_suffix {p : LogPump} (feeding : Feeding p) : p.active <:+ p.output := by
  have inside (n : Nat) : (p.writer.files p.writer.path).getD [] <:+
      Generations.kept (logPath p.writer.path) n p.writer.files := by
    induction n with
    | zero => exact List.suffix_refl _
    | succ n ih => exact ih.trans (Generations.kept_suffix n p.writer.files)
  exact (inside logGenerations).trans feeding.kept

theorem readTail_eq {p : LogPump} (feeding : Feeding p) (start : LineStart p.output p.active) :
    readTail p=expectedTexts ⟨p.output,p.active⟩ p.output := by
  obtain ⟨content,held,-⟩ := feeding.tracks.active
  have active : p.active=content := by rw [LogPump.active,held]; rfl
  have small : content.length ≤ maxReadBytes := feeding.tracks.within 0 (Nat.zero_le _) content held
  rw [← expectedTexts_tail start (LogPump.active_suffix feeding),active]
  have lines := textLines_decodeLossy start.active
  rw [active] at lines
  unfold readTail readTailLines
  simp only [held,if_neg (Nat.not_lt_of_le small)]
  rw [lines]
  rfl

theorem pumps_setPump (stream other : LogStream) (pump : LogPump) :
    (s.setPump stream pump).pumps other=if other=stream then pump else s.pumps other :=
  Function.update_apply ..

theorem feeding_setPump {stream : LogStream} {pump : LogPump} (pumps : ∀other,Feeding (s.pumps other))
    (feeding : Feeding pump) (other : LogStream) : Feeding ((s.setPump stream pump).pumps other) := by
  rw [pumps_setPump]
  split_ifs
  · exact feeding
  · exact pumps other

/-- While nothing is inserted, only the growth of the log counts. -/
theorem streamRead_setPump {stream other : LogStream} {pump : LogPump} {unread : List LogStream}
    {lines : List PreloadedLine} (known : StreamRead s unread lines other)
    (grown : ∀taken,s.taken stream=some taken → Grown taken (s.pumps stream) → Grown taken pump) :
    StreamRead (s.setPump stream pump) unread lines other := by
  unfold StreamRead at known ⊢
  split_ifs at known ⊢ with waits
  · exact known
  · obtain ⟨taken,there,growth,ended,texts⟩ := known
    refine ⟨taken,there,?_,ended,texts⟩
    rw [pumps_setPump]
    split_ifs with same
    · subst same
      exact grown taken there growth
    · exact growth

theorem seam_append (stream : LogStream) (chunk : List UInt8) (seam : Seam serviceId s) :
    Seam serviceId (append stream chunk s) := by
  unfold append
  simp only
  split_ifs with refused
  · exact seam
  obtain ⟨free,filled,-⟩ : (s.pumps stream).pending=none ∧ chunk≠[] ∧ _ := by
    simpa only [not_or,not_not] using refused
  have feeding := seam.pumps stream
  obtain ⟨writer,written,tracks,keeps⟩ := RotatingLogWriter.write_tracks feeding.tracks chunk
  have all : (s.pumps stream).output=(s.pumps stream).published := by
    rw [LogPump.output,free,Option.getD_none,List.append_nil]
  rw [written]
  refine ⟨feeding_setPump seam.pumps ⟨tracks,?_,fun other same => ?_⟩,?_⟩
  · show RotatingLogWriter.kept writer.path writer.files <:+ (s.pumps stream).published++chunk
    rw [keeps.path,← all]
    exact keeps.suffix.trans (List.suffix_append_self_iff.mpr feeding.kept)
  · cases same
    exact filled
  · have stage := seam.stage
    show StageHolds serviceId (s.setPump stream _) s.stage
    cases known : s.stage with
    | idle => rw [known] at stage; exact stage
    | reading unread lines =>
      rw [known] at stage
      refine ⟨stage.1,stage.2.1,fun other => streamRead_setPump (stage.2.2 other) ?_⟩
      intro taken _ growth
      rcases growth with same|⟨busy,-⟩
      · exact .inr ⟨by simp,all.symm.trans same⟩
      · exact absurd free busy
    | added =>
      rw [known] at stage
      obtain ⟨service,events,lines,found,keeps,texts,each⟩ := stage
      refine ⟨service,events,lines,found,keeps,texts,fun other => ?_⟩
      have published : ((s.setPump stream ⟨writer,(s.pumps stream).published,some chunk⟩).pumps
          other).published=(s.pumps other).published := by
        rw [pumps_setPump]
        split_ifs with same
        · rw [same]
        · rfl
      unfold StreamShown
      rw [published]
      exact each other

/-- A published chunk adds its lines to those of its stream. -/
theorem streamShown_publish {stream : LogStream} {chunk : List UInt8}
    {service after : LiveServiceState} {lines : List (LogStream × String)}
    (pending : (s.pumps stream).pending=some chunk)
    (short : (unfinished [] (s.pumps stream).output).length < maxPartialLineBytes)
    (each : ∀other,StreamShown s service lines other)
    (rest : after.partialOf stream=(takeCompleteLines (service.partialOf stream++chunk) false).2)
    (same : ∀other,other≠stream → after.partialOf other=service.partialOf other)
    (hub : LiveLogHub) (other : LogStream) :
    StreamShown ({ s with hub }.setPump stream
        ⟨(s.pumps stream).writer,(s.pumps stream).published++chunk,none⟩) after
      (lines++(takeCompleteLines (service.partialOf stream++chunk) false).1.map fun text =>
        (stream,text)) other := by
  obtain ⟨taken,there,before,texts,current⟩ := each other
  refine ⟨taken,there,?_⟩
  rw [pumps_setPump,textsOf_append,textsOf_stream,texts]
  by_cases own : other=stream
  · subst own
    have single : newline∉service.partialOf other := by
      rw [current]
      exact newline_not_mem_unfinished [] _ (by simp)
    have open_ : unfinished [] ((s.pumps other).published++chunk)=
        unfinished (service.partialOf other) chunk := by
      rw [unfinished_append,current]
    rw [LogPump.output,pending,Option.getD_some,open_] at short
    have cut := takeCompleteLines_append single chunk
    rw [endedLines_eq,cutBlocks_short short,List.append_nil,List.map_map] at cut
    rw [if_pos rfl,if_pos rfl,rest,cut]
    refine ⟨before.trans (List.prefix_append _ _),?_,open_.symm⟩
    show _=expectedTexts taken ((s.pumps other).published++chunk)
    rw [expectedTexts_append before,← current]
    rfl
  · rw [if_neg own,if_neg own,List.append_nil,same other own]
    exact ⟨before,rfl,current⟩

theorem seam_publish (stream : LogStream) (now : Nat) (gapTimes : Nat → Nat)
    (seam : Seam serviceId s) (calm : Calm s (.publish stream now gapTimes)) :
    Seam serviceId (publish serviceId stream now gapTimes s) := by
  unfold publish
  cases pending : (s.pumps stream).pending with
  | none =>
    simp only [pending]
    exact seam
  | some chunk =>
    simp only [pending]
    have feeding := seam.pumps stream
    have all : (s.pumps stream).published++chunk=(s.pumps stream).output := by
      rw [LogPump.output,pending,Option.getD_some]
    refine ⟨feeding_setPump seam.pumps ⟨feeding.tracks,?_,fun _ none => by cases none⟩,?_⟩
    · rw [LogPump.output,Option.getD_none,List.append_nil,all]
      exact feeding.kept
    · have stage := seam.stage
      show StageHolds serviceId ({ s with hub := _ }.setPump stream _) s.stage
      cases known : s.stage with
      | idle => rw [known] at stage; exact stage
      | reading unread lines =>
        rw [known] at stage
        obtain ⟨nodup,missing,each⟩ := stage
        rw [publish_missing missing]
        refine ⟨nodup,missing,fun other => streamRead_setPump (each other) fun taken there _ => ?_⟩
        have whole := calm.1 unread lines taken known there
        refine .inl (Eq.trans ?_ whole.symm)
        rw [LogPump.output,Option.getD_none,List.append_nil,all]
      | added =>
        rw [known] at stage
        obtain ⟨service,events,lines,found,keeps,texts,each⟩ := stage
        obtain ⟨after,more,there,kept,own,rest,same⟩ :=
          publish_keeps stream chunk now gapTimes found keeps
        exact ⟨after,events++more,_,there,kept,eventsOf_append texts own,
          streamShown_publish pending (calm.2 known) each rest same
            (s.hub.publish serviceId stream chunk false now gapTimes).2⟩

theorem seam_observe (stderrFirst : Bool) (seam : Seam serviceId s) :
    Seam serviceId (observe serviceId stderrFirst s) := by
  unfold observe
  cases known : s.stage with
  | reading unread lines => exact seam
  | added => exact seam
  | idle =>
    simp only
    split_ifs with there
    · exact seam
    all_goals
      refine ⟨seam.pumps,by decide,?_,fun stream => ?_⟩
      · exact Std.ExtTreeMap.getElem?_eq_none there
      · cases stream <;> rfl

theorem seam_read (modifiedAt : Option Nat) (seam : Seam serviceId s)
    (calm : Calm s (.read modifiedAt)) : Seam serviceId (read modifiedAt s) := by
  unfold read
  cases known : s.stage with
  | idle => exact seam
  | added => exact seam
  | reading unread lines =>
    cases unread with
    | nil => exact seam
    | cons stream unread =>
      have stage := seam.stage
      rw [known] at stage
      obtain ⟨nodup,missing,each⟩ := stage
      obtain ⟨once,later⟩ := List.nodup_cons.mp nodup
      have feeding := seam.pumps stream
      have start := calm stream unread lines known
      refine ⟨seam.pumps,later,missing,fun other => ?_⟩
      have before := each other
      unfold StreamRead at before ⊢
      simp only [List.map_append,List.map_map,List.mem_cons] at before ⊢
      have added : (readTail (s.pumps stream)).map ((fun line : PreloadedLine =>
          (line.stream,line.text)) ∘ fun text => ⟨stream,modifiedAt,text⟩)=
            (readTail (s.pumps stream)).map fun text => (stream,text) := rfl
      rw [added,textsOf_append,textsOf_stream]
      by_cases own : other=stream
      · subst own
        rw [if_pos (.inl rfl)] at before
        rw [if_neg once,if_pos rfl,before,List.nil_append,readTail_eq feeding start]
        exact ⟨_,Function.update_self ..,.inl rfl,start.ended (LogPump.active_suffix feeding),rfl⟩
      · rw [if_neg own,List.append_nil,Function.update_of_ne own]
        simpa only [own,false_or] using before

theorem seam_insert (now : Nat) (seam : Seam serviceId s) (calm : Calm s (.insert now)) :
    Seam serviceId (insert serviceId now s) := by
  unfold insert
  cases known : s.stage with
  | idle => exact seam
  | added => exact seam
  | reading unread lines =>
    cases unread with
    | cons stream unread => exact seam
    | nil =>
      have stage := seam.stage
      rw [known] at stage
      obtain ⟨-,missing,each⟩ := stage
      have fresh : serviceId∉s.hub.services := by
        rw [Std.ExtTreeMap.mem_iff_isSome_getElem?,missing]
        exact Bool.false_ne_true
      obtain ⟨loaded,events,fold,keeps,texts,same⟩ := @preload_keeps serviceId .default []
        s.hub.instanceId now s.hub.nextSequence lines default_keeps
      have inserted : (s.hub.reconcileService serviceId lines now).services[serviceId]?=
          some loaded.1 := by
        unfold LiveLogHub.reconcileService LiveLogHub.preload
        rw [if_neg fresh,fold]
        exact Std.ExtTreeMap.getElem?_insert_self
      refine ⟨seam.pumps,loaded.1,events,_,inserted,keeps,texts,fun stream => ?_⟩
      obtain ⟨taken,there,growth,ended,read⟩ := each stream
      have published : (s.pumps stream).published=taken.output := by
        rcases growth with whole|⟨-,before⟩
        · cases pending : (s.pumps stream).pending with
          | none =>
            rw [LogPump.output,pending,Option.getD_none,List.append_nil] at whole
            exact whole
          | some chunk =>
            exact absurd whole.symm (calm lines stream taken known there (by simp [pending]))
        · exact before
      refine ⟨taken,there,?_,?_,?_⟩
      · show taken.output <+: (s.pumps stream).published
        exact published ▸ List.prefix_refl _
      · show _=expectedTexts taken (s.pumps stream).published
        rw [published]
        exact read
      · show _=unfinished [] (s.pumps stream).published
        rw [published,unfinished_ended ended,same]
        cases stream <;> rfl

theorem seam_step (move : AdditionMove) (seam : Seam serviceId s) (calm : Calm s move) :
    Seam serviceId (step serviceId move s) := by
  cases move with
  | append stream chunk => exact seam_append stream chunk seam
  | publish stream now gapTimes => exact seam_publish stream now gapTimes seam calm
  | observe stderrFirst => exact seam_observe stderrFirst seam
  | read modifiedAt => exact seam_read modifiedAt seam calm
  | insert now => exact seam_insert now seam calm

theorem Seam.shown (seam : Seam serviceId s) (added : s.stage=.added) : Shown serviceId s := by
  have stage := seam.stage
  rw [added] at stage
  obtain ⟨service,events,lines,found,keeps,texts,each⟩ := stage
  refine ⟨service,events,lines,found,keeps.longest,texts,fun stream => ?_⟩
  obtain ⟨taken,there,-,same,-⟩ := each stream
  exact ⟨taken,there,same⟩

end Steps

/-- Before the service is added: pumps at work, and nothing read. -/
structure Fresh (s : LiveAddition) : Prop where
  stage : s.stage=.idle
  untaken : ∀stream,s.taken stream=none
  pumps : ∀stream,Feeding (s.pumps stream)

/-- After any calm run of the pumps and of `reconcile` a service that was added shows every complete
line from the tail on, once and intact. -/
theorem added_service_shown (serviceId : String) (s : LiveAddition) (fresh : Fresh s)
    (moves : List AdditionMove) (calm : Run.Along (step serviceId) Calm moves s)
    (added : (Run.final (step serviceId) moves s).stage=.added) :
    Shown serviceId (Run.final (step serviceId) moves s) := by
  have keeps : Run.Keeps (step serviceId) Calm (Seam serviceId) := fun s move => seam_step move
  have start : Seam serviceId s := by
    refine ⟨fresh.pumps,?_⟩
    rw [fresh.stage]
    exact fresh.untaken
  exact (keeps.final start calm).shown added

def samplePath : LogStream → String
  | .stdout => "api.stdout.log"
  | .stderr => "api.stderr.log"

def sampleFiles (bytes : List UInt8) (path : String) : Option (List UInt8) :=
  if path="api.stdout.log" then some bytes else none

/-- A service whose log of `stdout` holds these bytes, and a hub that is new. -/
def sampleAddition (bytes : List UInt8) : LiveAddition where
  hub := .new "hub"
  pumps stream := {
    writer := .openLog (samplePath stream) (sampleFiles bytes)
    published := if stream=.stdout then bytes else []
    pending := none }
  stage := .idle
  taken _ := none

theorem sample_fresh : Fresh (sampleAddition [120,10]) := by
  refine ⟨rfl,fun _ => rfl,fun stream => ?_⟩
  have within : RotatingLogWriter.Within (samplePath stream) (sampleFiles [120,10]) := by
    intro generation low content mem
    simp only [sampleFiles,Option.mem_def,Option.ite_none_right_eq_some] at mem
    cases mem.2
    decide
  obtain ⟨tracks,keeps⟩ := RotatingLogWriter.openLog_tracks within
  have held : RotatingLogWriter.kept (samplePath stream) (sampleFiles [120,10])=
      if stream=.stdout then [120,10] else [] := by
    cases stream <;> decide
  refine ⟨tracks,?_,fun _ none => by cases none⟩
  have suffix := keeps.suffix
  rw [List.append_nil] at suffix
  show RotatingLogWriter.kept (RotatingLogWriter.openLog (samplePath stream)
    (sampleFiles [120,10])).path _ <:+ (if stream=.stdout then [120,10] else [])++[]
  rw [keeps.path,List.append_nil,← held]
  exact suffix

/-- One line is in the file, the next comes when the service is in the hub. -/
def replayedThenLive : List AdditionMove :=
  [.observe false,.read none,.read none,.insert 0,.append .stdout [121,10],
    .publish .stdout 0 fun _ => 0]

theorem replayed_then_live_shown :
    (Run.final (step "api") replayedThenLive (sampleAddition [120,10])).stage=.added ∧
    Shown "api" (Run.final (step "api") replayedThenLive (sampleAddition [120,10])) := by
  have added : (Run.final (step "api") replayedThenLive (sampleAddition [120,10])).stage=.added := rfl
  refine ⟨added,added_service_shown "api" _ sample_fresh replayedThenLive ?_ added⟩
  refine ⟨trivial,fun stream unread lines stage => ?_,fun stream unread lines stage => ?_,
    fun lines stream taken stage there busy => ?_,trivial,⟨fun unread lines taken stage => ?_,
      fun _ => ?_⟩,trivial⟩
  · cases stream <;> exact ⟨by decide,by decide⟩
  · cases stream <;> exact ⟨by decide,by decide⟩
  · exact absurd rfl busy
  · cases stage
  · decide

/-- A line that comes between the read of the files and the insertion. -/
def lostLine : List AdditionMove :=
  [.observe false,.read none,.read none,.append .stdout [121,10],.publish .stdout 0 fun _ => 0,
    .insert 0]

theorem line_between_read_and_insert_lost :
    (Run.final (step "api") lostLine (sampleAddition [])).stage=.added ∧
    ¬Shown "api" (Run.final (step "api") lostLine (sampleAddition [])) := by
  refine ⟨rfl,?_⟩
  rintro ⟨service,events,lines,found,longest,texts,each⟩
  have seen (stream : LogStream) : textsOf lines stream=if stream=.stdout then ["y"] else [] := by
    obtain ⟨taken,there,same⟩ := each stream
    have empty : (Run.final (step "api") lostLine (sampleAddition [])).taken stream=
        some ⟨[],[]⟩ := by cases stream <;> rfl
    rw [empty] at there
    cases there
    rw [same]
    cases stream <;> decide +kernel
  have ring : service.ring=[] := by
    have stored : (Run.final (step "api") lostLine (sampleAddition [])).hub.services["api"]?=
        some .default := by
      show (LiveLogHub.reconcileService (.new "hub") "api" [] 0).services["api"]?=some .default
      unfold LiveLogHub.reconcileService
      rw [if_neg (by simp [LiveLogHub.new])]
      exact Std.ExtTreeMap.getElem?_insert_self
    rw [stored] at found
    cases found
    rfl
  rw [ring] at longest
  have own : ∀line∈lines,line.1=.stdout := by
    intro line mem
    cases stream : line.1 with
    | stdout => rfl
    | stderr =>
      have inside : line.2∈textsOf lines .stderr :=
        List.mem_map_of_mem (List.mem_filter.mpr ⟨mem,by simpa using stream⟩)
      rw [seen .stderr] at inside
      cases inside
  have single : lines.map Prod.snd=["y"] := by
    have out := seen .stdout
    rw [textsOf,List.filter_eq_self.mpr fun line mem => by simpa using own line mem] at out
    exact out
  obtain ⟨line,rfl,text⟩ := List.map_eq_singleton_iff.mp single
  obtain ⟨event,rfl,same⟩ := List.map_eq_singleton_iff.mp texts
  have one : event.textBytes=1 := by
    have y : event.text=some "y" := by
      rw [← text]
      exact congrArg Prod.snd same
    rw [LiveLogEvent.textBytes,y]
    decide
  have fits : Fits [event] := ⟨by simp [liveRingLines],by simp [textTotal,one,liveRingBytes]⟩
  have shown := (longest.longest [event] (List.suffix_refl _) fits).length_le
  simp at shown

end LiveAddition

end AkuSupervisor

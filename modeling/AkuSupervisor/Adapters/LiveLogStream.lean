import AkuSupervisor.Lib.JsonDepth
import AkuSupervisor.Lib.LineReader
import AkuSupervisor.Adapters.ClientResponse
import AkuSupervisor.Adapters.RemoteCommand
import AkuSupervisor.Adapters.ServiceLogs

namespace AkuSupervisor

open TextLines HeadText LineReader JsonDepth

def LiveLogEventKind.label : LiveLogEventKind → String
  | .line => "line"
  | .gap => "gap"
  | .heartbeat => "heartbeat"
  | .hubReset => "hub_reset"

/-- The fields of an event that have a value. -/
def LiveLogEvent.fields (event : LiveLogEvent) : List (String × String) :=
  [("schemaVersion",event.schemaVersion.repr),("kind",JsonText.string event.kind.label),
    ("hubInstanceId",JsonText.string event.hubInstanceId),
    ("serviceId",JsonText.string event.serviceId)]++
  JsonText.optionalField "sequence" (event.sequence.map Nat.repr)++
  JsonText.optionalField "stream" (event.stream.map fun stream => JsonText.string stream.label)++
  [("observedAtUnixMs",event.observedAtUnixMs.repr)]++
  JsonText.optionalField "text" (event.text.map JsonText.string)++
  JsonText.optionalField "dropped" (event.dropped.map Nat.repr)++
  JsonText.optionalField "previousHubInstanceId"
    (event.previousHubInstanceId.map JsonText.string)++
  (if event.replayed=true then [("replayed",JsonText.bool true)] else [])++
  JsonText.optionalField "sourceModifiedAtUnixMs" (event.sourceModifiedAtUnixMs.map Nat.repr)

def LiveLogEvent.json (event : LiveLogEvent) : String := JsonText.object event.fields

namespace ControlHttp

def liveLogHead : String :=
  "HTTP/1.1 200 OK\r\nContent-Type: application/x-ndjson\r\nCache-Control: no-store\r\n"++
    "Connection: close\r\n\r\n"

def writeLiveLogEvent (event : LiveLogEvent) : List UInt8 := encode event.json++encode "\n"

/-- What is written on a connection by the time these events have been taken. -/
def streamLiveLogs (events : List LiveLogEvent) : List UInt8 :=
  encode liveLogHead++events.flatMap writeLiveLogEvent

end ControlHttp

namespace LiveLogClient

open ControlClient ControlHttp

variable {V : Type}

/-- `str::trim_end`. -/
def trimEnd (text : String) : String := String.ofList (text.toList.rdropWhile isWhitespace)

/-- One line as a text. -/
def readText : ReadResult → Except (ControlClientError V) String
  | .error message => .error (.read message)
  | .ok bytes =>
    match decode bytes with
    | none => .error (.read "stream did not contain valid UTF-8")
    | some text => .ok text

/-- Passes over the header lines, to the empty one. -/
def skipHeaders : List ReadResult → Except (ControlClientError V) (List ReadResult)
  | [] => .error .malformedResponse
  | line::lines => do
    let header ← readText line
    if header="\r\n" then .ok lines else skipHeaders lines

/-- The rest of the input, up to a limit. -/
def readRest : Nat → List ReadResult → ReadResult
  | _,[] | 0,_ => .ok []
  | _,.error message::_ => .error message
  | limit,.ok line::lines =>
    match readRest (limit-line.length) lines with
    | .error message => .error message
    | .ok rest => .ok (line.take limit++rest)

def lineStatus (line : String) : Option Nat :=
  ((Words.words isWhitespace line.toList).map String.ofList)[1]?.bind (parseUnsigned 65536)

/-- Why the server refuses the subscription. `problem` is the body as a value. -/
def refusal (problem : String → V) (status : Nat) (lines : List ReadResult) :
    ControlClientError V :=
  match (readText (readRest maxResponseBytes lines) : Except (ControlClientError V) String) with
  | .error error => error
  | .ok body => .rejected status (problem body)

/-- Opens a stream: what is read on the connection after the head. -/
def clientLiveLogs (problem : String → V) (reads : List ReadResult) :
    Except (ControlClientError V) (List ReadResult) := do
  let lines := results reads []
  let statusLine ← match lines with
    | [] => .ok ""
    | line::_ => readText line
  match lineStatus statusLine with
  | none => .error .malformedResponse
  | some status =>
    let rest ← skipHeaders lines.tail
    if status=200 then .ok rest else .error (refusal problem status rest)

/-- The next event, if the stream has not ended. `parse` reads it from its JSON. -/
def readEvent (parse : String → Option LiveLogEvent) (line : ReadResult) :
    Except (ControlClientError V) LiveLogEvent := do
  let text ← readText line
  if maxResponseBytes < (encode text).length then .error .messageTooLarge
  else
    match parse (trimEnd text) with
    | none => .error .deserialize
    | some event => .ok event

/-- The events of a stream, and the failure at which the client leaves it. -/
def follow (parse : String → Option LiveLogEvent) :
    List ReadResult → List LiveLogEvent × Option (ControlClientError V)
  | [] => ([],none)
  | line::lines =>
    match readEvent parse line with
    | .error error => ([],some error)
    | .ok event => (event::(follow parse lines).1,(follow parse lines).2)

end LiveLogClient

section Events

/-- What holds of numbers, texts and truth values holds of every field. -/
theorem LiveLogEvent.fields_each {P : String → Prop} (number : ∀n : Nat,P n.repr)
    (text : ∀t,P (JsonText.string t)) (truth : P (JsonText.bool true)) (event : LiveLogEvent) :
    ∀field∈event.fields,P field.2 := by
  have optional {α : Type} (name : String) (value : Option α) (write : α → String)
      (each : ∀a,P (write a)) : ∀field∈JsonText.optionalField name (value.map write),P field.2 := by
    intro field mem
    obtain ⟨written,here,rfl⟩ := List.mem_map.mp mem
    obtain ⟨a,-,rfl⟩ := Option.map_eq_some_iff.mp (Option.mem_toList.mp here)
    exact each a
  intro field mem
  simp only [fields,List.mem_append] at mem
  rcases mem with (((((((fixed|sequence)|stream)|observed)|line)|dropped)|previous)|replayed)|modified
  · simp only [List.mem_cons,List.not_mem_nil,or_false] at fixed
    rcases fixed with rfl|rfl|rfl|rfl
    · exact number _
    · exact text _
    · exact text _
    · exact text _
  · exact optional "sequence" event.sequence Nat.repr number field sequence
  · exact optional "stream" event.stream (fun stream => JsonText.string stream.label)
      (fun stream => text stream.label) field stream
  · rw [List.mem_singleton.mp observed]
    exact number _
  · exact optional "text" event.text JsonText.string text field line
  · exact optional "dropped" event.dropped Nat.repr number field dropped
  · exact optional "previousHubInstanceId" event.previousHubInstanceId JsonText.string text field
      previous
  · split_ifs at replayed
    · rw [List.mem_singleton.mp replayed]
      exact truth
    · cases replayed
  · exact optional "sourceModifiedAtUnixMs" event.sourceModifiedAtUnixMs Nat.repr number field
      modified

/-- No part of an event is a JSON text. -/
theorem LiveLogEvent.json_closed (event : LiveLogEvent) :
    ∀part,part <+: encode event.json → part≠encode event.json → ¬Balanced part := by
  have each := fields_each (P := fun text => Returns .plain (encode text)) returns_nat returns_string
    (returns_bool true) event
  exact (returns_object each).2

theorem LiveLogEvent.json_singleLine (event : LiveLogEvent) : JsonText.SingleLine event.json := by
  have each := fields_each (P := JsonText.SingleLine) JsonText.singleLine_nat
    JsonText.singleLine_string (JsonText.singleLine_bool true) event
  exact JsonText.singleLine_object _ each

end Events

namespace LiveLogClient

open ControlClient ControlHttp

variable {V : Type}

section Heads

/-- The lines of a head up to their newlines, with the empty one at its end. -/
def headLines (lines : List String) : List (List UInt8) :=
  lines.map (fun line => encode line++[13])++[[13]]

theorem encode_headLines (first : String) (lines : List String) :
    encode (headText (first::lines))=LineReader.closed (headLines (first::lines)) := by
  rw [encode_breaks,headLines,LineReader.closed,List.flatMap_append,List.flatMap_map,List.flatMap_cons]
  simp [newline]

/-- A line of a head that has no line break of its own. -/
def Plain (line : String) : Prop := IsLine line ∧ '\n'∉line.toList

variable {lines : List String}

theorem headLines_single (plain : ∀line∈lines,Plain line) : ∀line∈headLines lines,newline∉line := by
  intro line mem
  rcases List.mem_append.mp mem with header|ending
  · obtain ⟨text,here,rfl⟩ := List.mem_map.mp header
    rw [List.mem_append,not_or]
    exact ⟨newline_not_mem text (plain text here).2,by decide⟩
  · rw [List.mem_singleton.mp ending]
    decide

theorem readText_line (line : String) :
    readText (.ok (encode line++[13]++[newline]))=
      (.ok (line++"\r\n") : Except (ControlClientError V) _) := by
  have bytes : encode line++[13]++[newline]=encode (line++"\r\n") := by
    have breaks : encode "\r\n"=[13]++[newline] := by decide
    rw [encode_append,breaks,List.append_assoc]
  rw [bytes,readText,decode_encode]

/-- Without an empty line there is no end of a head. -/
theorem skipHeaders_missing {read : List ReadResult}
    (missing : ∀line∈read,line≠.ok [13,10]) :
    Transient (skipHeaders read : Except (ControlClientError V) _) := by
  induction read with
  | nil => exact ⟨.malformedResponse,rfl,rfl⟩
  | cons line read ih =>
    have later := ih fun other mem => missing other (List.mem_cons_of_mem line mem)
    cases line with
    | error message => exact ⟨.read message,rfl,rfl⟩
    | ok bytes =>
      cases decoded : decode bytes with
      | none =>
        refine ⟨.read "stream did not contain valid UTF-8",?_,rfl⟩
        simp only [skipHeaders,readText,decoded]
        rfl
      | some header =>
        have other : header≠"\r\n" := by
          intro same
          have encoded := encode_of_decode decoded
          rw [same] at encoded
          exact missing (.ok bytes) List.mem_cons_self (congrArg Except.ok encoded.symm)
        simp only [skipHeaders,readText,decoded,bind,Except.bind,if_neg other]
        exact later

/-- A whole head is passed. -/
theorem skipHeaders_whole (plain : ∀line∈lines,Plain line) (more : List ReadResult) :
    skipHeaders ((headLines lines).map (fun line => .ok (line++[newline]))++more)=
      (.ok more : Except (ControlClientError V) _) := by
  induction lines with
  | nil => rfl
  | cons line lines ih =>
    have later := ih fun other mem => plain other (List.mem_cons_of_mem line mem)
    have other : line++"\r\n"≠"\r\n" := by
      intro same
      have length := congrArg String.length same
      rw [String.length_append] at length
      have some_char := List.length_pos_of_ne_nil (plain line List.mem_cons_self).1.1
      rw [String.length_toList] at some_char
      omega
    have split : headLines (line::lines)=(encode line++[13])::headLines lines := rfl
    rw [split,List.map_cons,List.cons_append,skipHeaders,readText_line]
    simp only [bind,Except.bind,if_neg other]
    exact later

/-- Without an empty line behind its first line a stream is not opened. -/
theorem clientLiveLogs_missing (problem : String → V) (reads : List ReadResult)
    (missing : ∀line∈(results reads []).tail,line≠.ok [13,10]) :
    Transient (clientLiveLogs problem reads) := by
  obtain ⟨error,skipped,transient⟩ :=
    (skipHeaders_missing missing : Transient (skipHeaders _ : Except (ControlClientError V) _))
  have opened (statusLine : String) : Transient (match lineStatus statusLine with
      | none => .error .malformedResponse
      | some status => do
        let rest ← skipHeaders (results reads []).tail
        if status=200 then .ok rest else .error (refusal problem status rest) :
      Except (ControlClientError V) (List ReadResult)) := by
    cases lineStatus statusLine with
    | none => exact ⟨.malformedResponse,rfl,rfl⟩
    | some status =>
      refine ⟨error,?_,transient⟩
      simp only [skipped]
      rfl
  unfold clientLiveLogs
  cases split : results reads [] with
  | nil =>
    rw [split] at opened
    exact opened ""
  | cons line lines =>
    rw [split] at opened
    cases read : (readText line : Except (ControlClientError V) String) with
    | ok statusLine =>
      simp only [read]
      exact opened statusLine
    | error error' =>
      refine ⟨error',?_,?_⟩
      · simp only [read]
        rfl
      · unfold readText at read
        cases line with
        | error message =>
          cases read
          rfl
        | ok bytes =>
          cases decoded : decode bytes with
          | none =>
            simp only [decoded] at read
            cases read
            rfl
          | some text =>
            simp only [decoded] at read
            cases read

/-- With its whole head, the status decides. -/
theorem clientLiveLogs_whole (problem : String → V) {first : String} {lines : List String}
    (plain : ∀line∈first::lines,Plain line) {status : Nat}
    (known : lineStatus (first++"\r\n")=some status) {reads more : List ReadResult}
    (split : results reads []=
      (headLines (first::lines)).map (fun line => .ok (line++[newline]))++more) :
    clientLiveLogs problem reads=
      if status=200 then .ok more else .error (refusal problem status more) := by
  have passed := skipHeaders_whole (V := V) (fun line mem => plain line (List.mem_cons_of_mem _ mem))
    more
  have cut : headLines (first::lines)=(encode first++[13])::headLines lines := rfl
  rw [cut,List.map_cons,List.cons_append] at split
  unfold clientLiveLogs
  simp only [split,readText_line,List.tail_cons,bind,Except.bind,known,passed]

/-- What is read of a message: all of its head and then the rest, or no end of a head. -/
theorem results_head {first : String} {lines : List String}
    (plain : ∀line∈first::lines,Plain line) {body : List UInt8} {chunks : List (List UInt8)}
    (filled : ∀chunk∈chunks,chunk≠[])
    (inside : chunks.flatten <+: encode (headText (first::lines))++body)
    {ending : List ReadResult} (ends : Ends ending) :
    (∃part,part <+: body ∧ chunks.flatten=encode (headText (first::lines))++part ∧
        results (chunks.map .ok++ending) []=
          (headLines (first::lines)).map (fun line => .ok (line++[newline]))++
            ((rawLines [] part).map (fun line => .ok (line++[newline]))++
              results ending (unfinished [] part))) ∨
      (¬encode (headText (first::lines)) <+: chunks.flatten ∧
        ∀line∈(results (chunks.map .ok++ending) []).tail,line≠.ok [13,10]) := by
  have single := headLines_single plain
  rw [encode_headLines] at inside ⊢
  rcases Cut.prefix_append_cases inside with ⟨short,other⟩|⟨part,joined,more⟩
  · right
    have missing : ¬LineReader.closed (headLines (first::lines)) <+: chunks.flatten := by
      intro longer
      exact other (short.eq_of_length_le longer.length_le)
    refine ⟨missing,?_⟩
    obtain ⟨n,rest,joined,part⟩ := cut_closed short
    have few : n ≤ (first::lines).length := by
      by_contra many
      have all : (headLines (first::lines)).take n=headLines (first::lines) := by
        apply List.take_of_length_le
        rw [headLines,List.length_append,List.length_map,List.length_singleton]
        omega
      rw [joined,all] at missing
      exact missing (List.prefix_append _ _)
    rw [results_part single part filled joined]
    intro line mem
    rcases List.mem_append.mp (List.mem_of_mem_tail mem) with header|last
    · obtain ⟨bytes,here,rfl⟩ := List.mem_map.mp header
      rw [headLines,List.take_append_of_le_length (by rwa [List.length_map]),
        ← List.map_take] at here
      obtain ⟨text,taken,rfl⟩ := List.mem_map.mp here
      obtain ⟨b,bytes,starts⟩ := List.exists_cons_of_ne_nil (encode_ne_nil text
        (plain text (List.mem_of_mem_take taken)).1.1)
      intro same
      have length := congrArg List.length (Except.ok.inj same)
      rw [starts] at length
      simp at length
    · have clear := part.single single
      intro same
      subst same
      have reads : results ending rest=LineReader.last rest ∨
          ∃message,results ending rest=[.error message] := by
        cases ends with
        | stopped => exact .inl rfl
        | closed more => exact .inl (results_closed rest more)
        | failed message more => exact .inr ⟨message,rfl⟩
      rcases reads with ended|⟨message,failed⟩
      · rw [ended,LineReader.last] at last
        split_ifs at last
        · cases last
        · cases List.mem_singleton.mp last
          exact clear (by decide)
      · rw [failed] at last
        cases List.mem_singleton.mp last
  · left
    refine ⟨part,more,joined,?_⟩
    obtain ⟨raw,left⟩ := rawLines_rest single part
    rw [results_chunks filled,joined,raw,left,List.map_append,List.append_assoc]

end Heads

section Follow

variable {parse : String → Option LiveLogEvent}

theorem trimEnd_part (text : String) : (trimEnd text).toList <+: text.toList := by
  rw [trimEnd,String.toList_ofList]
  exact List.rdropWhile_prefix _ _

theorem encode_prefix {a b : String} (cut : a.toList <+: b.toList) : encode a <+: encode b := by
  obtain ⟨rest,joined⟩ := cut
  refine ⟨rest.flatMap String.utf8EncodeChar,?_⟩
  rw [encode,encode,← List.flatMap_append,joined]

theorem trimEnd_json (event : LiveLogEvent) : trimEnd (event.json++"\n")=event.json := by
  have ends : event.json.toList.getLast?=some '\x7d' := by
    rw [LiveLogEvent.json,JsonText.object,String.toList_append]
    exact List.getLast?_append_of_ne_nil _ (by decide)
  obtain ⟨front,chars⟩ := List.getLast?_eq_some_iff.mp ends
  apply String.toList_injective
  rw [trimEnd,String.toList_ofList,String.toList_append,chars]
  show ((front++['\x7d'])++['\n']).rdropWhile isWhitespace=front++['\x7d']
  rw [List.rdropWhile_concat_pos _ _ _ (by decide),List.rdropWhile_concat_neg _ _ _ (by decide)]

/-- The line of the event is not longer than the client takes. -/
def Small (event : LiveLogEvent) : Prop := (encode event.json).length < maxResponseBytes

instance (event : LiveLogEvent) : Decidable (Small event) := inferInstanceAs (Decidable (_ < _))

theorem readEvent_whole (event : LiveLogEvent) (rereads : parse event.json=some event) :
    readEvent parse (.ok (encode event.json++[newline]))=
      (if Small event then .ok event else .error .messageTooLarge :
        Except (ControlClientError V) _) := by
  have bytes : encode event.json++[newline]=encode (event.json++"\n") := by
    rw [encode_append,encode_newline]
  have size : maxResponseBytes < (encode (event.json++"\n")).length ↔ ¬Small event := by
    rw [Small,← bytes,List.length_append,List.length_singleton]
    omega
  simp only [readEvent,readText,bytes,decode_encode,bind,Except.bind,size,trimEnd_json,rereads,
    ite_not]

/-- What comes of the last event: all of its text, or a failure after which the client connects
again, unless the event is too large for it. -/
theorem readEvent_part (event : LiveLogEvent) (rereads : parse event.json=some event)
    (balanced : ∀text event,parse text=some event → Balanced (encode text)) {part : List UInt8}
    (inside : part <+: encode event.json) :
    (part=encode event.json ∧
        readEvent parse (.ok part)=(.ok event : Except (ControlClientError V) _)) ∨
      Transient (readEvent parse (.ok part) : Except (ControlClientError V) _) ∨
      (¬Small event ∧ readEvent parse (.ok part)=
        (.error .messageTooLarge : Except (ControlClientError V) _)) := by
  cases decoded : decode part with
  | none =>
    refine .inr (.inl ⟨.read "stream did not contain valid UTF-8",?_,rfl⟩)
    simp only [readEvent,readText,decoded]
    rfl
  | some text =>
    have encoded := encode_of_decode decoded
    by_cases size : maxResponseBytes < (encode text).length
    · refine .inr (.inr ⟨fun small => ?_,?_⟩)
      · have short := inside.length_le
        rw [encoded] at size
        exact Nat.lt_asymm size (Nat.lt_of_le_of_lt short small)
      · simp only [readEvent,readText,decoded,bind,Except.bind,if_pos size]
    have read : readEvent parse (.ok part)=
        (match parse (trimEnd text) with
          | none => .error .deserialize
          | some event => .ok event : Except (ControlClientError V) _) := by
      simp only [readEvent,readText,decoded,bind,Except.bind,if_neg size]
    rw [read]
    have trimmed : encode (trimEnd text) <+: part := encoded ▸ encode_prefix (trimEnd_part text)
    cases parsed : parse (trimEnd text) with
    | none => exact .inr (.inl ⟨.deserialize,rfl,rfl⟩)
    | some other =>
      by_cases whole : encode (trimEnd text)=encode event.json
      · have all : part=encode event.json := by
          apply inside.eq_of_length
          have long := trimmed.length_le
          rw [whole] at long
          exact Nat.le_antisymm inside.length_le long
        have same : trimEnd text=event.json := by
          have texts := congrArg decode whole
          rw [decode_encode,decode_encode] at texts
          exact Option.some.inj texts
        rw [same,rereads] at parsed
        cases parsed
        exact .inl ⟨all,rfl⟩
      · exact absurd (balanced _ other parsed)
          (event.json_closed _ (trimmed.trans inside) whole)

/-- What the client makes of a stream of which the lines of the first `n` events have arrived and a
part of the next one: events in their order, and all that have arrived, up to one that is too large
for it. There it stops for good. -/
structure Followed (events : List LiveLogEvent) (n : Nat)
    (told : List LiveLogEvent × Option (ControlClientError V)) : Prop where
  inOrder : told.1 <+: events
  arrived : ∀m,m ≤ n → (∀event∈events.take m,Small event) → m ≤ told.1.length
  tooLarge : ∀m event,m < n → (∀before∈events.take m,Small before) → events[m]?=some event →
    ¬Small event → told=(events.take m,some .messageTooLarge)
  stopped : ∀error,told.2=some error → error.isTransient=true ∨
    error=.messageTooLarge ∧ ∃event,events[told.1.length]?=some event ∧ ¬Small event

/-- The end of a stream gives the rest of an event, or nothing. -/
theorem followed_end {events : List LiveLogEvent} {rest : List UInt8} {ending : List ReadResult}
    (ends : Ends ending) (rereads : ∀event∈events,parse event.json=some event)
    (balanced : ∀text event,parse text=some event → Balanced (encode text))
    (inside : rest=[] ∨ ∃event,events.head?=some event ∧ rest <+: encode event.json) :
    Followed events 0 (follow (V := V) parse (results ending rest)) := by
  have nothing (failure : Option (ControlClientError V)) (stops : ∀error,failure=some error →
      error.isTransient=true ∨ error=.messageTooLarge ∧
        ∃event,events[0]?=some event ∧ ¬Small event) : Followed events 0 ([],failure) :=
    ⟨List.nil_prefix,fun _ none _ => none,fun _ _ none => absurd none (Nat.not_lt_zero _),stops⟩
  have ended : Followed events 0 (follow (V := V) parse (LineReader.last rest)) := by
    rw [LineReader.last]
    split_ifs with empty
    · exact nothing none nofun
    rcases inside with none|⟨event,first,part⟩
    · exact absurd none empty
    have here : events[0]?=some event := by rw [← List.head?_eq_getElem?]; exact first
    rcases readEvent_part (V := V) event (rereads event (List.mem_of_mem_head? first)) balanced part
      with ⟨-,read⟩|⟨error,read,transient⟩|⟨large,read⟩
    · have told : follow (V := V) parse [.ok rest]=([event],none) := by simp only [follow,read]
      rw [told]
      refine ⟨?_,fun _ none _ => none.trans (Nat.zero_le _),
        fun _ _ none => absurd none (Nat.not_lt_zero _),nofun⟩
      obtain ⟨later,rfl⟩ := List.head?_eq_some_iff.mp first
      exact List.prefix_append [event] later
    · have told : follow (V := V) parse [.ok rest]=([],some error) := by simp only [follow,read]
      rw [told]
      refine nothing _ fun other same => ?_
      cases same
      exact .inl transient
    · have told : follow (V := V) parse [.ok rest]=([],some .messageTooLarge) := by
        simp only [follow,read]
      rw [told]
      refine nothing _ fun other same => ?_
      cases same
      exact .inr ⟨rfl,event,here,large⟩
  cases ends with
  | stopped => exact ended
  | closed more =>
    rw [results_closed]
    exact ended
  | failed message more =>
    refine nothing (some (.read message)) fun error same => ?_
    cases same
    exact .inl rfl

/-- One more event at the front of the stream. -/
theorem Followed.cons {event : LiveLogEvent} {events : List LiveLogEvent} {n : Nat}
    {told : List LiveLogEvent × Option (ControlClientError V)} (followed : Followed events n told)
    (small : Small event) : Followed (event::events) (n+1) (event::told.1,told.2) := by
  have smaller {m : Nat} (each : ∀before∈(event::events).take (m+1),Small before) :
      ∀before∈events.take m,Small before :=
    fun before mem => each before (List.mem_cons_of_mem event mem)
  refine ⟨(List.cons_prefix_cons).mpr ⟨rfl,followed.inOrder⟩,fun m le each => ?_,
    fun m large less each there unfit => ?_,followed.stopped⟩
  · cases m with
    | zero => exact Nat.zero_le _
    | succ m =>
      exact Nat.succ_le_succ (followed.arrived m (Nat.le_of_succ_le_succ le) (smaller each))
  · cases m with
    | zero =>
      cases there
      exact absurd small unfit
    | succ m =>
      have same := followed.tooLarge m large (Nat.lt_of_succ_lt_succ less) (smaller each) there
        unfit
      rw [same]
      rfl

/-- At an event that is too large the client stops. -/
theorem followed_large {event : LiveLogEvent} (large : ¬Small event) (events : List LiveLogEvent)
    (n : Nat) : Followed (event::events) n (([],some .messageTooLarge) :
      List LiveLogEvent × Option (ControlClientError V)) := by
  refine ⟨List.nil_prefix,fun m _ each => ?_,fun m other _ each there unfit => ?_,
    fun error same => ?_⟩
  · cases m with
    | zero => exact Nat.le_refl _
    | succ m => exact absurd (each event List.mem_cons_self) large
  · cases m with
    | zero => rfl
    | succ m => exact absurd (each event List.mem_cons_self) large
  · cases same
    exact .inr ⟨rfl,event,rfl,large⟩

/-- The lines of the first events, and then the end. By induction on the lines that have arrived. -/
theorem followed_lines {events : List LiveLogEvent} {n : Nat} {rest : List UInt8}
    {ending : List ReadResult} (ends : Ends ending)
    (rereads : ∀event∈events,parse event.json=some event)
    (balanced : ∀text event,parse text=some event → Balanced (encode text))
    (count : n ≤ events.length)
    (inside : rest=[] ∨ ∃event,events[n]?=some event ∧ rest <+: encode event.json) :
    Followed events n (follow (V := V) parse (((events.take n).map fun event =>
      .ok (encode event.json++[newline]))++results ending rest)) := by
  induction n generalizing events with
  | zero =>
    rw [List.take_zero,List.map_nil,List.nil_append]
    apply followed_end ends rereads balanced
    rw [List.head?_eq_getElem?]
    exact inside
  | succ n ih =>
    cases events with
    | nil => exact absurd count (Nat.not_succ_le_zero n)
    | cons event events =>
      have later := ih (fun other mem => rereads other (List.mem_cons_of_mem event mem))
        (Nat.le_of_succ_le_succ count) inside
      have read := readEvent_whole (V := V) event (rereads event List.mem_cons_self)
      rw [List.take_succ_cons,List.map_cons,List.cons_append,follow]
      by_cases small : Small event
      · rw [if_pos small] at read
        rw [read]
        exact later.cons small
      · rw [if_neg small] at read
        rw [read]
        exact followed_large small events (n+1)

end Follow

section Stream

def liveLogFirst : String := "HTTP/1.1 200 OK"

def liveLogHeaders : List String :=
  ["Content-Type: application/x-ndjson","Cache-Control: no-store","Connection: close"]

theorem liveLogHead_eq : liveLogHead=headText (liveLogFirst::liveLogHeaders) := by
  apply String.toList_injective
  decide +kernel

theorem liveLog_plain : ∀line∈liveLogFirst::liveLogHeaders,Plain line := by
  intro line mem
  simp only [liveLogFirst,liveLogHeaders,List.mem_cons,List.not_mem_nil,or_false] at mem
  rcases mem with rfl|rfl|rfl|rfl
  · exact ⟨by decide,by decide⟩
  · exact ⟨by decide,by decide⟩
  · exact ⟨by decide,by decide⟩
  · exact ⟨by decide,by decide⟩

def eventLines (events : List LiveLogEvent) : List (List UInt8) :=
  events.map fun event => encode event.json

theorem eventLines_single (events : List LiveLogEvent) : ∀line∈eventLines events,newline∉line := by
  intro line mem
  obtain ⟨event,-,rfl⟩ := List.mem_map.mp mem
  exact newline_not_mem _ event.json_singleLine

theorem streamLiveLogs_eq (events : List LiveLogEvent) :
    streamLiveLogs events=encode (headText (liveLogFirst::liveLogHeaders))++
      LineReader.closed (eventLines events) := by
  have body : events.flatMap writeLiveLogEvent=LineReader.closed (eventLines events) := by
    rw [LineReader.closed,eventLines,List.flatMap_map]
    rfl
  rw [streamLiveLogs,liveLogHead_eq,body]

/-- What a client makes of these pieces of a stream of events, and of its end. -/
structure Streamed (problem : String → V) (parse : String → Option LiveLogEvent)
    (events : List LiveLogEvent) (chunks : List (List UInt8)) (ending : List ReadResult) : Prop where
  opens : encode liveLogHead <+: chunks.flatten →
    ∃lines,clientLiveLogs problem (chunks.map .ok++ending)=.ok lines
  cut : ∀error,clientLiveLogs problem (chunks.map .ok++ending)=.error error →
    error.isTransient=true
  inOrder : ∀lines,clientLiveLogs problem (chunks.map .ok++ending)=.ok lines →
    (follow (V := V) parse lines).1 <+: events
  arrived : ∀lines n,clientLiveLogs problem (chunks.map .ok++ending)=.ok lines →
    n ≤ events.length → streamLiveLogs (events.take n) <+: chunks.flatten →
      (∀event∈events.take n,Small event) → n ≤ (follow (V := V) parse lines).1.length
  tooLarge : ∀lines n event,clientLiveLogs problem (chunks.map .ok++ending)=.ok lines →
    events[n]?=some event → streamLiveLogs (events.take (n+1)) <+: chunks.flatten →
      (∀before∈events.take n,Small before) → ¬Small event →
        follow (V := V) parse lines=(events.take n,some .messageTooLarge)
  stopped : ∀lines error,clientLiveLogs problem (chunks.map .ok++ending)=.ok lines →
    (follow (V := V) parse lines).2=some error → error.isTransient=true ∨
      error=.messageTooLarge ∧ ∃event,events[(follow (V := V) parse lines).1.length]?=some event ∧
        ¬Small event

/-- However a stream of events arrives and wherever it breaks, a client reads its events in their
order and each of them that has arrived as a whole, none in part, up to one that is too large for
it; and it leaves it for a failure after which it connects again, but for such an event. -/
theorem live_stream_is_read (problem : String → V) (parse : String → Option LiveLogEvent)
    (balanced : ∀text event,parse text=some event → Balanced (encode text))
    (events : List LiveLogEvent) (rereads : ∀event∈events,parse event.json=some event)
    (chunks : List (List UInt8)) (filled : ∀chunk∈chunks,chunk≠[])
    (inside : chunks.flatten <+: streamLiveLogs events) (ending : List ReadResult)
    (ends : Ends ending) : Streamed problem parse events chunks ending := by
  have status : lineStatus (liveLogFirst++"\r\n")=some 200 := by decide +kernel
  rw [streamLiveLogs_eq] at inside
  rcases results_head liveLog_plain filled inside ends with ⟨part,more,joined,read⟩|⟨short,missing⟩
  · obtain ⟨n,rest,rfl,part⟩ := cut_closed more
    have single := eventLines_single events
    have few : ∀line∈(eventLines events).take n,newline∉line := fun line mem =>
      single line (List.mem_of_mem_take mem)
    have clear := part.single single
    obtain ⟨none,whole⟩ := rawLines_open [] rest clear
    obtain ⟨raw,left⟩ := rawLines_rest few rest
    rw [raw,left,none,whole,List.append_nil,List.nil_append] at read
    have opened := clientLiveLogs_whole problem liveLog_plain status read
    rw [if_pos rfl,eventLines,← List.map_take,List.map_map] at opened
    have count : n ≤ events.length := by
      have bound := part.count
      rwa [eventLines,List.length_map] at bound
    have next : rest=[] ∨ ∃event,events[n]?=some event ∧ rest <+: encode event.json := by
      rcases part.inside with none|⟨line,here,short⟩
      · exact .inl none
      · rw [eventLines,List.getElem?_map] at here
        obtain ⟨event,there,rfl⟩ := Option.map_eq_some_iff.mp here
        exact .inr ⟨event,there,short⟩
    have followed := followed_lines (V := V) ends rereads balanced count next
    -- the lines of whole events that have arrived are among those that were read
    have lines_few {m : Nat} (le : m ≤ events.length)
        (arrived : streamLiveLogs (events.take m) <+: chunks.flatten) : m ≤ n := by
      rw [streamLiveLogs_eq,joined,List.prefix_append_right_inj] at arrived
      have lines := count_cut (eventLines_single _) few clear arrived
      rw [eventLines,List.length_map,List.length_take,List.length_take,eventLines,
        List.length_map] at lines
      omega
    refine ⟨fun _ => ⟨_,opened⟩,fun error same => ?_,fun lines same => ?_,
      fun lines m same bound arrived small => ?_,
      fun lines m event same there arrived small large => ?_,fun lines error same => ?_⟩
    · rw [opened] at same
      cases same
    · cases opened.symm.trans same
      exact followed.inOrder
    · cases opened.symm.trans same
      exact followed.arrived m (lines_few bound arrived) small
    · cases opened.symm.trans same
      have bound := (List.getElem?_eq_some_iff.mp there).1
      exact followed.tooLarge m event (lines_few bound arrived) small there large
    · cases opened.symm.trans same
      exact followed.stopped error
  · obtain ⟨error,refused,transient⟩ := clientLiveLogs_missing problem _ missing
    have never (lines : List ReadResult) :
        clientLiveLogs problem (chunks.map .ok++ending)≠.ok lines := by
      rw [refused]
      nofun
    refine ⟨fun head => ?_,fun other same => ?_,fun lines same => absurd same (never lines),
      fun lines _ same => absurd same (never lines),fun lines _ _ same => absurd same (never lines),
      fun lines _ same => absurd same (never lines)⟩
    · rw [liveLogHead_eq] at head
      exact absurd head short
    · rw [refused] at same
      cases same
      exact transient

def sampleEvent : LiveLogEvent := .line "1-1" "api" .stdout 1 "hi" 2

def parseSample (text : String) : Option LiveLogEvent :=
  if text=sampleEvent.json then some sampleEvent else none

def sampleStream : List UInt8 := streamLiveLogs [sampleEvent,sampleEvent]

/-- The stream breaks in its second event. -/
theorem live_stream_is_read_break : Streamed id parseSample [sampleEvent,sampleEvent]
    [sampleStream.take 150,(sampleStream.drop 150).take 150] [.error "reset"] := by
  have balanced (text : String) (event : LiveLogEvent) (parsed : parseSample text=some event) :
      Balanced (encode text) := by
    unfold parseSample at parsed
    split_ifs at parsed with same
    rw [same]
    decide +kernel
  have each : ∀event∈[sampleEvent,sampleEvent],parseSample event.json=some event := by
    intro event mem
    have same : event=sampleEvent := by simpa using mem
    rw [same]
    exact if_pos rfl
  exact live_stream_is_read id parseSample balanced [sampleEvent,sampleEvent] each
    [sampleStream.take 150,(sampleStream.drop 150).take 150] (by decide +kernel) (by decide +kernel)
    [.error "reset"] (.failed "reset" [])

end Stream

section Refusal

theorem lineStatus_response (response : Response) (proper : response.Proper) :
    lineStatus (response.statusLine++"\r\n")=some response.status := by
  have plain : ("HTTP/1.1".toList.all fun c => isWhitespace c=false)=true := by decide
  have version (c : Char) (mem : c∈"HTTP/1.1".toList) : isWhitespace c=false :=
    of_decide_eq_true (List.all_eq_true.mp plain c mem)
  have number := isWord_repr response.status
  have chars : (response.statusLine++"\r\n").toList=
      "HTTP/1.1".toList++ ' ' ::(response.status.repr.toList++ ' ' ::
        ((Response.reasonPhrase response.status).toList++"\r\n".toList)) := by
    rw [String.toList_append,response.statusLine_chars]
    simp
  obtain ⟨more,split⟩ : ∃more,Words.words isWhitespace (response.statusLine++"\r\n").toList=
      "HTTP/1.1".toList::response.status.repr.toList::more := by
    rw [chars,Words.words,Words.wordsFrom_cut [] _ (by decide) version rfl,
      Words.wordsFrom_cut [] _ (by simp) number.2 rfl]
    exact ⟨_,rfl⟩
  rw [lineStatus,split,List.map_cons,List.map_cons,List.getElem?_cons_succ,
    List.getElem?_cons_zero,Option.bind_some,String.ofList_toList]
  exact parseUnsigned_repr proper.status

/-- A refusal never opens a stream, wherever it breaks: the client is told its status, or it connects
again. -/
theorem refusal_is_told (problem : String → V) (response : Response) (proper : response.Proper)
    (plain : ∀line∈response.statusLine::response.headLines,Plain line)
    (refused : response.status≠200) (chunks : List (List UInt8)) (filled : ∀chunk∈chunks,chunk≠[])
    (inside : chunks.flatten <+: response.written) (ending : List ReadResult) (ends : Ends ending) :
    ∃error,clientLiveLogs problem (chunks.map .ok++ending)=.error error ∧
      (error.isTransient=true ∨ ∃value,error=.rejected response.status value) := by
  rw [response.written_eq] at inside
  rcases results_head plain filled inside ends with ⟨part,-,-,read⟩|⟨-,missing⟩
  · have opened := clientLiveLogs_whole problem plain (lineStatus_response response proper) read
    rw [if_neg refused] at opened
    refine ⟨_,opened,?_⟩
    unfold refusal
    generalize readRest maxResponseBytes _=body
    cases body with
    | error message => exact .inl rfl
    | ok bytes =>
      cases decoded : decode bytes with
      | none =>
        simp only [readText,decoded]
        exact .inl rfl
      | some text =>
        simp only [readText,decoded]
        exact .inr ⟨_,rfl⟩
  · obtain ⟨error,failed,transient⟩ := clientLiveLogs_missing problem _ missing
    exact ⟨error,failed,.inl transient⟩

end Refusal

end LiveLogClient

end AkuSupervisor

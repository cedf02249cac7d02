import AkuSupervisor.Lib.LineSession
import AkuSupervisor.Adapters.Mcp
import AkuSupervisor.Adapters.HttpRequest
import Mathlib.Data.List.DropRight

/-! The sessions over standard input and output: the registration server, and the proxy to the server
that a running supervisor has. -/

namespace AkuSupervisor

open TextLines LineSession Mcp

/-- The reading and the writing of JSON. -/
structure Serde where
  parse : List UInt8 → Option JsonValue
  serialize : JsonValue → List UInt8
  /-- What is left of a number that is written and read again. -/
  round : JsonNumber → JsonNumber

namespace Serde

def maxDepth : Nat := 127

/-- What is written is read again, with its numbers rounded, unless it is nested too deep. -/
def Rereads (serde : Serde) (value : JsonValue) : Prop :=
  serde.parse (serde.serialize value)=
    if value.depth ≤ maxDepth then some (value.mapNumbers serde.round) else none

end Serde

inductive SessionError where
  | readStdin
  | messageTooLarge
  | malformedResponse
  | rejected (status : Nat) (body : JsonValue)

/-- `str::trim_end_matches` of line breaks. -/
def trimLine (line : String) : List UInt8 :=
  encode (String.ofList (line.toList.rdropWhile fun c => c= '\r' || c= '\n'))

def tooLarge : JsonValue := rpcError .null (-32600) "MCP message exceeds bounded body size"

namespace RegistrationMcp

def maxStdioMessageBytes : Nat := 256*1024

/-- What one line is answered with, if anything. -/
def answer (serde : Serde) (methods : McpMethods) (line : List UInt8) :
    Except SessionError (Option JsonValue) :=
  match decode line with
  | none => .error .readStdin
  | some text =>
    if maxStdioMessageBytes < (trimLine text).length then .ok (some tooLarge)
    else .ok (handleMessage methods (serde.parse (trimLine text)))

/-- The session on this input, with the methods as they are when a line is answered. -/
def serve (serde : Serde) (methods : Nat → McpMethods) (input : List UInt8) :
    Transcript (Option JsonValue) SessionError :=
  session (fun n => answer serde (methods n)) 0 (readLines input)

end RegistrationMcp

namespace McpProxy

def maxStdioMessageBytes : Nat := 4*1024

/-- The endpoint of the server. -/
def routeMcp (serde : Serde) (methods : McpMethods) (body : List UInt8) : Nat × List UInt8 :=
  match handleMessage methods (serde.parse body) with
  | some response => (200,serde.serialize response)
  | none => (202,[])

def decodeJsonResponse (serde : Serde) (status : Nat) (body : List UInt8) :
    Except SessionError JsonValue :=
  match serde.parse body with
  | none => .error .malformedResponse
  | some value => if 200 ≤ status ∧ status < 300 then .ok value else .error (.rejected status value)

def mcpClientRequest (serde : Serde) (exchange : List UInt8 → Nat × List UInt8)
    (message : JsonValue) : Except SessionError (Option JsonValue) :=
  let body := serde.serialize message
  if maxBodyBytes < body.length then .error .messageTooLarge
  else
    let (status,response) := exchange body
    if status=202 ∧ response=[] then .ok none
    else (decodeJsonResponse serde status response).map some

def answer (serde : Serde) (methods : McpMethods) (line : List UInt8) :
    Except SessionError (Option JsonValue) :=
  match decode line with
  | none => .error .readStdin
  | some text =>
    if maxStdioMessageBytes < (trimLine text).length then .ok (some tooLarge)
    else
      match serde.parse (trimLine text) with
      | none => .ok (some (rpcError .null (-32700) "Parse error"))
      | some message => mcpClientRequest serde (routeMcp serde methods) message

def proxy (serde : Serde) (methods : Nat → McpMethods) (input : List UInt8) :
    Transcript (Option JsonValue) SessionError :=
  session (fun n => answer serde (methods n)) 0 (readLines input)

end McpProxy

/-- The message on a line, if it is text of at most so many bytes and reads as JSON. -/
def lineMessage (serde : Serde) (bound : Nat) (line : List UInt8) : Option JsonValue :=
  (decode line).bind fun text =>
    if bound < (trimLine text).length then none else serde.parse (trimLine text)

/-- The session ends with its input, and answers each line as its kind asks for. -/
def Survives (serde : Serde) (bound : Nat) (lines : List (List UInt8))
    (transcript : Transcript (Option JsonValue) SessionError) : Prop :=
  transcript.stopped=none ∧ List.Forall₂ (fun line => Meets (kind (lineMessage serde bound line)))
    (lines.map (·++[newline])) transcript.answers

section Lines

variable (serde : Serde) (methods : McpMethods) (line : List UInt8)

/-- The line is answered as it should be. -/
def Answered (answer : Except SessionError (Option JsonValue)) (bound : Nat) : Prop :=
  ∃response,answer=.ok response ∧ Meets (kind (lineMessage serde bound line)) response

/-- The registration server can go on: the line is text, and no message that it swallows. -/
def RegistrationReads : Prop :=
  (decode line).isSome=true ∧
    ∀m,lineMessage serde RegistrationMcp.maxStdioMessageBytes line=some m → ¬Swallowed m

/-- A message can be forwarded: it is not swallowed, it fits when it is written again, its identifier
is still the same when it has been written and read twice, and its result is not nested too deep. -/
def Forwards (m : JsonValue) : Prop :=
  ¬Swallowed m ∧ (serde.serialize m).length ≤ maxBodyBytes ∧
    ∀id,kind (some m)=.request id → (id.mapNumbers serde.round).mapNumbers serde.round=id ∧
      ∀result,outcome methods (m.mapNumbers serde.round)=.ok result →
        result.depth < Serde.maxDepth

/-- The proxy can go on: the line is text, and its message can be forwarded. -/
def ProxyReads : Prop :=
  (decode line).isSome=true ∧
    ∀m,lineMessage serde McpProxy.maxStdioMessageBytes line=some m → Forwards serde methods m

variable {serde methods line}

theorem registration_answered :
    Answered serde line (RegistrationMcp.answer serde methods line)
        RegistrationMcp.maxStdioMessageBytes ↔ RegistrationReads serde line := by
  rw [Answered,RegistrationReads,RegistrationMcp.answer,lineMessage]
  cases decode line with
  | none =>
    simp only [Option.isSome_none,Bool.false_eq_true,false_and,iff_false]
    intro answered
    obtain ⟨response,failed,-⟩ := answered
    cases failed
  | some text =>
    simp only [Option.isSome_some,Option.bind_some,true_and]
    by_cases long : RegistrationMcp.maxStdioMessageBytes < (trimLine text).length
    · rw [if_pos long,if_pos long]
      constructor
      · intro _ m none
        cases none
      · intro _
        exact ⟨_,rfl,_,rfl,rfl⟩
    · rw [if_neg long,if_neg long]
      have meets := handleMessage_meets methods (serde.parse (trimLine text))
      constructor
      · intro answered
        obtain ⟨response,same,answered⟩ := answered
        cases same
        exact meets.mp answered
      · intro kept
        exact ⟨_,rfl,meets.mpr kept⟩

/-- What comes back for a message that fits. -/
theorem mcpClientRequest_fits {m : JsonValue} (fits : (serde.serialize m).length ≤ maxBodyBytes)
    (shallow : m.depth ≤ Serde.maxDepth) (rereads : serde.Rereads m)
    (replies : ∀response,handleMessage methods (some (m.mapNumbers serde.round))=some response →
      serde.Rereads response) :
    McpProxy.mcpClientRequest serde (McpProxy.routeMcp serde methods) m=
      match handleMessage methods (some (m.mapNumbers serde.round)) with
      | none => .ok none
      | some response =>
        if response.depth ≤ Serde.maxDepth then .ok (some (response.mapNumbers serde.round))
        else .error .malformedResponse := by
  have read : serde.parse (serde.serialize m)=some (m.mapNumbers serde.round) :=
    rereads.trans (if_pos shallow)
  rw [McpProxy.mcpClientRequest]
  simp only
  rw [if_neg (by omega),McpProxy.routeMcp,read]
  cases handled : handleMessage methods (some (m.mapNumbers serde.round)) with
  | none => rfl
  | some response =>
    have back := replies response handled
    rw [Serde.Rereads] at back
    simp only [McpProxy.decodeJsonResponse,back]
    split_ifs <;> simp_all [Except.map]

theorem forwarded_answered {m : JsonValue} (shallow : m.depth ≤ Serde.maxDepth)
    (rereads : serde.Rereads m)
    (replies : ∀response,handleMessage methods (some (m.mapNumbers serde.round))=some response →
      serde.Rereads response) :
    (∃response,McpProxy.mcpClientRequest serde (McpProxy.routeMcp serde methods) m=.ok response ∧
      Meets (kind (some m)) response) ↔ Forwards serde methods m := by
  by_cases fits : (serde.serialize m).length ≤ maxBodyBytes
  · rw [mcpClientRequest_fits fits shallow rereads replies]
    have mapped := kind_mapNumbers serde.round m
    have swallows := swallowed_mapNumbers serde.round m
    have sound (other : kind (some m)≠.malformed) : ¬Swallowed m :=
      fun swallowed => other (swallowed.unanswered methods).1
    have handled := handleMessage_cases methods (some (m.mapNumbers serde.round))
    have unswallowed (answered : handleMessage methods (some (m.mapNumbers serde.round))≠none) :
        ¬Swallowed m :=
      fun swallowed => answered ((swallows.mpr swallowed).unanswered methods).2
    rw [mapped] at handled
    generalize handleMessage methods (some (m.mapNumbers serde.round))=answer
      at handled unswallowed ⊢
    rw [Forwards]
    cases own : kind (some m) with
    | malformed =>
      rw [own,MessageKind.mapNumbers] at handled
      cases handled with
      | rejected id code text flat =>
        have shown : ((rpcError id code text).mapNumbers serde.round).get "error"≠none := by
          rw [JsonValue.get_mapNumbers]
          simp [rpcError,JsonValue.get]
        have within : (rpcError id code text).depth ≤ Serde.maxDepth := by
          rw [depth_rpcError _ _ flat]
          decide
        simp only [if_pos within]
        constructor
        · intro _
          exact ⟨unswallowed (by simp),fits,fun id other => by cases other⟩
        · intro _
          exact ⟨_,rfl,_,rfl,Option.isSome_iff_ne_none.mpr shown⟩
      | swallowed m' same swallowed =>
        cases same
        constructor
        · intro answered
          obtain ⟨response,same,response',shown,-⟩ := answered
          cases same
          cases shown
        · intro forwards
          exact absurd (swallows.mp swallowed) forwards.1
    | request id =>
      rw [own,MessageKind.mapNumbers] at handled
      cases handled with
      | request m' _ same proper =>
        cases same
        have deep := depth_answerRequest proper Serde.maxDepth (by decide)
          (outcome methods (m.mapNumbers serde.round))
        have meets := answerRequest_meets (id.mapNumbers serde.round)
          (outcome methods (m.mapNumbers serde.round))
        generalize answerRequest (id.mapNumbers serde.round)
          (outcome methods (m.mapNumbers serde.round))=response at deep meets ⊢
        obtain ⟨identified,reported⟩ := meets
        constructor
        · intro answered
          obtain ⟨_,same,shown⟩ := answered
          by_cases within : response.depth ≤ Serde.maxDepth
          · simp only [if_pos within] at same
            cases same
            obtain ⟨_,same,identified',-⟩ := shown
            cases same
            rw [JsonValue.get_mapNumbers,identified] at identified'
            refine ⟨sound (by rw [own]; simp),fits,fun id' same => ?_⟩
            cases same
            exact ⟨Option.some.inj identified',deep.mp within⟩
          · simp only [if_neg within] at same
            cases same
        · intro forwards
          obtain ⟨-,-,requested⟩ := forwards
          obtain ⟨same,shallow⟩ := requested id rfl
          simp only [if_pos (deep.mpr shallow)]
          refine ⟨_,rfl,_,rfl,?_,?_⟩
          · rw [JsonValue.get_mapNumbers,identified,Option.map_some,same]
          · rw [JsonValue.get_mapNumbers,JsonValue.get_mapNumbers,Option.isSome_map,
              Option.isSome_map]
            exact reported
    | notification =>
      rw [own,MessageKind.mapNumbers] at handled
      cases handled
      exact ⟨fun _ => ⟨sound (by rw [own]; simp),fits,fun id other => by cases other⟩,
        fun _ => ⟨none,rfl,rfl⟩⟩
    | response =>
      rw [own,MessageKind.mapNumbers] at handled
      cases handled
      exact ⟨fun _ => ⟨sound (by rw [own]; simp),fits,fun id other => by cases other⟩,
        fun _ => ⟨none,rfl,rfl⟩⟩
  · rw [McpProxy.mcpClientRequest]
    simp only
    rw [if_pos (by omega)]
    constructor
    · intro answered
      obtain ⟨response,failed,-⟩ := answered
      cases failed
    · intro forwards
      exact absurd forwards.2.1 fits

theorem proxy_answered
    (bounded : ∀bytes value,serde.parse bytes=some value → value.depth ≤ Serde.maxDepth)
    (rereads : ∀m,lineMessage serde McpProxy.maxStdioMessageBytes line=some m → serde.Rereads m ∧
      ∀response,handleMessage methods (some (m.mapNumbers serde.round))=some response →
        serde.Rereads response) :
    Answered serde line (McpProxy.answer serde methods line) McpProxy.maxStdioMessageBytes ↔
      ProxyReads serde methods line := by
  rw [Answered,ProxyReads,McpProxy.answer]
  cases decoded : decode line with
  | none =>
    simp only [Option.isSome_none,Bool.false_eq_true,false_and,iff_false]
    intro answered
    obtain ⟨response,failed,-⟩ := answered
    cases failed
  | some text =>
    have message : lineMessage serde McpProxy.maxStdioMessageBytes line=
        if McpProxy.maxStdioMessageBytes < (trimLine text).length then none
        else serde.parse (trimLine text) := by
      rw [lineMessage,decoded,Option.bind_some]
    have unread (none_read : lineMessage serde McpProxy.maxStdioMessageBytes line=none)
        (error : JsonValue) (reports : (error.get "error").isSome=true) :
        (∃response,(.ok (some error) : Except SessionError _)=.ok response ∧
            Meets (kind (lineMessage serde McpProxy.maxStdioMessageBytes line)) response) ↔
          (some text).isSome=true ∧
            ∀m,lineMessage serde McpProxy.maxStdioMessageBytes line=some m →
              Forwards serde methods m := by
      rw [none_read]
      exact ⟨fun _ => ⟨rfl,fun m none => by cases none⟩,fun _ => ⟨_,rfl,_,rfl,reports⟩⟩
    simp only
    by_cases long : McpProxy.maxStdioMessageBytes < (trimLine text).length
    · rw [if_pos long] at message ⊢
      exact unread message tooLarge rfl
    · rw [if_neg long] at message ⊢
      cases parsed : serde.parse (trimLine text) with
      | none =>
        rw [parsed] at message
        exact unread message (rpcError .null (-32700) "Parse error") rfl
      | some m =>
        rw [parsed] at message
        obtain ⟨again,replies⟩ := rereads m message
        have forwarded := forwarded_answered (bounded _ m parsed) again replies
        rw [message]
        refine forwarded.trans ⟨fun forwards => ⟨rfl,fun m' same => ?_⟩,fun all => all.2 m rfl⟩
        cases same
        exact forwards

end Lines

section Sessions

variable (serde : Serde) (lines : List (List UInt8))

/-- Lines with a newline each. -/
def closed : List UInt8 := lines.flatMap (·++[newline])

variable {serde lines}

theorem serve_survives (tools : Nat → McpMethods) (single : ∀line∈lines,newline∉line) :
    Survives serde RegistrationMcp.maxStdioMessageBytes lines
        (RegistrationMcp.serve serde tools (closed lines)) ↔
      ∀line∈lines,RegistrationReads serde (line++[newline]) := by
  rw [Survives,RegistrationMcp.serve,closed,readLines_closed lines single]
  refine (session_meets _ (fun line => Meets (kind (lineMessage serde _ line))) 0 _).trans ?_
  constructor
  · intro each line mem
    obtain ⟨i,here⟩ := List.mem_iff_getElem?.mp mem
    have answered := each i (line++[newline]) (by rw [List.getElem?_map,here]; rfl)
    exact registration_answered.mp answered
  · intro each i line here
    rw [List.getElem?_map] at here
    obtain ⟨line',inside,rfl⟩ := Option.map_eq_some_iff.mp here
    exact registration_answered.mpr (each line' (List.mem_of_getElem? inside))

/-- A session of either kind answers every line as it should, and ends with its input only, exactly
if every line can be read and answered. -/
theorem sessions_survive_iff (serde : Serde) (tools methods : Nat → McpMethods)
    (lines : List (List UInt8)) (single : ∀line∈lines,newline∉line)
    (bounded : ∀bytes value,serde.parse bytes=some value → value.depth ≤ Serde.maxDepth)
    (rereads : ∀i line m,lines[i]?=some line →
      lineMessage serde McpProxy.maxStdioMessageBytes (line++[newline])=some m →
      serde.Rereads m ∧ ∀response,
        handleMessage (methods i) (some (m.mapNumbers serde.round))=some response →
        serde.Rereads response) :
    (Survives serde RegistrationMcp.maxStdioMessageBytes lines
        (RegistrationMcp.serve serde tools (closed lines)) ↔
      ∀line∈lines,RegistrationReads serde (line++[newline])) ∧
    (Survives serde McpProxy.maxStdioMessageBytes lines
        (McpProxy.proxy serde methods (closed lines)) ↔
      ∀i line,lines[i]?=some line → ProxyReads serde (methods i) (line++[newline])) := by
  refine ⟨serve_survives tools single,?_⟩
  rw [Survives,McpProxy.proxy,closed,readLines_closed lines single]
  refine (session_meets _ (fun line => Meets (kind (lineMessage serde _ line))) 0 _).trans ?_
  constructor
  · intro each i line here
    have answered := each i (line++[newline]) (by rw [List.getElem?_map,here]; rfl)
    rw [Nat.zero_add] at answered
    exact (proxy_answered bounded fun m => rereads i line m here).mp answered
  · intro each i line here
    rw [List.getElem?_map] at here
    obtain ⟨line',inside,rfl⟩ := Option.map_eq_some_iff.mp here
    rw [Nat.zero_add]
    exact (proxy_answered bounded fun m => rereads i line' m inside).mpr (each i line' inside)

end Sessions

section Samples

def ping : JsonValue :=
  .object [("id",.number (.posInt 1)),("jsonrpc",.string "2.0"),("method",.string "ping")]

def pong : JsonValue := success (.number (.posInt 1)) (.object [])

/-- The method is a number. -/
def unnamedRequest : JsonValue :=
  .object [("id",.number (.posInt 1)),("jsonrpc",.string "2.0"),("method",.number (.posInt 5))]

def pingText : String := "\x7b\"jsonrpc\":\"2.0\",\"id\":1,\"method\":\"ping\"\x7d"

def unnamedText : String := "\x7b\"jsonrpc\":\"2.0\",\"id\":1,\"method\":5\x7d"

/-- Texts as they are sent, and then as they are written. -/
def sampleTexts : List (String × JsonValue) :=
  [(pingText,ping),
    (unnamedText,unnamedRequest),
    ("\x7b\"id\":1,\"jsonrpc\":\"2.0\",\"method\":\"ping\"\x7d",ping),
    ("\x7b\"id\":1,\"jsonrpc\":\"2.0\",\"result\":\x7b\x7d\x7d",pong),
    ("\x7b\"id\":1,\"jsonrpc\":\"2.0\",\"method\":5\x7d",unnamedRequest)]

def sampleSerde : Serde where
  parse := fun bytes => (sampleTexts.find? fun sample => encode sample.1=bytes).map Prod.snd
  serialize := fun value =>
    ((sampleTexts.reverse.find? fun sample => sample.2=value).map fun sample =>
      encode sample.1).getD []
  round := id

def sampleMethods : McpMethods :=
  ⟨fun _ => .ok (.object []),fun _ => .ok (.object []),fun _ => .error .methodNotFound⟩

def pingLine : List UInt8 := encode pingText

theorem sampleSerde_bounded (bytes : List UInt8) (value : JsonValue)
    (parsed : sampleSerde.parse bytes=some value) : value.depth ≤ Serde.maxDepth := by
  obtain ⟨sample,found,rfl⟩ := Option.map_eq_some_iff.mp parsed
  have shallow : ∀sample∈sampleTexts,sample.2.depth ≤ Serde.maxDepth := by decide +kernel
  exact shallow sample (List.mem_of_find?_eq_some found)

theorem pingLine_read (bound : Nat) (wide : 100 < bound) :
    lineMessage sampleSerde bound (pingLine++[newline])=some ping := by
  have text : decode (pingLine++[newline])=some (pingText++"\n") := by
    decide +kernel
  have size : (trimLine (pingText++"\n")).length=40 := by
    decide +kernel
  rw [lineMessage,text,Option.bind_some,if_neg (by omega)]
  decide +kernel

theorem ping_forwards : Forwards sampleSerde sampleMethods ping := by
  refine ⟨fun swallowed => ?_,by decide +kernel,fun id same => ?_⟩
  · have named := swallowed.2.2.1
    revert named
    decide +kernel
  · have request : kind (some ping)=.request (.number (.posInt 1)) := by decide +kernel
    rw [request] at same
    cases same
    refine ⟨rfl,fun result made => ?_⟩
    have empty : outcome sampleMethods (ping.mapNumbers sampleSerde.round)=.ok (.object []) := by
      rfl
    rw [empty] at made
    cases made
    decide

/-- Both sessions answer a ping. -/
theorem ping_survives :
    Survives sampleSerde RegistrationMcp.maxStdioMessageBytes [pingLine]
        (RegistrationMcp.serve sampleSerde (fun _ => sampleMethods) (closed [pingLine])) ∧
      Survives sampleSerde McpProxy.maxStdioMessageBytes [pingLine]
        (McpProxy.proxy sampleSerde (fun _ => sampleMethods) (closed [pingLine])) := by
  have text : (decode (pingLine++[newline])).isSome=true := by decide +kernel
  have local_line := pingLine_read RegistrationMcp.maxStdioMessageBytes (by decide)
  have remote_line := pingLine_read McpProxy.maxStdioMessageBytes (by decide)
  have unique {i : Nat} {line : List UInt8} (here : [pingLine][i]?=some line) : line=pingLine :=
    List.mem_singleton.mp (List.mem_of_getElem? here)
  obtain ⟨serves,proxies⟩ := sessions_survive_iff sampleSerde (fun _ => sampleMethods)
    (fun _ => sampleMethods) [pingLine] (by decide +kernel) sampleSerde_bounded (by
      intro i line m here message
      cases unique here
      rw [remote_line] at message
      cases message
      refine ⟨by rw [Serde.Rereads]; decide +kernel,fun response handled => ?_⟩
      have answered : handleMessage sampleMethods (some (ping.mapNumbers sampleSerde.round))=
          some pong := by decide +kernel
      rw [answered] at handled
      cases handled
      rw [Serde.Rereads]
      decide +kernel)
  constructor
  · refine serves.mpr fun line mem => ⟨?_,fun m message => ?_⟩
    · rw [List.mem_singleton.mp mem]
      exact text
    · rw [List.mem_singleton.mp mem,local_line] at message
      cases message
      exact ping_forwards.1
  · refine proxies.mpr fun i line here => ⟨?_,fun m message => ?_⟩
    · rw [unique here]
      exact text
    · rw [unique here,remote_line] at message
      cases message
      exact ping_forwards

/-- A line that is not text ends the session, and a request whose method is a number gets no
response. -/
theorem sessions_break :
    ¬Survives sampleSerde RegistrationMcp.maxStdioMessageBytes [[255]]
        (RegistrationMcp.serve sampleSerde (fun _ => sampleMethods) (closed [[255]])) ∧
      ¬Survives sampleSerde RegistrationMcp.maxStdioMessageBytes
        [encode unnamedText]
        (RegistrationMcp.serve sampleSerde (fun _ => sampleMethods)
          (closed [encode unnamedText])) := by
  constructor
  · intro survives
    have reads := (serve_survives _ (by decide)).mp survives [255] List.mem_cons_self
    exact absurd reads.1 (by decide +kernel)
  · intro survives
    have reads := (serve_survives _ (by decide +kernel)).mp survives _ List.mem_cons_self
    refine reads.2 unnamedRequest (by decide +kernel) ⟨rfl,by decide +kernel,by decide +kernel,?_⟩
    intro none
    exact absurd none (by decide +kernel)

end Samples

end AkuSupervisor

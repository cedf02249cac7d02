import AkuSupervisor.Application.Json

/-! Messages of the Model Context Protocol: what they are, and how one of them is answered. -/

namespace AkuSupervisor

inductive McpFailure where
  | invalidParams (message : String)
  | methodNotFound
  deriving DecidableEq

/-- What the methods of an MCP server but `ping` make of their parameters at some time. -/
structure McpMethods where
  initialization : JsonValue → Except McpFailure JsonValue
  listTools : JsonValue → Except McpFailure JsonValue
  callTool : JsonValue → Except McpFailure JsonValue

namespace Mcp

def isId : JsonValue → Bool
  | .string _ | .number _ => true
  | _ => false

def requestId (object : JsonValue) : JsonValue := ((object.get "id").filter isId).getD .null

def rpcError (id : JsonValue) (code : Int) (message : String) : JsonValue :=
  .object [("error",.object [("code",.number (.negInt code)),("message",.string message)]),
    ("id",id),("jsonrpc",.string "2.0")]

def success (id result : JsonValue) : JsonValue :=
  .object [("id",id),("jsonrpc",.string "2.0"),("result",result)]

def requireEmptyObject : JsonValue → Except McpFailure Unit
  | .object [] => .ok ()
  | .object ((key,_)::_) => .error (.invalidParams ("unknown field: "++key))
  | _ => .error (.invalidParams "params must be an object")

def dispatch (methods : McpMethods) (method : String) (params : JsonValue) :
    Except McpFailure JsonValue :=
  match method with
  | "initialize" => methods.initialization params
  | "ping" => (requireEmptyObject params).map fun _ => .object []
  | "tools/list" => methods.listTools params
  | "tools/call" => methods.callTool params
  | _ => .error .methodNotFound

def answerRequest (id : JsonValue) : Except McpFailure JsonValue → JsonValue
  | .ok result => success id result
  | .error (.invalidParams message) => rpcError id (-32602) message
  | .error .methodNotFound => rpcError id (-32601) "Method not found"

/-- The response to a message, which is nothing when it could not be parsed. A message that is
accepted gets none. -/
def handleMessage (methods : McpMethods) : Option JsonValue → Option JsonValue
  | none => some (rpcError .null (-32700) "Parse error")
  | some message =>
    if message.isObject=false then some (rpcError .null (-32600) "Invalid Request")
    else if message.stringField "jsonrpc"≠some "2.0" then
      some (rpcError (requestId message) (-32600) "Invalid Request")
    else
      match message.stringField "method" with
      | none => none
      | some method =>
        match message.get "id" with
        | none => none
        | some id =>
          if isId id=false then some (rpcError .null (-32600) "Invalid Request")
          else some (answerRequest id
            (dispatch methods method ((message.get "params").getD (.object []))))

/-- What a message is under JSON-RPC 2.0, read as JSON where it is JSON. -/
inductive MessageKind where
  | malformed
  | request (id : JsonValue)
  | notification
  | response
  deriving DecidableEq

/-- A response has an identifier and either a result or an error. -/
def isResponse (message : JsonValue) : Bool :=
  (message.get "id").isSome && ((message.get "result").isSome ^^ (message.get "error").isSome)

def kind : Option JsonValue → MessageKind
  | none => .malformed
  | some message =>
    if message.isObject=false ∨ message.stringField "jsonrpc"≠some "2.0" then .malformed
    else
      match message.get "method" with
      | none => if isResponse message then .response else .malformed
      | some (.string _) =>
        match message.get "id" with
        | none => .notification
        | some id => if isId id then .request id else .malformed
      | some _ => .malformed

/-- What a line of this kind is to be answered with. -/
def Meets : MessageKind → Option JsonValue → Prop
  | .malformed,answer => ∃response,answer=some response ∧ (response.get "error").isSome=true
  | .request id,answer => ∃response,answer=some response ∧ response.get "id"=some id ∧
      ((response.get "result").isSome=true ∨ (response.get "error").isSome=true)
  | .notification,answer => answer=none
  | .response,answer => answer=none

/-- The message has no text for a method, and is no response either. -/
def Swallowed (message : JsonValue) : Prop :=
  message.isObject=true ∧ message.stringField "jsonrpc"=some "2.0" ∧
    message.stringField "method"=none ∧ (message.get "method"=none → isResponse message=false)

/-- The result of the method that a message names. -/
def outcome (methods : McpMethods) (message : JsonValue) : Except McpFailure JsonValue :=
  dispatch methods ((message.stringField "method").getD "")
    ((message.get "params").getD (.object []))

/-- What a message is, and how it is answered. -/
inductive Handled (methods : McpMethods) (message : Option JsonValue) :
    MessageKind → Option JsonValue → Prop
  | rejected (id : JsonValue) (code : Int) (text : String) (flat : id.depth=0) :
      Handled methods message .malformed (some (rpcError id code text))
  | request (m id : JsonValue) (same : message=some m) (proper : isId id=true) :
      Handled methods message (.request id) (some (answerRequest id (outcome methods m)))
  | notification : Handled methods message .notification none
  | response : Handled methods message .response none
  | swallowed (m : JsonValue) (same : message=some m) (swallowed : Swallowed m) :
      Handled methods message .malformed none

theorem depth_of_isId {id : JsonValue} (proper : isId id=true) : id.depth=0 := by
  cases id with
  | string _ | number _ => rfl
  | null | bool _ | array _ | object _ => cases proper

theorem depth_requestId (message : JsonValue) : (requestId message).depth=0 := by
  rw [requestId]
  cases found : (message.get "id").filter isId with
  | none => rfl
  | some id => exact depth_of_isId (Option.filter_eq_some_iff.mp found).2

/-- What the classification of an object of this version depends on. -/
theorem kind_object {message : JsonValue} (object : message.isObject=true)
    (version : message.stringField "jsonrpc"=some "2.0") :
    kind (some message)=
      match message.get "method" with
      | none => if isResponse message then .response else .malformed
      | some (.string _) =>
        match message.get "id" with
        | none => .notification
        | some id => if isId id then .request id else .malformed
      | some _ => .malformed := by
  rw [kind,if_neg]
  simp [object,version]

theorem handleMessage_cases (methods : McpMethods) (message : Option JsonValue) :
    Handled methods message (kind message) (handleMessage methods message) := by
  cases message with
  | none => exact .rejected .null (-32700) "Parse error" rfl
  | some m =>
    rw [handleMessage]
    by_cases object : m.isObject=false
    · rw [if_pos object,kind,if_pos (.inl object)]
      exact .rejected .null _ _ rfl
    · rw [if_neg object]
      by_cases version : m.stringField "jsonrpc"≠some "2.0"
      · rw [if_pos version,kind,if_pos (.inr version)]
        exact .rejected _ _ _ (depth_requestId m)
      · rw [if_neg version]
        rw [Bool.not_eq_false] at object
        rw [ne_eq,not_not] at version
        rw [kind_object object version]
        cases named : m.get "method" with
        | none =>
          have unnamed : m.stringField "method"=none := by rw [JsonValue.stringField,named]; rfl
          simp only [unnamed]
          cases response : isResponse m with
          | true => exact .response
          | false => exact .swallowed m rfl ⟨object,version,unnamed,fun _ => response⟩
        | some value =>
          cases value with
          | string method =>
            have text : m.stringField "method"=some method := by
              rw [JsonValue.stringField,named]
              rfl
            simp only [text]
            cases found : m.get "id" with
            | none => exact .notification
            | some id =>
              simp only
              cases proper : isId id with
              | true =>
                have handled : Handled methods (some m) (.request id)
                    (some (answerRequest id (outcome methods m))) := .request m id rfl proper
                rw [outcome,text] at handled
                exact handled
              | false => exact .rejected .null _ _ rfl
          | null | bool _ | number _ | array _ | object _ =>
            have unnamed : m.stringField "method"=none := by rw [JsonValue.stringField,named]; rfl
            simp only [unnamed]
            exact .swallowed m rfl ⟨object,version,unnamed,fun none => by rw [named] at none; cases none⟩

/-- A swallowed message is malformed, and gets no response. -/
theorem Swallowed.unanswered {message : JsonValue} (swallowed : Swallowed message)
    (methods : McpMethods) :
    kind (some message)=.malformed ∧ handleMessage methods (some message)=none := by
  obtain ⟨object,version,unnamed,other⟩ := swallowed
  constructor
  · rw [kind_object object version]
    cases named : message.get "method" with
    | none => simp [other named]
    | some value =>
      rw [JsonValue.stringField,named] at unnamed
      cases value with
      | string method => cases unnamed
      | null | bool _ | number _ | array _ | object _ => rfl
  · rw [handleMessage,if_neg (by simp [object]),if_neg (by simp [version])]
    simp only [unnamed]

theorem answerRequest_meets (id : JsonValue) (result : Except McpFailure JsonValue) :
    (answerRequest id result).get "id"=some id ∧
      (((answerRequest id result).get "result").isSome=true ∨
        ((answerRequest id result).get "error").isSome=true) := by
  rcases result with (message|_)|result
  · exact ⟨rfl,.inr rfl⟩
  · exact ⟨rfl,.inr rfl⟩
  · exact ⟨rfl,.inl rfl⟩

/-- A message is answered as it should be unless it is swallowed. -/
theorem handleMessage_meets (methods : McpMethods) (message : Option JsonValue) :
    Meets (kind message) (handleMessage methods message) ↔
      ∀m,message=some m → ¬Swallowed m := by
  constructor
  · intro meets m same swallowed
    obtain ⟨malformed,unanswered⟩ := swallowed.unanswered methods
    rw [same,malformed,unanswered] at meets
    obtain ⟨response,none,-⟩ := meets
    cases none
  · intro kept
    have handled := handleMessage_cases methods message
    generalize kind message=kind,handleMessage methods message=answer at handled ⊢
    cases handled with
    | rejected id code text flat => exact ⟨_,rfl,rfl⟩
    | request m id same proper => exact ⟨_,rfl,answerRequest_meets id _⟩
    | notification => rfl
    | response => rfl
    | swallowed m same swallowed => exact absurd swallowed (kept m same)

section Numbers

variable (f : JsonNumber → JsonNumber)

theorem isId_mapNumbers (id : JsonValue) : isId (id.mapNumbers f)=isId id := by
  cases id <;> rfl

theorem isResponse_mapNumbers (message : JsonValue) :
    isResponse (message.mapNumbers f)=isResponse message := by
  simp only [isResponse,JsonValue.get_mapNumbers,Option.isSome_map]

def MessageKind.mapNumbers : MessageKind → MessageKind
  | .malformed => .malformed
  | .request id => .request (id.mapNumbers f)
  | .notification => .notification
  | .response => .response

/-- Numbers do not make a message what it is. -/
theorem kind_mapNumbers (message : JsonValue) :
    kind (some (message.mapNumbers f))=(kind (some message)).mapNumbers f := by
  rw [kind,kind,JsonValue.isObject_mapNumbers,JsonValue.stringField_mapNumbers]
  by_cases wrong : message.isObject=false ∨ message.stringField "jsonrpc"≠some "2.0"
  · rw [if_pos wrong,if_pos wrong]
    rfl
  · rw [if_neg wrong,if_neg wrong,JsonValue.get_mapNumbers,JsonValue.get_mapNumbers,
      isResponse_mapNumbers]
    cases message.get "method" with
    | none =>
      simp only [Option.map_none]
      cases isResponse message <;> rfl
    | some value =>
      cases value with
      | string method =>
        cases message.get "id" with
        | none => rfl
        | some id =>
          simp only [Option.map_some,JsonValue.mapNumbers,isId_mapNumbers]
          cases isId id <;> rfl
      | null | bool _ | number _ | array _ | object _ => rfl

theorem swallowed_mapNumbers (message : JsonValue) :
    Swallowed (message.mapNumbers f) ↔ Swallowed message := by
  rw [Swallowed,Swallowed,JsonValue.isObject_mapNumbers,JsonValue.stringField_mapNumbers,
    JsonValue.stringField_mapNumbers,JsonValue.get_mapNumbers,isResponse_mapNumbers,
    Option.map_eq_none_iff]

theorem depth_rpcError {id : JsonValue} (code : Int) (message : String) (flat : id.depth=0) :
    (rpcError id code message).depth=2 := by
  simp [rpcError,JsonValue.depth,JsonValue.depthFields,flat]

theorem depth_answerRequest {id : JsonValue} (proper : isId id=true) (bound : Nat) (deep : 1 < bound)
    (result : Except McpFailure JsonValue) :
    (answerRequest id result).depth ≤ bound ↔ ∀value,result=.ok value → value.depth < bound := by
  have flat := depth_of_isId proper
  rcases result with (message|_)|value
  · simp only [answerRequest,depth_rpcError _ _ flat]
    constructor
    · intro _ value same
      cases same
    · intro _
      omega
  · simp only [answerRequest,depth_rpcError _ _ flat]
    constructor
    · intro _ value same
      cases same
    · intro _
      omega
  · have depth : (success id value).depth=1+value.depth := by
      simp [success,JsonValue.depth,JsonValue.depthFields,flat]
    simp only [answerRequest,depth]
    constructor
    · intro within value' same
      cases same
      omega
    · intro each
      have := each value rfl
      omega

end Numbers

end Mcp

end AkuSupervisor

import AkuSupervisor.Adapters.HttpRequest
import AkuSupervisor.Adapters.ServiceLogs
import AkuSupervisor.Application.ControlApi

namespace AkuSupervisor

/-- Letters, digits and the given marks, at least one byte and at most 128. -/
def validToken (marks : List Char) (value : String) : Bool :=
  value≠"" && (TextLines.encode value).length≤128 &&
    value.toList.all fun c => (c.isAlpha || c.isDigit) || marks.contains c

def validRequestId (value : String) : Bool := validToken ['-','_','.',':'] value

def validHubInstanceId (value : String) : Bool := validToken ['-','_','.'] value

theorem validToken_plain {marks : List Char} {value : String} {c : Char}
    (valid : validToken marks value=true) (letter : c.isAlpha=false) (digit : c.isDigit=false)
    (mark : c∉marks) : c∉value.toList := by
  rw [validToken,Bool.and_eq_true] at valid
  intro mem
  have plain := List.all_eq_true.mp valid.2 c mem
  simp [letter,digit,mark] at plain

theorem validHubInstanceId_plain {value : String} (valid : validHubInstanceId value=true) :
    '&'∉value.toList := validToken_plain valid (by decide) (by decide) (by decide)

def clamp (low high n : Nat) : Nat := max low (min high n)

/-- The service and the query of a target under `/v1/services/` that goes on with `marker`. -/
def serviceQuery (marker target : String) : Option (String × String) := do
  let suffix ← Cut.stripPrefix "/v1/services/" target
  let (serviceId,query) ← Cut.splitOnce marker suffix
  if serviceId="" ∨ '/'∈serviceId.toList then none else some (serviceId,query)

/-- Takes the fields `name=value` of a query in their order. -/
def queryFields {α : Type} (take : α → String → String → Option α) (start : α) (query : String) :
    Option α :=
  (Cut.split '&' query).foldlM (fun taken field => do
    let (name,value) ← Cut.splitOnce "=" field
    take taken name value) start

/-- The text of a query with these fields. -/
def queryText (fields : List (String × String)) : String :=
  Cut.join '&' (fields.map fun field => field.1++"="++field.2)

theorem queryText_singleton (field : String × String) :
    queryText [field]=field.1++"="++field.2 := by
  apply String.toList_inj.mp
  simp [queryText,Cut.join,List.intercalate]

theorem queryText_cons (field next : String × String) (fields : List (String × String)) :
    queryText (field::next::fields)=field.1++"="++field.2++"&"++queryText (next::fields) := by
  apply String.toList_inj.mp
  simp [queryText,Cut.join,List.intercalate]

/-- Names without separators, and values that do not end their fields. -/
def PlainFields (fields : List (String × String)) : Prop :=
  ∀field∈fields,'='∉field.1.toList ∧ '&'∉field.1.toList ∧ '&'∉field.2.toList

/-- A query text gives its fields back. -/
theorem queryFields_text {α : Type} (take : α → String → String → Option α) (start : α)
    {fields : List (String × String)} (some_field : fields≠[]) (plain : PlainFields fields) :
    queryFields take start (queryText fields)=
      fields.foldlM (fun taken field => take taken field.1 field.2) start := by
  have parts : Cut.split '&' (queryText fields)=
      fields.map fun field => field.1++"="++field.2 := by
    refine Cut.split_join (by simpa using some_field) fun text mem => ?_
    obtain ⟨field,inside,rfl⟩ := List.mem_map.mp mem
    obtain ⟨-,name,value⟩ := plain field inside
    simp [name,value]
  rw [queryFields,parts,List.foldlM_map]
  clear parts some_field
  induction fields generalizing start with
  | nil => rfl
  | cons field fields ih =>
    obtain ⟨fresh,-⟩ := plain field List.mem_cons_self
    have cut : Cut.splitOnce "=" (field.1++"="++field.2)=some (field.1,field.2) :=
      Cut.splitOnce_of_not_mem rfl field.2 fresh
    simp only [List.foldlM_cons,cut,Option.bind_eq_bind,Option.bind_some]
    refine Option.bind_congr fun taken _ => ?_
    exact ih taken fun field mem => plain field (List.mem_cons_of_mem _ mem)

/-- The service and the query are found around the marker. -/
theorem serviceQuery_text {marker serviceId : String} {rest : List Char} (query : String)
    (starts : marker.toList = '/'::rest) (some_id : serviceId≠"") (plain : '/'∉serviceId.toList) :
    serviceQuery marker ("/v1/services/"++(serviceId++marker++query))=some (serviceId,query) := by
  simp only [serviceQuery,Cut.stripPrefix_append,Cut.splitOnce_of_not_mem starts query plain,
    Option.bind_eq_bind,Option.bind_some]
  rw [if_neg (by simp [some_id,plain])]

def parseLogsTarget (target : String) : Option (String × LogStream × Nat) := do
  let (serviceId,query) ← serviceQuery "/logs?" target
  let (stream,tail) ← queryFields (fun (stream,tail) name value =>
    match name with
    | "stream" => (LogStream.parse value).map fun stream => (stream,tail)
    | "tail" => (parseUsize value).map fun tail => (stream,clamp 1 1000 tail)
    | _ => none) (LogStream.stdout,100) query
  return (serviceId,stream,tail)

/-- What the query of a live-log target asks for. -/
structure LiveLogQuery where
  selection : LiveLogSelection
  tail : Nat
  after : Option Nat
  afterHub : Option String
  deriving DecidableEq

def LiveLogQuery.field (self : LiveLogQuery) (name value : String) : Option LiveLogQuery :=
  match name with
  | "stream" => (LiveLogSelection.parse value).map fun selection => { self with selection }
  | "tail" => (parseUsize value).map fun tail => { self with tail := clamp 0 1000 tail }
  | "after" => (parseUnsigned UInt64.size value).map fun after => { self with after := some after }
  | "afterHub" => if validHubInstanceId value then some { self with afterHub := some value } else none
  | _ => none

/-- A cursor needs both of its parts. -/
def LiveLogQuery.cursor (self : LiveLogQuery) : Option (Option LiveLogCursor) :=
  match self.afterHub,self.after with
  | some hubInstanceId,some sequence => some (some ⟨hubInstanceId,sequence⟩)
  | none,none => some none
  | _,_ => none

def parseLiveLogsTarget (target : String) :
    Option (String × LiveLogSelection × Nat × Option LiveLogCursor) := do
  let (serviceId,query) ← serviceQuery "/logs/live?" target
  let asked ← queryFields LiveLogQuery.field ⟨.both,50,none,none⟩ query
  let cursor ← asked.cursor
  return (serviceId,asked.selection,asked.tail,cursor)

def parseEventsTarget (target : String) : Option (Nat × Nat) := do
  let query ← Cut.stripPrefix "/v1/events" target
  if query="" then return (0,50)
  let query ← Cut.stripPrefix "?" query
  queryFields (fun (after,limit) name value =>
    match name with
    | "after" => (parseUnsigned UInt64.size value).map fun after => (after,limit)
    | "limit" => (parseUsize value).map fun limit => (after,clamp 1 200 limit)
    | _ => none) (0,50) query

def parseCooperativeOperationTarget (target : String) : Option String := do
  let requestId ← Cut.stripPrefix "/v1/cooperative-actions/chrome-extension/requests/" target
  if validRequestId requestId then some requestId else none

def parseAction (action : String) : Option ControlAction :=
  match action with
  | "start" => some .start
  | "stop" => some .stop
  | "restart" => some .restart
  | _ => none

def parseMutationTarget (target : String) : Option (String × ControlAction) := do
  let suffix ← Cut.stripPrefix "/v1/services/" target
  match Cut.split '/' suffix with
  | serviceId::name::rest =>
    let action ← parseAction name
    if serviceId="" ∨ rest≠[] then none else some (serviceId,action)
  | _ => none

def ControlAction.name : ControlAction → String
  | .start => "start"
  | .stop => "stop"
  | .restart => "restart"

theorem parseAction_eq_some (name : String) (action : ControlAction) :
    parseAction name=some action ↔ name=action.name := by
  constructor
  · intro parsed
    unfold parseAction at parsed
    split at parsed
    all_goals cases parsed
    all_goals rfl
  · intro named
    subst named
    cases action <;> rfl

theorem parseMutationTarget_eq_some {target serviceId : String} {action : ControlAction}
    (parsed : parseMutationTarget target=some (serviceId,action)) :
    serviceId≠"" ∧ ∃suffix,target="/v1/services/"++suffix ∧
      Cut.split '/' suffix=[serviceId,action.name] := by
  unfold parseMutationTarget at parsed
  obtain ⟨suffix,stripped,parsed⟩ := Option.bind_eq_some_iff.mp parsed
  have whole := (Cut.stripPrefix_eq_some _ _ _).mp stripped
  cases fields : Cut.split '/' suffix with
  | nil => simp [fields] at parsed
  | cons first more =>
    cases more with
    | nil => simp [fields] at parsed
    | cons name rest =>
      simp only [fields] at parsed
      obtain ⟨parsedAction,known,parsed⟩ := Option.bind_eq_some_iff.mp parsed
      split_ifs at parsed with bad
      cases parsed
      obtain ⟨some_id,ended⟩ := not_or.mp bad
      have named := (parseAction_eq_some _ _).mp known
      refine ⟨some_id,suffix,whole,?_⟩
      rw [fields,named,not_not.mp ended]

/-- A target is determined by its service and its action. -/
theorem parseMutationTarget_inj {a b serviceId : String} {action : ControlAction}
    (here : parseMutationTarget a=some (serviceId,action))
    (there : parseMutationTarget b=some (serviceId,action)) : a=b := by
  obtain ⟨-,suffix,rfl,fields⟩ := parseMutationTarget_eq_some here
  obtain ⟨-,suffix',rfl,fields'⟩ := parseMutationTarget_eq_some there
  rw [Cut.split_inj (fields.trans fields'.symm)]

example : parseMutationTarget "/v1/services/api/restart"=some ("api",.restart) := by decide

end AkuSupervisor

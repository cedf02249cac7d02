import AkuSupervisor.Application.Json

/-! JSON Schema: the keywords that a published schema uses, and the documents they accept. -/

namespace AkuSupervisor

inductive JsonKind where
  | object
  | array
  | string
  | boolean
  | integer
  deriving DecidableEq

/-- A schema, or one keyword of it. `properties` stands for the keyword and `additionalProperties`
beside it; a schema that is an object of keywords is `all` of them. -/
inductive JsonSchema where
  | never
  | all (keywords : List JsonSchema)
  | kind (kind : JsonKind)
  | const (value : JsonValue)
  | enum (values : List JsonValue)
  | pattern (regex : String)
  | minLength (length : Nat)
  | minimum (bound : Int)
  | maximum (bound : Int)
  | items (item : JsonSchema)
  | uniqueItems
  | required (names : List String)
  | minProperties (count : Nat)
  | propertyNames (name : JsonSchema)
  | properties (known : List (String × JsonSchema)) (additional : JsonSchema)
  | oneOf (alternatives : List JsonSchema)

def JsonNumber.toRat : JsonNumber → Rat
  | .posInt n => n
  | .negInt n => n
  | .float value => value

namespace JsonSchema

/-- Every document is accepted. -/
def always : JsonSchema := .all []

/-- Equality of JSON, where a number is what it amounts to. -/
def sameJson (a b : JsonValue) : Bool :=
  a.mapNumbers (fun n => .float n.toRat)=b.mapNumbers fun n => .float n.toRat

def hasKind : JsonKind → JsonValue → Bool
  | .object,.object _ | .array,.array _ | .string,.string _ | .boolean,.bool _ => true
  | .integer,.number n => n.toRat.den=1
  | _,_ => false

def distinct : List JsonValue → Bool
  | [] => true
  | value::values => !values.any (sameJson value) && distinct values

mutual

/-- Whether a schema accepts a document. `search` tells whether a pattern matches within a text. A
keyword accepts all that is not of the kind it speaks of. -/
def accepts (search : String → String → Bool) : JsonSchema → JsonValue → Bool
  | .never,_ => false
  | .all keywords,value => acceptsAll search keywords value
  | .kind k,value => hasKind k value
  | .const expected,value => sameJson expected value
  | .enum values,value => values.any fun expected => sameJson expected value
  | .pattern regex,.string text => search regex text
  | .minLength length,.string text => length ≤ text.toList.length
  | .minimum bound,.number n => (bound : Rat) ≤ n.toRat
  | .maximum bound,.number n => n.toRat ≤ (bound : Rat)
  | .items item,.array values => values.all fun value => accepts search item value
  | .uniqueItems,.array values => distinct values
  | .required names,.object fields => names.all fun name => fields.any (·.1=name)
  | .minProperties count,.object fields => count ≤ fields.length
  | .propertyNames name,.object fields =>
    fields.all fun field => accepts search name (.string field.1)
  | .properties known additional,.object fields =>
    fields.all fun field =>
      (acceptsKnown search known field.1 field.2).getD (accepts search additional field.2)
  | .oneOf alternatives,value => accepting search alternatives value=1
  | _,_ => true

def acceptsAll (search : String → String → Bool) : List JsonSchema → JsonValue → Bool
  | [],_ => true
  | schema::schemas,value => accepts search schema value && acceptsAll search schemas value

/-- The answer of the schema under a name, if there is one. -/
def acceptsKnown (search : String → String → Bool) :
    List (String × JsonSchema) → String → JsonValue → Option Bool
  | [],_,_ => none
  | (known,schema)::rest,name,value =>
    if known=name then some (accepts search schema value) else acceptsKnown search rest name value

/-- How many of the schemas accept. -/
def accepting (search : String → String → Bool) : List JsonSchema → JsonValue → Nat
  | [],_ => 0
  | schema::schemas,value =>
    (if accepts search schema value then 1 else 0)+accepting search schemas value

end

variable {search : String → String → Bool} {value : JsonValue}

theorem accepts_all {keywords : List JsonSchema} {keyword : JsonSchema}
    (accepted : accepts search (.all keywords) value=true) (mem : keyword∈keywords) :
    accepts search keyword value=true := by
  rw [accepts] at accepted
  induction keywords with
  | nil => cases mem
  | cons first keywords ih =>
    rw [acceptsAll,Bool.and_eq_true] at accepted
    rcases List.mem_cons.mp mem with rfl|later
    · exact accepted.1
    · exact ih accepted.2 later

/-- Every member of an object is accepted by the schema under its name. -/
theorem accepts_member {known : List (String × JsonSchema)} {additional : JsonSchema}
    {fields : List (String × JsonValue)} {field : String × JsonValue}
    (accepted : accepts search (.properties known additional) (.object fields)=true)
    (mem : field∈fields) :
    (acceptsKnown search known field.1 field.2).getD (accepts search additional field.2)=true := by
  rw [accepts] at accepted
  exact List.all_eq_true.mp accepted field mem

theorem accepts_get {known : List (String × JsonSchema)} {additional : JsonSchema} {name : String}
    {member : JsonValue} (accepted : accepts search (.properties known additional) value=true)
    (there : value.get name=some member) :
    (acceptsKnown search known name member).getD (accepts search additional member)=true := by
  cases value with
  | object fields =>
    obtain ⟨field,found,rfl⟩ := Option.map_eq_some_iff.mp there
    have same : field.1=name := by simpa using List.find?_some found
    rw [← same]
    exact accepts_member accepted (List.mem_of_find?_eq_some found)
  | _ => cases there

end JsonSchema

end AkuSupervisor

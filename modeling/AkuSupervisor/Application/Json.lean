import Mathlib.Tactic.Common

namespace AkuSupervisor

/-- Numbers as `serde_json` keeps them: the integer kinds and finite floats are never equal. -/
inductive JsonNumber where
  | posInt (n : Nat)
  | negInt (n : Int)
  | float (value : Rat)
  deriving DecidableEq

/-- A parsed JSON document; an object lists its fields in key order. -/
inductive JsonValue where
  | null
  | bool (value : Bool)
  | number (value : JsonNumber)
  | string (value : String)
  | array (items : List JsonValue)
  | object (fields : List (String × JsonValue))

namespace JsonValue

mutual

def decEq : (a b : JsonValue) → Decidable (a=b)
  | .null,.null => isTrue rfl
  | .bool x,.bool y =>
    if h : x=y then isTrue (congrArg _ h) else isFalse fun e => h (JsonValue.bool.inj e)
  | .number x,.number y =>
    if h : x=y then isTrue (congrArg _ h) else isFalse fun e => h (JsonValue.number.inj e)
  | .string x,.string y =>
    if h : x=y then isTrue (congrArg _ h) else isFalse fun e => h (JsonValue.string.inj e)
  | .array x,.array y =>
    match decEqItems x y with
    | isTrue h => isTrue (congrArg _ h)
    | isFalse h => isFalse fun e => h (JsonValue.array.inj e)
  | .object x,.object y =>
    match decEqFields x y with
    | isTrue h => isTrue (congrArg _ h)
    | isFalse h => isFalse fun e => h (JsonValue.object.inj e)
  | .null,.bool _ | .null,.number _ | .null,.string _ | .null,.array _ | .null,.object _
  | .bool _,.null | .bool _,.number _ | .bool _,.string _ | .bool _,.array _ | .bool _,.object _
  | .number _,.null | .number _,.bool _ | .number _,.string _ | .number _,.array _
  | .number _,.object _ | .string _,.null | .string _,.bool _ | .string _,.number _
  | .string _,.array _ | .string _,.object _ | .array _,.null | .array _,.bool _
  | .array _,.number _ | .array _,.string _ | .array _,.object _ | .object _,.null
  | .object _,.bool _ | .object _,.number _ | .object _,.string _ | .object _,.array _ =>
    isFalse nofun

def decEqItems : (a b : List JsonValue) → Decidable (a=b)
  | [],[] => isTrue rfl
  | [],_::_ | _::_,[] => isFalse nofun
  | x::xs,y::ys =>
    match decEq x y,decEqItems xs ys with
    | isTrue h,isTrue t => isTrue (by rw [h,t])
    | isFalse h,_ => isFalse fun e => h (List.cons.inj e).1
    | _,isFalse t => isFalse fun e => t (List.cons.inj e).2

def decEqFields : (a b : List (String × JsonValue)) → Decidable (a=b)
  | [],[] => isTrue rfl
  | [],_::_ | _::_,[] => isFalse nofun
  | (k,x)::xs,(l,y)::ys =>
    if key : k=l then
      match decEq x y,decEqFields xs ys with
      | isTrue h,isTrue t => isTrue (by rw [key,h,t])
      | isFalse h,_ => isFalse fun e => h (Prod.mk.inj (List.cons.inj e).1).2
      | _,isFalse t => isFalse fun e => t (List.cons.inj e).2
    else isFalse fun e => key (Prod.mk.inj (List.cons.inj e).1).1

end

instance : DecidableEq JsonValue := decEq

example : JsonValue.array [.null,.object [("ready",.bool true)]]≠
    .array [.null,.object [("ready",.bool false)]] := by decide

/-- The member of an object. -/
def get (name : String) : JsonValue → Option JsonValue
  | .object fields => (fields.find? (·.1=name)).map Prod.snd
  | _ => none

def asStr : JsonValue → Option String
  | .string value => some value
  | _ => none

/-- The text of a member that is there and is a text. -/
def stringField (value : JsonValue) (name : String) : Option String := (value.get name).bind asStr

def isObject : JsonValue → Bool
  | .object _ => true
  | _ => false

mutual

/-- How deep arrays and objects are nested. -/
def depth : JsonValue → Nat
  | .array items => 1+depthItems items
  | .object fields => 1+depthFields fields
  | .null | .bool _ | .number _ | .string _ => 0

def depthItems : List JsonValue → Nat
  | [] => 0
  | item::items => max item.depth (depthItems items)

def depthFields : List (String × JsonValue) → Nat
  | [] => 0
  | (_,value)::fields => max value.depth (depthFields fields)

end

mutual

/-- The document with every number replaced. -/
def mapNumbers (f : JsonNumber → JsonNumber) : JsonValue → JsonValue
  | .number value => .number (f value)
  | .array items => .array (mapItems f items)
  | .object fields => .object (mapFields f fields)
  | .null => .null
  | .bool value => .bool value
  | .string value => .string value

def mapItems (f : JsonNumber → JsonNumber) : List JsonValue → List JsonValue
  | [] => []
  | item::items => item.mapNumbers f::mapItems f items

def mapFields (f : JsonNumber → JsonNumber) :
    List (String × JsonValue) → List (String × JsonValue)
  | [] => []
  | (name,value)::fields => (name,value.mapNumbers f)::mapFields f fields

end

mutual

theorem mapNumbers_id : (value : JsonValue) → value.mapNumbers id=value
  | .number _ | .null | .bool _ | .string _ => rfl
  | .array items => congrArg array (mapItems_id items)
  | .object fields => congrArg object (mapFields_id fields)

theorem mapItems_id : (items : List JsonValue) → mapItems id items=items
  | [] => rfl
  | item::items => congrArg₂ List.cons (mapNumbers_id item) (mapItems_id items)

theorem mapFields_id : (fields : List (String × JsonValue)) → mapFields id fields=fields
  | [] => rfl
  | (name,value)::fields =>
    congrArg₂ List.cons (congrArg (Prod.mk name) (mapNumbers_id value)) (mapFields_id fields)

end

theorem find_mapFields (f : JsonNumber → JsonNumber) (name : String)
    (fields : List (String × JsonValue)) :
    ((mapFields f fields).find? (·.1=name)).map Prod.snd=
      ((fields.find? (·.1=name)).map Prod.snd).map (mapNumbers f) := by
  induction fields with
  | nil => rfl
  | cons field fields ih =>
    obtain ⟨key,value⟩ := field
    rw [mapFields]
    by_cases same : key=name
    · rw [List.find?_cons_of_pos (by simpa using same),List.find?_cons_of_pos (by simpa using same)]
      rfl
    · rw [List.find?_cons_of_neg (by simpa using same),List.find?_cons_of_neg (by simpa using same),
        ih]

/-- Replacing numbers keeps the members of an object where they are. -/
theorem get_mapNumbers (f : JsonNumber → JsonNumber) (name : String) (value : JsonValue) :
    (value.mapNumbers f).get name=(value.get name).map (mapNumbers f) := by
  cases value with
  | object fields =>
    rw [mapNumbers]
    exact find_mapFields f name fields
  | null => rfl
  | bool value => rfl
  | number value => rfl
  | string value => rfl
  | array items => rfl

theorem asStr_mapNumbers (f : JsonNumber → JsonNumber) (value : JsonValue) :
    (value.mapNumbers f).asStr=value.asStr := by
  cases value <;> rfl

theorem isObject_mapNumbers (f : JsonNumber → JsonNumber) (value : JsonValue) :
    (value.mapNumbers f).isObject=value.isObject := by
  cases value <;> rfl

theorem stringField_mapNumbers (f : JsonNumber → JsonNumber) (value : JsonValue) (name : String) :
    (value.mapNumbers f).stringField name=value.stringField name := by
  rw [stringField,stringField,get_mapNumbers]
  cases value.get name with
  | none => rfl
  | some member => exact asStr_mapNumbers f member

end JsonValue

end AkuSupervisor

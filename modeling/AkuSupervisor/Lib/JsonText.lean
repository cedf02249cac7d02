import Mathlib.Tactic.Common

/-! JSON as text, on one line and without blanks between its parts. -/

namespace JsonText

def hexDigits (c : Char) : List Char :=
  [Nat.digitChar (c.toNat/16),Nat.digitChar (c.toNat%16)]

/-- A character inside a string literal. -/
def escape (c : Char) : List Char :=
  if c = '"' then ['\\','"']
  else if c = '\\' then ['\\','\\']
  else if c = '\n' then ['\\','n']
  else if c = '\r' then ['\\','r']
  else if c = '\t' then ['\\','t']
  else if c.toNat=0x08 then ['\\','b']
  else if c.toNat=0x0C then ['\\','f']
  else if c.toNat<0x20 then ['\\','u','0','0']++hexDigits c
  else [c]

def string (text : String) : String := "\""++String.ofList (text.toList.flatMap escape)++"\""

def bool (value : Bool) : String := if value then "true" else "false"

def option (value : Option String) : String := value.getD "null"

def array (items : List String) : String := "["++",".intercalate items++"]"

/-- An object with its fields in the given order, their values already written. -/
def object (fields : List (String × String)) : String :=
  "\x7b"++",".intercalate (fields.map fun field => string field.1++":"++field.2)++"\x7d"

/-- A field that is left out when it has no value. -/
def optionalField (name : String) (value : Option String) : List (String × String) :=
  value.toList.map fun text => (name,text)

/-- A text without line breaks. -/
def SingleLine (text : String) : Prop := '\n'∉text.toList
  deriving Decidable

@[simp] theorem singleLine_append (a b : String) :
    SingleLine (a++b) ↔ SingleLine a ∧ SingleLine b := by
  simp [SingleLine]

theorem singleLine_intercalate (separator : String) (parts : List String)
    (between : SingleLine separator) (each : ∀part∈parts,SingleLine part) :
    SingleLine (separator.intercalate parts) := by
  unfold SingleLine
  rw [String.toList_intercalate]
  induction parts with
  | nil => simp
  | cons part parts ih =>
    have first := each part List.mem_cons_self
    have rest := ih fun p mem => each p (List.mem_cons_of_mem part mem)
    cases parts with
    | nil => simpa [SingleLine] using first
    | cons next parts =>
      rw [List.map_cons,List.map_cons,List.intercalate_cons_cons,← List.map_cons]
      simp only [List.mem_append,not_or]
      exact ⟨⟨first,between⟩,rest⟩

theorem newline_not_mem_hexDigits (c : Char) (low : c.toNat < 0x20) : '\n'∉hexDigits c := by
  have digits : ∀n<16,'\n'≠Nat.digitChar n := by decide
  have high : c.toNat/16 < 16 := by omega
  have less : c.toNat%16 < 16 := by omega
  simp [hexDigits,digits _ high,digits _ less]

theorem newline_not_mem_escape (c : Char) : '\n'∉escape c := by
  unfold escape
  split_ifs with quote backslash newline ret tab back feed low
  · decide
  · decide
  · decide
  · decide
  · decide
  · decide
  · decide
  · simpa using newline_not_mem_hexDigits c low
  · simpa using Ne.symm newline

@[simp] theorem singleLine_string (text : String) : SingleLine (string text) := by
  unfold string
  simp only [singleLine_append]
  refine ⟨⟨by decide,?_⟩,by decide⟩
  simp only [SingleLine,String.toList_ofList,List.mem_flatMap,not_exists,not_and]
  exact fun c _ => newline_not_mem_escape c

@[simp] theorem singleLine_bool (value : Bool) : SingleLine (bool value) := by
  cases value <;> decide

theorem singleLine_option (value : Option String) (some : ∀text∈value,SingleLine text) :
    SingleLine (option value) := by
  cases value with
  | none => decide
  | some text => exact some text rfl

theorem singleLine_array (items : List String) (each : ∀item∈items,SingleLine item) :
    SingleLine (array items) := by
  have inside := singleLine_intercalate "," items (by decide) each
  simp only [array,singleLine_append]
  exact ⟨⟨by decide,inside⟩,by decide⟩

theorem singleLine_object (fields : List (String × String))
    (each : ∀field∈fields,SingleLine field.2) : SingleLine (object fields) := by
  simp only [object,singleLine_append]
  refine ⟨⟨by decide,singleLine_intercalate "," _ (by decide) ?_⟩,by decide⟩
  intro text mem
  obtain ⟨field,here,rfl⟩ := List.mem_map.mp mem
  simp only [singleLine_append,singleLine_string,true_and]
  exact ⟨by decide,each field here⟩

@[simp] theorem singleLine_nat (n : Nat) : SingleLine n.repr := by
  intro mem
  rw [Nat.repr_eq_ofList_toDigits,String.toList_ofList] at mem
  have digit := Nat.isDigit_of_mem_toDigits (by decide) (by decide) mem
  exact absurd digit (by decide)

@[simp] theorem singleLine_int (n : Int) : SingleLine n.repr := by
  cases n with
  | ofNat n => exact singleLine_nat n
  | negSucc n =>
    show SingleLine ("-"++(n+1).repr)
    rw [singleLine_append]
    exact ⟨by decide,singleLine_nat (n+1)⟩

theorem singleLine_optionalField {α : Type} (name : String) (value : Option α) (write : α → String)
    (each : ∀a,SingleLine (write a)) :
    ∀field∈optionalField name (value.map write),SingleLine field.2 := by
  intro field mem
  obtain ⟨text,here,rfl⟩ := List.mem_map.mp mem
  obtain ⟨a,-,rfl⟩ := Option.map_eq_some_iff.mp (Option.mem_toList.mp here)
  exact each a

theorem object_head (fields : List (String × String)) :
    ∃rest,(object fields).toList= '\x7b'::rest := by
  unfold object
  rw [String.toList_append,String.toList_append]
  exact ⟨_,rfl⟩

theorem object_last (fields : List (String × String)) :
    ∃before,(object fields).toList=before++['\x7d'] := by
  unfold object
  rw [String.toList_append]
  exact ⟨_,rfl⟩

end JsonText

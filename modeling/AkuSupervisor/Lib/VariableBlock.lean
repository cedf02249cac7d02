import Mathlib.Data.List.Basic

/-! How a block of environment variables is read: texts that end with a NUL each, up to an empty one,
and in each a name in front of the first equals sign that is not its first unit. -/

namespace VariableBlock

abbrev Variable := List UInt16 × List UInt16

def equals : UInt16 := 61

/-- The texts of the block, when the units in front of it belong to its first text, and what follows
the empty text at its end. -/
def takeTexts (current : List UInt16) : List UInt16 → Option (List (List UInt16) × List UInt16)
  | [] => none
  | u::block =>
    if u=0 then
      if current=[] then some ([],block)
      else (takeTexts [] block).map fun (texts,rest) => (current::texts,rest)
    else takeTexts (current++[u]) block

def splitVariable : List UInt16 → Option Variable
  | [] => none
  | u::text =>
    if equals∈text then
      some (u::text.takeWhile (· ≠ equals),(text.dropWhile (· ≠ equals)).tail)
    else none

/-- The variables of a block. A block of none has a second NUL at its end. -/
def decode (block : List UInt16) : Option (List Variable) :=
  (takeTexts [] block).bind fun (texts,rest) =>
    if rest=(if texts=[] then [0] else []) then texts.mapM splitVariable else none

/-- A name and a value that a block can hold. -/
structure Storable (v : Variable) : Prop where
  named : v.1≠[]
  unsplit : equals∉v.1.tail
  name : 0∉v.1
  value : 0∉v.2

def text (v : Variable) : List UInt16 := v.1++[equals]++v.2

variable {v : Variable} {vars : List Variable}

theorem splitVariable_text (storable : Storable v) : splitVariable (text v)=some v := by
  obtain ⟨_|⟨u,name⟩,value⟩ := v
  · exact absurd rfl storable.named
  · have unsplit : ∀w∈name,(w≠equals : Bool)=true := by
      intro w mem
      have other : w≠equals := fun same => storable.unsplit (same ▸ mem)
      simpa using other
    have front : List.takeWhile (· ≠ equals) (name++equals::value)=name := by
      rw [List.takeWhile_append_of_pos unsplit]
      simp
    have behind : List.dropWhile (· ≠ equals) (name++equals::value)=equals::value := by
      rw [List.dropWhile_append_of_pos unsplit]
      simp
    show splitVariable (u::(name++[equals]++value))=_
    rw [splitVariable,if_pos (by simp),List.append_assoc,List.singleton_append,front,behind,
      List.tail_cons]

theorem takeTexts_text (current units block : List UInt16) (clean : 0∉units) :
    takeTexts current (units++block)=takeTexts (current++units) block := by
  induction units generalizing current with
  | nil => simp
  | cons u units ih =>
    obtain ⟨other,later⟩ := not_or.mp fun mem => clean (List.mem_cons.mpr mem)
    rw [List.cons_append,takeTexts,if_neg (Ne.symm other),ih _ later]
    simp

theorem text_ne_nil (v : Variable) : text v≠[] := by simp [text]

theorem zero_not_mem_text (storable : Storable v) : 0∉text v := by
  simp [text,equals,storable.name,storable.value]

theorem takeTexts_vars (storable : ∀v∈vars,Storable v) (rest : List UInt16) :
    takeTexts [] (vars.flatMap (fun v => text v++[0])++0::rest)=some (vars.map text,rest) := by
  induction vars with
  | nil => rfl
  | cons v vars ih =>
    have later := ih fun w mem => storable w (List.mem_cons_of_mem v mem)
    rw [List.flatMap_cons,List.append_assoc,List.append_assoc,
      takeTexts_text [] _ _ (zero_not_mem_text (storable v List.mem_cons_self))]
    simp [takeTexts,text_ne_nil,later]

/-- What is written for the variables is read back as just these. -/
theorem decode_vars (storable : ∀v∈vars,Storable v) :
    decode (vars.flatMap (fun v => text v++[0])++0::(if vars=[] then [0] else []))=some vars := by
  have split : (vars.map text).mapM splitVariable=some vars := by
    induction vars with
    | nil => rfl
    | cons v vars ih =>
      have later := ih fun w mem => storable w (List.mem_cons_of_mem v mem)
      simp [splitVariable_text (storable v List.mem_cons_self),later]
  rw [decode,takeTexts_vars storable]
  simp [split]

end VariableBlock

import Mathlib.Data.List.Basic

/-! How the text of a command line is read into a program and its arguments on Windows, by units of
UTF-16. -/

namespace WindowsArguments

def quote : UInt16 := 34

def backslash : UInt16 := 92

def space : UInt16 := 32

def tab : UInt16 := 9

def isBlank (u : UInt16) : Bool := u=space || u=tab

/-- The text in front of the first NUL. -/
def untilNul (line : List UInt16) : List UInt16 := line.takeWhile (· ≠ 0)

/-- The program and the rest behind the blank that ends it. Quotes only hide blanks, and backslashes
stand for themselves. -/
def takeProgram (quoted : Bool) : List UInt16 → List UInt16 × List UInt16
  | [] => ([],[])
  | u::rest =>
    if u=quote then takeProgram (!quoted) rest
    else if isBlank u && !quoted then ([],rest)
    else
      let (program,behind) := takeProgram quoted rest
      (u::program,behind)

/-- Where a reader of arguments is: between two of them, or in one, inside quotes or not. Right behind
the end of quotes a second quote may stand for itself. -/
inductive Place where
  | between
  | outside
  | inside
  | closed
  deriving DecidableEq

namespace Place

/-- The place behind a unit that belongs to an argument. -/
def within : Place → Place
  | .inside => .inside
  | _ => .outside

end Place

/-- The arguments that the units complete, when `pending` backslashes have been seen that wait for what
follows them, and `argument` is what the current argument has so far. -/
def takeArguments (doubled : Bool) : List UInt16 → Place → Nat → List UInt16 → List (List UInt16)
  | [],.between,_,_ => []
  | [],_,pending,argument => [argument++List.replicate pending backslash]
  | u::rest,place,pending,argument =>
    if u=backslash then takeArguments doubled rest place.within (pending+1) argument
    else if u=quote then
      let halved := argument++List.replicate (pending/2) backslash
      if pending%2=1 then takeArguments doubled rest place.within 0 (halved++[quote])
      else if place=.inside then takeArguments doubled rest .closed 0 halved
      else if place=.closed && doubled then takeArguments doubled rest .inside 0 (halved++[quote])
      else takeArguments doubled rest .inside 0 halved
    else if isBlank u && place≠.inside then
      if place=.between then takeArguments doubled rest .between 0 []
      else (argument++List.replicate pending backslash)::takeArguments doubled rest .between 0 []
    else takeArguments doubled rest place.within 0
      (argument++List.replicate pending backslash++[u])

/-- The program and the arguments of a text. With `doubled`, two quotes inside quotes stand for one. -/
def parse (doubled : Bool) (text : List UInt16) : List UInt16 × List (List UInt16) :=
  let (program,rest) := takeProgram false text
  (program,takeArguments doubled rest .between 0 [])

/-- What may follow an argument: the end of the text, or a blank. -/
def Ends (rest : List UInt16) : Prop := ∀u∈rest.head?,isBlank u=true

theorem not_blank_quote : isBlank quote=false := by decide

theorem not_blank_backslash : isBlank backslash=false := by decide

theorem quote_ne_backslash : quote≠backslash := by decide

section Program

variable {rest : List UInt16}

theorem takeProgram_plain (program : List UInt16) (plain : ∀u∈program,u≠quote ∧ isBlank u=false) (ends : Ends rest) :
    takeProgram false (program++rest)=(program,rest.tail) := by
  induction program with
  | nil =>
    cases rest with
    | nil => rfl
    | cons u rest =>
      have blank := ends u rfl
      have other : u≠quote := fun same => by simp [same,not_blank_quote] at blank
      simp [takeProgram,other,blank]
  | cons u program ih =>
    obtain ⟨other,unblank⟩ := plain u List.mem_cons_self
    have later := ih fun v mem => plain v (List.mem_cons_of_mem u mem)
    simp [takeProgram,other,unblank,later]

theorem takeProgram_inside (program : List UInt16) (unquoted : quote∉program) (ends : Ends rest) :
    takeProgram true (program++quote::rest)=(program,rest.tail) := by
  induction program with
  | nil =>
    have behind := takeProgram_plain [] (by simp) ends
    simpa [takeProgram] using behind
  | cons u program ih =>
    obtain ⟨other,later⟩ := not_or.mp fun mem => unquoted (List.mem_cons.mpr mem)
    simp [takeProgram,Ne.symm other,ih later]

end Program

section Arguments

variable {doubled : Bool} {rest : List UInt16}

theorem takeArguments_backslashes (count pending : Nat) (argument : List UInt16) :
    takeArguments doubled (List.replicate count backslash++rest) .inside pending argument=
      takeArguments doubled rest .inside (pending+count) argument := by
  induction count generalizing pending with
  | zero => rfl
  | succ count ih =>
    rw [List.replicate_succ,List.cons_append,takeArguments,if_pos rfl]
    show takeArguments doubled _ .inside _ _=_
    rw [ih]
    congr 1
    omega

/-- A quote behind an odd number of backslashes stands for itself. -/
theorem takeArguments_escaped (count : Nat) (argument : List UInt16) :
    takeArguments doubled (List.replicate (2*count+1) backslash++quote::rest) .inside 0 argument=
      takeArguments doubled rest .inside 0
        (argument++List.replicate count backslash++[quote]) := by
  have half : (0+(2*count+1))/2=count := by omega
  have odd : (0+(2*count+1))%2=1 := by omega
  rw [takeArguments_backslashes,takeArguments,if_neg quote_ne_backslash,if_pos rfl]
  simp only [half,if_pos odd]
  rfl

/-- A quote behind an even number of backslashes ends the quotes. -/
theorem takeArguments_closing (count : Nat) (argument : List UInt16) :
    takeArguments doubled (List.replicate (2*count) backslash++quote::rest) .inside 0 argument=
      takeArguments doubled rest .closed 0 (argument++List.replicate count backslash) := by
  have half : (0+2*count)/2=count := by omega
  have even : ¬(0+2*count)%2=1 := by omega
  rw [takeArguments_backslashes,takeArguments,if_neg quote_ne_backslash,if_pos rfl]
  simp only [half,if_neg even,if_pos]

/-- A unit inside quotes that is no quote and no backslash stands for itself, and so do the backslashes
in front of it. -/
theorem takeArguments_inside (count : Nat) (u : UInt16) (argument : List UInt16)
    (plain : u≠backslash) (unquoted : u≠quote) :
    takeArguments doubled (List.replicate count backslash++u::rest) .inside 0 argument=
      takeArguments doubled rest .inside 0
        (argument++List.replicate count backslash++[u]) := by
  rw [takeArguments_backslashes,takeArguments,if_neg plain,if_neg unquoted,Nat.zero_add]
  simp [Place.within]

/-- A blank ends an argument that is not inside quotes. -/
theorem takeArguments_ends (place : Place) (pending : Nat) (argument : List UInt16) (ends : Ends rest)
    (begun : place≠.between) (unquoted : place≠.inside) :
    takeArguments doubled rest place pending argument=
      (argument++List.replicate pending backslash)::takeArguments doubled rest.tail .between 0 [] := by
  cases rest with
  | nil => cases place <;> simp_all [takeArguments]
  | cons u rest =>
    have blank := ends u rfl
    have plain : u≠backslash := fun same => by simp [same,not_blank_backslash] at blank
    have other : u≠quote := fun same => by simp [same,not_blank_quote] at blank
    rw [takeArguments,if_neg plain,if_neg other]
    simp [blank,begun,unquoted]

/-- An argument without blanks and quotes is read as it is. -/
theorem takeArguments_plain (doubled : Bool) (argument : List UInt16) (place : Place) (ends : Ends rest)
    (plain : ∀u∈argument,u≠quote ∧ isBlank u=false) (begun : place≠.between ∨ argument≠[])
    (unquoted : place≠.inside) (pending : Nat) (before : List UInt16) :
    takeArguments doubled (argument++rest) place pending before=
      (before++List.replicate pending backslash++argument)::
        takeArguments doubled rest.tail .between 0 [] := by
  induction argument generalizing place pending before with
  | nil =>
    rw [List.nil_append,List.append_nil]
    exact takeArguments_ends place pending before ends (begun.resolve_right (by simp)) unquoted
  | cons u argument ih =>
    obtain ⟨other,unblank⟩ := plain u List.mem_cons_self
    have later := ih .outside (fun v mem => plain v (List.mem_cons_of_mem u mem))
      (.inl (by decide)) (by decide)
    have outside : place.within=.outside := by cases place <;> first | rfl | contradiction
    rw [List.cons_append,takeArguments,if_neg other]
    by_cases pend : u=backslash
    · rw [if_pos pend,outside,later,pend,List.replicate_succ']
      simp
    · rw [if_neg pend,outside]
      simp only [unblank,Bool.false_and]
      simp [later]

end Arguments

end WindowsArguments

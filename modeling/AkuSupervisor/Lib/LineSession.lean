import AkuSupervisor.Lib.TextLines
import Mathlib.Data.List.Forall2

/-! Loops that read one line after the other and answer each, until the input ends or an answer
fails. -/

namespace LineSession

open TextLines

variable {α β ε : Type}

/-- What is read line by line: each line with its newline, and what follows the last of them. -/
def readLines (input : List UInt8) : List (List UInt8) :=
  (rawLines [] input).map (·++[newline])++
    if unfinished [] input=[] then [] else [unfinished [] input]

/-- The answers, and the error that ends the loop early. -/
structure Transcript (β ε : Type) where
  answers : List β
  stopped : Option ε

/-- Answers one line after the other, the first of them being the one of this number. -/
def session (answer : Nat → α → Except ε β) : Nat → List α → Transcript β ε
  | _,[] => ⟨[],none⟩
  | n,a::as =>
    match answer n a with
    | .error e => ⟨[],some e⟩
    | .ok b => ⟨b::(session answer (n+1) as).answers,(session answer (n+1) as).stopped⟩

/-- Lines with a newline each are read as they are. -/
theorem readLines_closed (lines : List (List UInt8)) (single : ∀line∈lines,newline∉line) :
    readLines (lines.flatMap (·++[newline]))=lines.map (·++[newline]) := by
  have raw : rawLines [] (lines.flatMap (·++[newline]))=lines ∧
      unfinished [] (lines.flatMap (·++[newline]))=[] := by
    induction lines with
    | nil => exact ⟨rfl,rfl⟩
    | cons line lines ih =>
      obtain ⟨lines',rest⟩ := ih fun other mem => single other (List.mem_cons_of_mem line mem)
      obtain ⟨none,whole⟩ := rawLines_open [] line (single line List.mem_cons_self)
      have closed : rawLines [] (line++[newline])=[line] ∧ unfinished [] (line++[newline])=[] := by
        rw [rawLines_append,unfinished_append,none,whole]
        exact ⟨rfl,rfl⟩
      rw [List.flatMap_cons,rawLines_append [] (line++[newline]),
        unfinished_append [] (line++[newline]),closed.1,closed.2,lines',rest]
      exact ⟨rfl,rfl⟩
  rw [readLines,raw.1,raw.2,if_pos rfl,List.append_nil]

/-- A session answers every line as it should, and ends with its input, if each line by itself is
answered so. -/
theorem session_meets (answer : Nat → α → Except ε β) (meets : α → β → Prop) (n : Nat)
    (as : List α) :
    (session answer n as).stopped=none ∧ List.Forall₂ meets as (session answer n as).answers ↔
      ∀i a,as[i]?=some a → ∃b,answer (n+i) a=.ok b ∧ meets a b := by
  induction as generalizing n with
  | nil => simp [session]
  | cons a as ih =>
    rw [session]
    constructor
    · intro fine i a' here
      cases first : answer n a with
      | error e => simp [first] at fine
      | ok b =>
        simp only [first,List.forall₂_cons] at fine
        obtain ⟨ended,head,tail⟩ := fine
        cases i with
        | zero =>
          cases here
          exact ⟨b,first,head⟩
        | succ i =>
          have later := (ih (n+1)).mp ⟨ended,tail⟩ i a' here
          rwa [Nat.add_right_comm,Nat.add_assoc] at later
    · intro each
      obtain ⟨b,first,head⟩ := each 0 a rfl
      rw [Nat.add_zero] at first
      obtain ⟨ended,tail⟩ := (ih (n+1)).mpr (by
        intro i a' here
        have later := each (i+1) a' here
        rwa [← Nat.add_assoc,Nat.add_right_comm] at later)
      simp only [first,List.forall₂_cons]
      exact ⟨ended,head,tail⟩

end LineSession

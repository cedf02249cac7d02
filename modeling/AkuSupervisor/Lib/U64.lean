import Mathlib.Data.List.Induction
import Mathlib.Tactic.Common

/-! Unsigned 64-bit counters that stay at their largest value, as natural numbers. -/

namespace U64

/-- The largest value. -/
def top : Nat := 18446744073709551615

def saturatingAdd (a b : Nat) : Nat := min (a+b) top

/-- The sum of the values, or the largest value if it is more. -/
def saturatingSum (values : List Nat) : Nat := values.foldr saturatingAdd 0

theorem saturatingAdd_assoc (a b c : Nat) :
    saturatingAdd (saturatingAdd a b) c=saturatingAdd a (saturatingAdd b c) := by
  unfold saturatingAdd
  omega

theorem saturatingAdd_comm (a b : Nat) : saturatingAdd a b=saturatingAdd b a := by
  unfold saturatingAdd
  omega

theorem saturatingAdd_zero (a : Nat) (small : a ≤ top) : saturatingAdd a 0=a := by
  unfold saturatingAdd
  omega

theorem saturatingSum_le (values : List Nat) : saturatingSum values ≤ top := by
  cases values with
  | nil => exact Nat.zero_le _
  | cons value values =>
    show saturatingAdd value (saturatingSum values) ≤ top
    exact Nat.min_le_right _ _

theorem saturatingSum_append (values more : List Nat) :
    saturatingAdd (saturatingSum more) (saturatingSum values)=saturatingSum (values++more) := by
  induction values with
  | nil => exact saturatingAdd_zero _ (saturatingSum_le more)
  | cons value values ih =>
    show saturatingAdd _ (saturatingAdd value (saturatingSum values))=
      saturatingAdd value (saturatingSum (values++more))
    rw [← ih,← saturatingAdd_assoc,saturatingAdd_comm _ value,saturatingAdd_assoc]

/-- Values may be added one after the other, or all at once. -/
theorem foldl_saturatingAdd (values : List Nat) (start : Nat) (small : start ≤ top) :
    values.foldl saturatingAdd start=saturatingAdd start (saturatingSum values) := by
  induction values generalizing start with
  | nil => exact (saturatingAdd_zero start small).symm
  | cons value values ih =>
    show values.foldl saturatingAdd (saturatingAdd start value)=
      saturatingAdd start (saturatingAdd value (saturatingSum values))
    have small' : saturatingAdd start value ≤ top := Nat.min_le_right _ _
    rw [ih _ small',saturatingAdd_assoc]

end U64

import Mathlib.Data.LawfulXor.Basic
import AkuSupervisor.Adapters.HttpRequest

namespace AkuSupervisor

def tokenLength : Nat := 64

def isTokenDigit (c : Char) : Bool := c.isDigit || ('a'≤c && c ≤ 'f')

/-- Authentication secret: a fixed number of hexadecimal digits in lower case. -/
structure RuntimeToken where
  text : String
  length : (TextLines.encode text).length=tokenLength
  digits : text.toList.all isTokenDigit=true
  deriving DecidableEq

def RuntimeToken.parse (value : String) : Option RuntimeToken :=
  let value := trim value
  if h : (TextLines.encode value).length=tokenLength ∧ value.toList.all isTokenDigit=true then
    some ⟨value,h.1,h.2⟩
  else none

/-- Compares to the end, so that the time taken does not tell where the texts differ. -/
def constantTimeEqual (expected candidate : List UInt8) : Bool :=
  (List.range (max expected.length candidate.length)).foldl (fun difference index =>
    difference ||| (expected[index]?.getD 0^^^candidate[index]?.getD 0).toNat)
    (expected.length^^^candidate.length)==0

def RuntimeToken.bearerMatches (self : RuntimeToken) (candidate : String) : Bool :=
  constantTimeEqual (TextLines.encode self.text) (TextLines.encode candidate)

theorem foldl_or_eq_zero {α : Type} (f : α → Nat) (xs : List α) (start : Nat) :
    xs.foldl (fun total x => total ||| f x) start=0 ↔ start=0 ∧ ∀x∈xs,f x=0 := by
  induction xs generalizing start with
  | nil => simp
  | cons x xs ih =>
    rw [List.foldl_cons,ih,Nat.or_eq_zero_iff,List.forall_mem_cons,and_assoc]

theorem xor_toNat_eq_zero (a b : UInt8) : (a^^^b).toNat=0 ↔ a=b := by
  have zero : (0 : UInt8).toNat=0 := rfl
  rw [← zero,UInt8.toNat_inj,UInt8.xor_eq_zero_iff]

theorem constantTimeEqual_iff (expected candidate : List UInt8) :
    constantTimeEqual expected candidate=true ↔ expected=candidate := by
  unfold constantTimeEqual
  rw [beq_iff_eq,foldl_or_eq_zero,xor_eq_zero_iff]
  constructor
  · intro h
    obtain ⟨length,each⟩ := h
    apply List.ext_getElem length
    intro index left right
    have inside : index∈List.range (max expected.length candidate.length) := by
      rw [List.mem_range]
      omega
    have same := (xor_toNat_eq_zero _ _).mp (each index inside)
    rw [List.getElem?_eq_getElem left,List.getElem?_eq_getElem right] at same
    exact same
  · intro same
    subst same
    refine ⟨rfl,fun index _ => ?_⟩
    rw [xor_toNat_eq_zero]

theorem encode_inj {a b : String} (same : TextLines.encode a=TextLines.encode b) : a=b := by
  have decoded := congrArg TextLines.decode same
  rw [TextLines.decode_encode,TextLines.decode_encode] at decoded
  exact Option.some.inj decoded

/-- A bearer is accepted only if it is the token itself. -/
theorem RuntimeToken.bearerMatches_iff (self : RuntimeToken) (candidate : String) :
    self.bearerMatches candidate=true ↔ candidate=self.text := by
  unfold bearerMatches
  rw [constantTimeEqual_iff]
  exact ⟨fun same => (encode_inj same).symm,fun same => by rw [same]⟩

end AkuSupervisor

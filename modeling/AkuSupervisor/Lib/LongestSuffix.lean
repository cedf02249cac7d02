import Mathlib.Data.List.Infix
import Mathlib.Tactic.Common

/-! The longest suffix of a list that fits, and how it is kept when the list grows at its end. -/

namespace LongestSuffix

variable {α : Type}

structure Longest (fits : List α → Prop) (kept all : List α) : Prop where
  suffix : kept <:+ all
  good : fits kept
  longest : ∀other,other <:+ all → fits other → other <:+ kept

/-- Drops elements in front until the rest fits. -/
def keep (fits : List α → Prop) [DecidablePred fits] : List α → List α
  | [] => []
  | a::rest => if fits (a::rest) then a::rest else keep fits rest

variable {fits : List α → Prop}

theorem keep_longest [DecidablePred fits] (nothing : fits []) (all : List α) :
    Longest fits (keep fits all) all := by
  induction all with
  | nil => exact ⟨List.suffix_refl _,nothing,fun other suffix _ => suffix⟩
  | cons a rest ih =>
    rw [keep]
    split_ifs with fit
    · exact ⟨List.suffix_refl _,fit,fun other suffix _ => suffix⟩
    · refine ⟨ih.suffix.trans (List.suffix_cons a rest),ih.good,fun other suffix good => ?_⟩
      rcases List.suffix_cons_iff.mp suffix with rfl|shorter
      · exact absurd good fit
      · exact ih.longest other shorter good

/-- When the list grows at its end, the longest suffix of what was kept and the new element is the
longest of all. -/
theorem Longest.snoc {kept all next : List α} {a : α} (longest : Longest fits kept all)
    (shorter : ∀l a,fits (l++[a]) → fits l) (more : Longest fits next (kept++[a])) :
    Longest fits next (all++[a]) := by
  obtain ⟨front,split⟩ := longest.suffix
  refine ⟨more.suffix.trans ⟨front,by rw [← split,List.append_assoc]⟩,more.good,?_⟩
  intro other suffix good
  apply more.longest other _ good
  rcases List.suffix_concat_iff.mp suffix with rfl|⟨earlier,rfl,inside⟩
  · exact List.nil_suffix
  · obtain ⟨before,rest⟩ := longest.longest earlier inside (shorter earlier a good)
    exact ⟨before,by rw [← rest,List.append_assoc]⟩

/-- Nothing is kept when no suffix that has an element fits. -/
theorem Longest.eq_nil {kept all : List α} (longest : Longest fits kept all)
    (none : ∀other,other≠[] → other <:+ all → ¬fits other) : kept=[] := by
  by_contra some
  exact none kept some longest.suffix longest.good

end LongestSuffix

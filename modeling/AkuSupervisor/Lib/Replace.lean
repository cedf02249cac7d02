import Mathlib.Tactic.Common

/-! Every occurrence of a pattern in a list replaced by a mark, from the left. -/

namespace Replace

variable {α β : Type} [DecidableEq β] (key : α → β) (pattern : List β) (mark : List α)

/-- The pattern is replaced wherever it stands first, with the next `skip` elements left out. -/
def replaceFrom : Nat → List α → List α
  | _,[] => []
  | skip+1,_::as => replaceFrom skip as
  | 0,a::as =>
    if pattern <+: (a::as).map key then mark++replaceFrom (pattern.length-1) as
    else a::replaceFrom 0 as

/-- All occurrences are replaced. -/
def replaceAll (as : List α) : List α := replaceFrom key pattern mark 0 as

variable {key pattern mark}

theorem replaceFrom_skip (as bs : List α) :
    replaceFrom key pattern mark as.length (as++bs)=replaceAll key pattern mark bs := by
  induction as with
  | nil => rfl
  | cons a as ih => exact ih

theorem replaceAll_match (some : pattern≠[]) {as : List α} (here : as.map key=pattern)
    (bs : List α) : replaceAll key pattern mark (as++bs)=mark++replaceAll key pattern mark bs := by
  cases as with
  | nil => exact absurd here.symm some
  | cons a as =>
    have starts : pattern <+: (a::(as++bs)).map key := by
      rw [← List.cons_append,List.map_append,here]
      exact List.prefix_append _ _
    have length : pattern.length-1=as.length := by
      rw [← here,List.length_map]
      rfl
    rw [List.cons_append,replaceAll,replaceFrom,if_pos starts,length,replaceFrom_skip]

theorem replaceAll_miss (as bs : List α)
    (misses : ∀front behind,as=front++behind → behind≠[] → ¬pattern <+: (behind++bs).map key) :
    replaceAll key pattern mark (as++bs)=as++replaceAll key pattern mark bs := by
  induction as with
  | nil => rfl
  | cons a as ih =>
    have here : ¬pattern <+: (a::(as++bs)).map key := misses [] (a::as) rfl (by simp)
    rw [List.cons_append,replaceAll,replaceFrom,if_neg here]
    exact congrArg (a::·) (ih fun front behind split some =>
      misses (a::front) behind (by rw [split]; rfl) some)

/-- A list without the pattern is left as it is. -/
theorem replaceAll_absent {as : List α} (absent : ¬pattern <:+: as.map key) :
    replaceAll key pattern mark as=as := by
  have kept : replaceAll key pattern mark (as++[])=as++replaceAll key pattern mark [] := by
    apply replaceAll_miss
    intro front behind split _ starts
    rw [List.append_nil] at starts
    rw [split,List.map_append] at absent
    exact absent (starts.isInfix.trans (List.suffix_append _ _).isInfix)
  rw [List.append_nil] at kept
  rw [kept]
  exact List.append_nil as

/-- The elements of both kinds are replaced alike. -/
theorem map_replaceFrom (skip : Nat) (as : List α) :
    (replaceFrom key pattern mark skip as).map key=
      replaceFrom id pattern (mark.map key) skip (as.map key) := by
  induction as generalizing skip with
  | nil => cases skip <;> rfl
  | cons a as ih =>
    cases skip with
    | succ skip => exact ih skip
    | zero =>
      rw [List.map_cons,replaceFrom,replaceFrom,List.map_id,List.map_cons]
      split
      · rw [List.map_append,ih]
      · rw [List.map_cons,ih]

theorem map_replaceAll (as : List α) :
    (replaceAll key pattern mark as).map key=
      replaceAll id pattern (mark.map key) (as.map key) :=
  map_replaceFrom 0 as

/-- Pieces with the mark between them. -/
def joined (mark first : List α) (pieces : List (List α)) : List α :=
  first++pieces.flatMap fun piece => mark++piece

/-- What is left between the marks stood in the list, and is free of the pattern. -/
theorem replaceFrom_pieces (some : pattern≠[]) (skip : Nat) (as : List α) :
    ∃first pieces,replaceFrom key pattern mark skip as=joined mark first pieces ∧
      first <+: as.drop skip ∧
      ∀piece∈first::pieces,piece <:+: as ∧ ¬pattern <:+: piece.map key := by
  have empty (as : List α) : [] <:+: as ∧ ¬pattern <:+: ([] : List α).map key :=
    ⟨List.nil_infix,by simpa using some⟩
  induction as generalizing skip with
  | nil =>
    refine ⟨[],[],by cases skip <;> rfl,List.nil_prefix,?_⟩
    intro piece mem
    cases List.mem_singleton.mp mem
    exact empty []
  | cons a as ih =>
    cases skip with
    | succ skip =>
      obtain ⟨first,pieces,same,starts,each⟩ := ih skip
      exact ⟨first,pieces,same,starts,fun piece mem =>
        ⟨List.infix_cons (each piece mem).1,(each piece mem).2⟩⟩
    | zero =>
      rw [replaceFrom]
      by_cases here : pattern <+: (a::as).map key
      · obtain ⟨first,pieces,same,-,each⟩ := ih (pattern.length-1)
        refine ⟨[],first::pieces,?_,List.nil_prefix,fun piece mem => ?_⟩
        · rw [if_pos here,same]
          simp [joined]
        · rcases List.mem_cons.mp mem with rfl|later
          · exact empty _
          · exact ⟨List.infix_cons (each piece later).1,(each piece later).2⟩
      · obtain ⟨first,pieces,same,starts,each⟩ := ih 0
        have grown : a::first <+: a::as := List.cons_prefix_cons.mpr ⟨rfl,starts⟩
        refine ⟨a::first,pieces,?_,grown,fun piece mem => ?_⟩
        · rw [if_neg here,same]
          rfl
        · rcases List.mem_cons.mp mem with rfl|later
          · refine ⟨grown.isInfix,fun inside => ?_⟩
            rw [List.map_cons,List.infix_cons_iff] at inside
            rcases inside with starting|inside
            · exact here (starting.trans (by simpa using starts.map key))
            · exact (each first List.mem_cons_self).2 inside
          · have there := each piece (List.mem_cons_of_mem first later)
            exact ⟨List.infix_cons there.1,there.2⟩

theorem replaceAll_pieces (some : pattern≠[]) (as : List α) :
    ∃first pieces,replaceAll key pattern mark as=joined mark first pieces ∧
      ∀piece∈first::pieces,piece <:+: as ∧ ¬pattern <:+: piece.map key := by
  have cut : ∃first pieces,replaceAll key pattern mark as=joined mark first pieces ∧ first <+: as ∧
      ∀piece∈first::pieces,piece <:+: as ∧ ¬pattern <:+: piece.map key :=
    replaceFrom_pieces some 0 as
  obtain ⟨first,pieces,same,-,each⟩ := cut
  exact ⟨first,pieces,same,each⟩

section Overlaps

variable {block : List α}

/-- A block and a mark can lie over one another in some list. -/
def Overlaps (block mark : List α) : Prop :=
  block <:+: mark ∨ mark <:+: block ∨
    ∃shared,shared≠[] ∧ (shared <:+ block ∧ shared <+: mark ∨ shared <+: block ∧ shared <:+ mark)

/-- A block shares an element with whatever it overlaps. -/
theorem not_overlaps (some : block≠[]) (marked : mark≠[]) (apart : ∀a∈block,a∉mark) :
    ¬Overlaps block mark := by
  have differ {shared : List α} (more : shared≠[]) (inside : ∀a∈shared,a∈block)
      (there : ∀a∈shared,a∈mark) : False := by
    obtain ⟨a,mem⟩ := List.exists_mem_of_ne_nil shared more
    exact apart a (inside a mem) (there a mem)
  rintro (within|around|⟨shared,more,⟨left,right⟩|⟨left,right⟩⟩)
  · exact differ some (fun _ => id) within.subset
  · exact differ marked around.subset fun _ => id
  · exact differ more left.subset right.subset
  · exact differ more left.subset right.subset

/-- A block that does not overlap the mark stands on one side of it. -/
theorem infix_around (apart : ¬Overlaps block mark) {front behind : List α}
    (inside : block <:+: front++(mark++behind)) : block <:+: front ∨ block <:+: behind := by
  have shares {shared : List α} (some : shared≠[])
      (both : shared <:+ block ∧ shared <+: mark ∨ shared <+: block ∧ shared <:+ mark) : False :=
    apart (.inr (.inr ⟨shared,some,both⟩))
  obtain ⟨before,after,same⟩ := inside
  rw [List.append_assoc] at same
  rcases List.append_eq_append_iff.mp same with ⟨left,rfl,rest⟩|⟨left,rfl,rest⟩
  · -- the block starts in front of the mark
    rcases List.append_eq_append_iff.mp rest with ⟨more,rfl,_⟩|⟨shared,rfl,covered⟩
    · exact .inl ⟨before,more,by rw [List.append_assoc]⟩
    · by_cases none : shared=[]
      · subst none
        exact .inl ⟨before,[],by simp⟩
      rcases List.append_eq_append_iff.mp covered with ⟨more,rfl,_⟩|⟨more,whole,_⟩
      · exact absurd (.inr (.inl ⟨left,more,by rw [List.append_assoc]⟩)) apart
      · exact (shares none (.inl ⟨List.suffix_append _ _,⟨more,whole.symm⟩⟩)).elim
  · -- the block starts in the mark or behind it
    rcases List.append_eq_append_iff.mp rest with ⟨more,-,behind'⟩|⟨shared,whole,covered⟩
    · exact .inr ⟨more,after,by rw [behind',List.append_assoc]⟩
    · rcases List.append_eq_append_iff.mp covered with ⟨more,rfl,_⟩|⟨more,rfl,behind'⟩
      · exact absurd (.inl ⟨left,more,by rw [whole,List.append_assoc]⟩) apart
      · by_cases none : shared=[]
        · subst none
          exact .inr ⟨[],after,by rw [behind']; rfl⟩
        · exact (shares none (.inr ⟨List.prefix_append _ _,⟨left,whole.symm⟩⟩)).elim

/-- A block that stands in joined pieces and does not overlap their mark stands in a piece. -/
theorem infix_joined (apart : ¬Overlaps block mark) {first : List α} {pieces : List (List α)}
    (inside : block <:+: joined mark first pieces) : ∃piece∈first::pieces,block <:+: piece := by
  induction pieces generalizing first with
  | nil => exact ⟨first,List.mem_cons_self,by simpa [joined] using inside⟩
  | cons piece pieces ih =>
    have split : joined mark first (piece::pieces)=first++(mark++joined mark piece pieces) := by
      simp [joined]
    rw [split] at inside
    rcases infix_around apart inside with here|later
    · exact ⟨first,List.mem_cons_self,here⟩
    · obtain ⟨found,mem,there⟩ := ih later
      exact ⟨found,List.mem_cons_of_mem first mem,there⟩

/-- A block that does not overlap the mark stood in the list, and is free of the pattern. -/
theorem infix_replaceAll (some : pattern≠[]) (apart : ¬Overlaps block mark) {as : List α}
    (inside : block <:+: replaceAll key pattern mark as) :
    block <:+: as ∧ ¬pattern <:+: block.map key := by
  have cut : ∃first pieces,replaceAll key pattern mark as=joined mark first pieces ∧
      ∀piece∈first::pieces,piece <:+: as ∧ ¬pattern <:+: piece.map key := replaceAll_pieces some as
  obtain ⟨first,pieces,same,each⟩ := cut
  rw [same] at inside
  obtain ⟨piece,mem,there⟩ := infix_joined apart inside
  exact ⟨there.trans (each piece mem).1,fun found => (each piece mem).2 (found.trans (there.map key))⟩

end Overlaps

section Strings

open String.Slice String.Slice.Pattern String.Slice.Pattern.Model

/-- What a search found is put together with the mark for each match. -/
def assemble (text : String.Slice) (mark sofar : String) : SearchStep text → String
  | .matched .. => sofar++String.ToSlice.toSlice mark
  | .rejected start stop => sofar++text.slice! start stop

theorem assemble_search {text : String.Slice} {secret mark : String} (some : secret≠"")
    {start : text.Pos} {steps : List (SearchStep text)}
    (valid : IsValidSearchFrom secret start steps) {before behind : String}
    (splits : start.Splits before behind) (sofar : String) :
    (steps.foldl (assemble text mark) sofar).toList=
      sofar.toList++replaceAll id secret.toList mark.toList behind.toList := by
  have chars : secret.toList≠[] := by simpa using some
  induction valid generalizing before behind sofar with
  | endPos =>
    have none := splits.eq_right (splits_endPos text)
    rw [none]
    simp [replaceAll,replaceFrom]
  | @matched steps start stop longest valid ih =>
    obtain ⟨front,rest,starts,stops⟩ := ForwardStringSearcher.isLongestMatchAt_iff_splits.mp longest
    have here := splits.eq_right starts
    have marked : (String.ToSlice.toSlice mark).copy=mark := String.copy_toSlice
    rw [List.foldl_cons,ih stops,here,String.toList_append,
      replaceAll_match chars (List.map_id _) rest.toList]
    simp [assemble,marked]
  | @mismatched steps start stop less misses valid ih =>
    obtain ⟨part,some_part,joined,rejected⟩ := (splits.lt_iff_exists_eq_append stop.splits).mp less
    have clear (front behind : List Char) (cut : part.toList=front++behind) (more : behind≠[]) :
        ¬secret.toList <+: (behind++(text.sliceFrom stop).copy.toList).map id := by
      rw [List.map_id]
      rintro ⟨rest,starts⟩
      have whole : behind++(text.sliceFrom stop).copy.toList=
          (secret++String.ofList rest).toList := by
        rw [String.toList_append,String.toList_ofList,starts]
      have copied : text.copy=(before++String.ofList front)++
          (secret++String.ofList rest) := by
        rw [splits.eq_append,rejected]
        apply String.toList_injective
        rw [String.toList_append,String.toList_append,String.toList_append,cut,← whole]
        simp
      obtain ⟨place,placed⟩ : ∃place : text.Pos,place.Splits (before++String.ofList front)
          (secret++String.ofList rest) := ⟨_,Pos.splits_ofEqAppend copied⟩
      have after : start ≤ place := (splits.le_iff_exists_eq_append placed).mpr
        ⟨String.ofList front,rfl,by
          apply String.toList_injective
          rw [rejected,String.toList_append,cut,String.toList_append,String.toList_ofList,← whole]
          simp⟩
      have ahead : place < stop := (placed.lt_iff_exists_eq_append stop.splits).mpr
        ⟨String.ofList behind,by simpa using more,by
          apply String.toList_injective
          rw [joined,String.toList_append,cut]
          simp,by
          apply String.toList_injective
          rw [← whole]
          simp⟩
      exact misses place after ahead (ForwardStringSearcher.matchesAt_iff_splits.mpr ⟨_,_,placed⟩)
    have piece : (text.slice! start stop).copy=part := by
      have le : start ≤ stop := Std.le_of_lt less
      rw [← slice_eq_slice! (h := le)]
      obtain ⟨_,same⟩ := copy_slice_eq_iff_splits.mpr
        ⟨before,_,rejected ▸ splits,joined ▸ stop.splits⟩
      exact same
    rw [List.foldl_cons,ih stop.splits,rejected,String.toList_append,replaceAll_miss _ _ clear]
    simp [assemble,piece]

theorem toList_replace (text mark : String) {secret : String} (some : secret≠"") :
    (text.replace secret mark).toList=
      replaceAll id secret.toList mark.toList text.toList := by
  have lawful := ForwardStringSearcher.lawfulToForwardSearcherModel some
  have steps := @assemble_search _ _ mark some _ _ (lawful.isValidSearchFrom_toList text.toSlice)
    "" _ (splits_startPos _) ""
  have folded : text.replace secret mark=
      (ToForwardSearcher.toSearcher secret text.toSlice).toList.foldl
        (assemble text.toSlice mark) "" := by
    rw [String.replace,String.Slice.replace,Std.Iter.foldl_toList]
    congr 1
    funext sofar step
    cases step with
    | matched start stop => rfl
    | rejected start stop => rfl
  rw [folded,steps]
  simp

end Strings

end Replace

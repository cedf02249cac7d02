import Mathlib.Data.List.Basic
import Mathlib.Tactic.Common

/-! Texts taken apart: after a prefix, at the first occurrence of a pattern, and at each of them. -/

namespace Cut

section Lists

variable {α : Type} [DecidableEq α]

/-- What stands before and after the first occurrence of the pattern. -/
def once (pattern : List α) : List α → Option (List α × List α)
  | [] => if pattern=[] then some ([],[]) else none
  | a::s =>
    match (a::s).dropPrefix? pattern with
    | some after => some ([],after)
    | none => (once pattern s).map fun cut => (a::cut.1,cut.2)

/-- The parts between the occurrences of the pattern, of which at most `fuel` are looked for. -/
def parts (pattern : List α) : Nat → List α → List (List α)
  | 0,s => [s]
  | fuel+1,s =>
    match once pattern s with
    | none => [s]
    | some (before,after) => before::parts pattern fuel after

/-- The list as the parts around one occurrence. -/
theorem once_append {pattern s before after : List α} (cut : once pattern s=some (before,after)) :
    s=before++pattern++after := by
  induction s generalizing before with
  | nil =>
    rw [once] at cut
    split_ifs at cut with empty
    cases cut
    simp [empty]
  | cons a s ih =>
    rw [once] at cut
    cases first : (a::s).dropPrefix? pattern with
    | some rest =>
      rw [first] at cut
      cases cut
      obtain ⟨head,split,same⟩ := List.dropPrefix?_eq_some_iff.mp first
      rw [split,beq_iff_eq.mp same]
      rfl
    | none =>
      rw [first] at cut
      obtain ⟨⟨head,rest⟩,later,same⟩ := Option.map_eq_some_iff.mp cut
      cases same
      have tail := ih later
      rw [List.cons_append,List.cons_append,← tail]

theorem once_eq_none {pattern s : List α} (nonempty : pattern≠[]) :
    once pattern s=none ↔ ¬pattern <:+: s := by
  induction s with
  | nil => simp [once,nonempty]
  | cons a s ih =>
    rw [once]
    cases first : (a::s).dropPrefix? pattern with
    | some after =>
      obtain ⟨head,split,same⟩ := List.dropPrefix?_eq_some_iff.mp first
      have inside : pattern <:+: a::s := ⟨[],after,by rw [split,beq_iff_eq.mp same]; rfl⟩
      simp [inside]
    | none =>
      have apart : ¬pattern <+: a::s := by
        intro found
        obtain ⟨after,split⟩ := found
        have dropped : (a::s).dropPrefix? pattern=some after :=
          List.dropPrefix?_eq_some_iff.mpr ⟨pattern,split.symm,beq_self_eq_true pattern⟩
        rw [first] at dropped
        cases dropped
      rw [Option.map_eq_none_iff,ih,List.infix_cons_iff]
      tauto

/-- No occurrence starts before the first one. -/
theorem once_least {pattern s before after before' after' : List α}
    (cut : once pattern s=some (before,after)) (split : s=before'++pattern++after') :
    before.length ≤ before'.length := by
  induction s generalizing before before' with
  | nil =>
    rw [once] at cut
    split_ifs at cut
    cases cut
    exact Nat.zero_le _
  | cons a s ih =>
    rw [once] at cut
    cases first : (a::s).dropPrefix? pattern with
    | some rest =>
      rw [first] at cut
      cases cut
      exact Nat.zero_le _
    | none =>
      rw [first] at cut
      obtain ⟨⟨head,rest⟩,later,same⟩ := Option.map_eq_some_iff.mp cut
      cases same
      cases before' with
      | nil =>
        have found : (a::s).dropPrefix? pattern=some after' :=
          List.dropPrefix?_eq_some_iff.mpr ⟨pattern,split,beq_self_eq_true pattern⟩
        rw [first] at found
        cases found
      | cons b front =>
        rw [List.cons_append,List.cons_append,List.cons.injEq] at split
        have tail := ih later split.2
        simp only [List.length_cons]
        omega

/-- What is cut at its first occurrence is cut there when it goes on. -/
theorem once_extend {pattern s before after : List α} (nonempty : pattern≠[])
    (cut : once pattern s=some (before,after)) (more : List α) :
    once pattern (s++more)=some (before,after++more) := by
  have split := once_append cut
  have there : s++more=before++pattern++(after++more) := by
    rw [split]
    simp only [List.append_assoc]
  cases found : once pattern (s++more) with
  | none =>
    have absent := (once_eq_none nonempty).mp found
    exact absurd ⟨before,after++more,there.symm⟩ absent
  | some other =>
    obtain ⟨front,rest⟩ := other
    have other := once_append found
    have early := once_least found there
    -- the occurrence lies in `s`, so it is the first one there as well
    have inside : front++pattern <+: s := by
      have whole : front++pattern <+: s++more := ⟨rest,other.symm⟩
      refine List.prefix_of_prefix_length_le whole (List.prefix_append s more) ?_
      have length := congrArg List.length split
      simp only [List.length_append] at length ⊢
      omega
    obtain ⟨tail,same⟩ := inside
    have late := once_least cut same.symm
    have equal : front=before := by
      have first : front <+: s++more := ⟨pattern++rest,by rw [other,List.append_assoc]⟩
      have second : before <+: s++more :=
        ⟨pattern++(after++more),by rw [there]; simp only [List.append_assoc]⟩
      exact (List.prefix_of_prefix_length_le first second early).eq_of_length_le late
    subst equal
    rw [there] at other
    have rests := List.append_cancel_left other
    rw [← rests]

/-- No occurrence starts where the first element of the pattern does not stand. -/
theorem once_skip {a : α} {pattern front : List α} (fresh : a∉front) (rest : List α) :
    once (a::pattern) (front++rest)=
      (once (a::pattern) rest).map fun cut => (front++cut.1,cut.2) := by
  induction front with
  | nil => exact Option.map_id'.symm
  | cons c front ih =>
    have other : c≠a := fun same => fresh (same ▸ List.mem_cons_self)
    have apart : (c::(front++rest)).dropPrefix? (a::pattern)=none := by
      rw [List.dropPrefix?,if_neg]
      rw [beq_iff_eq]
      exact other
    rw [List.cons_append,once,apart,ih fun mem => fresh (List.mem_cons_of_mem c mem),
      Option.map_map]
    rfl

/-- The first occurrence is the one that starts where its first element does. -/
theorem once_of_not_mem {a : α} (rest : List α) {before : List α} (after : List α)
    (fresh : a∉before) :
    once (a::rest) (before++a::rest++after)=some (before,after) := by
  have first : (a::(rest++after)).dropPrefix? (a::rest)=some after :=
    List.dropPrefix?_eq_some_iff.mpr ⟨a::rest,rfl,beq_self_eq_true (a::rest)⟩
  have here : once (a::rest) (a::(rest++after))=some ([],after) := by rw [once,first]
  rw [List.append_assoc,once_skip fresh]
  show (once (a::rest) (a::(rest++after))).map _=_
  rw [here,Option.map_some,List.append_nil]

omit [DecidableEq α] in
/-- What stops somewhere in `a++b` stops before the end of `a`, or in `b`. -/
theorem prefix_append_cases {p a b : List α} (cut : p <+: a++b) :
    p <+: a ∧ p≠a ∨ ∃q,p=a++q ∧ q <+: b := by
  obtain short | long := Nat.lt_or_ge p.length a.length
  · refine .inl ⟨List.prefix_of_prefix_length_le cut (List.prefix_append a b) (by omega),?_⟩
    intro same
    rw [same] at short
    omega
  · obtain ⟨q,rfl⟩ := List.prefix_of_prefix_length_le (List.prefix_append a b) cut long
    exact .inr ⟨q,rfl,(List.prefix_append_right_inj a).mp cut⟩

end Lists

def stripPrefix (pattern text : String) : Option String :=
  (text.toList.dropPrefix? pattern.toList).map String.ofList

def startsWith (pattern text : String) : Bool := (stripPrefix pattern text).isSome

def splitOnce (pattern text : String) : Option (String × String) :=
  (once pattern.toList text.toList).map fun cut => (String.ofList cut.1,String.ofList cut.2)

/-- The fields of a text between single characters. -/
def split (separator : Char) (text : String) : List String :=
  (text.toList.splitOn separator).map String.ofList

theorem stripPrefix_eq_some (pattern text rest : String) :
    stripPrefix pattern text=some rest ↔ text=pattern++rest := by
  unfold stripPrefix
  rw [Option.map_eq_some_iff]
  constructor
  · intro h
    obtain ⟨tail,dropped,rfl⟩ := h
    obtain ⟨head,split,same⟩ := List.dropPrefix?_eq_some_iff.mp dropped
    apply String.toList_inj.mp
    rw [split,String.toList_append,String.toList_ofList,beq_iff_eq.mp same]
  · intro h
    refine ⟨rest.toList,?_,String.ofList_toList⟩
    refine List.dropPrefix?_eq_some_iff.mpr ⟨pattern.toList,?_,beq_self_eq_true _⟩
    rw [h,String.toList_append]

theorem startsWith_iff (pattern text : String) :
    startsWith pattern text=true ↔ ∃rest,text=pattern++rest := by
  simp only [startsWith,Option.isSome_iff_exists,stripPrefix_eq_some]

theorem stripPrefix_append (pattern rest : String) :
    stripPrefix pattern (pattern++rest)=some rest := (stripPrefix_eq_some _ _ _).mpr rfl

/-- Texts that start apart do not get together later. -/
theorem append_ne {front : String} (rest : String) {text : String}
    (apart : ¬front.toList <+: text.toList) : front++rest≠text := by
  intro same
  exact apart ⟨rest.toList,by rw [← same,String.toList_append]⟩

theorem stripPrefix_apart {pattern front : String} (rest : String)
    (before : ¬pattern.toList <+: front.toList) (after : ¬front.toList <+: pattern.toList) :
    stripPrefix pattern (front++rest)=none := by
  rw [Option.eq_none_iff_forall_not_mem]
  intro tail found
  have whole := congrArg String.toList ((stripPrefix_eq_some _ _ _).mp found)
  rw [String.toList_append,String.toList_append] at whole
  have cut : pattern.toList <+: front.toList++rest.toList := ⟨tail.toList,whole.symm⟩
  obtain ⟨early,-⟩ | ⟨middle,longer,-⟩ := prefix_append_cases cut
  · exact before early
  · exact after ⟨middle,longer.symm⟩

/-- The first occurrence is the one that starts where its first character does. -/
theorem splitOnce_of_not_mem {pattern : String} {c : Char} {rest : List Char}
    (starts : pattern.toList=c::rest) {before : String} (after : String)
    (fresh : c∉before.toList) : splitOnce pattern (before++pattern++after)=some (before,after) := by
  have cut := once_of_not_mem rest after.toList fresh
  rw [splitOnce,String.toList_append,String.toList_append,starts,cut]
  simp

/-- A text with fewer of some character than the pattern is not cut. -/
theorem splitOnce_of_count {pattern text : String} (c : Char)
    (fewer : text.toList.count c < pattern.toList.count c) : splitOnce pattern text=none := by
  have nonempty : pattern.toList≠[] := by
    intro empty
    rw [empty,List.count_nil] at fewer
    omega
  rw [splitOnce,Option.map_eq_none_iff,once_eq_none nonempty]
  intro inside
  have least := inside.sublist.count_le c
  omega

/-- A text is cut once where its first field ends. -/
theorem splitOnce_head {pattern : String} {separator : Char} (single : pattern.toList=[separator])
    (text : String) :
    separator∉text.toList ∧ splitOnce pattern text=none ∧ (split separator text).head?=some text ∨
      ∃before after,separator∉before.toList ∧ text=before++pattern++after ∧
        splitOnce pattern text=some (before,after) ∧ (split separator text).head?=some before := by
  by_cases inside : separator∈text.toList
  · obtain ⟨front,behind,cut,fresh⟩ := List.eq_append_cons_of_mem inside
    have first : separator∉(String.ofList front).toList := by rwa [String.toList_ofList]
    have whole : text=String.ofList front++pattern++String.ofList behind := by
      apply String.toList_injective
      rw [cut,String.toList_append,String.toList_append,single,String.toList_ofList,
        String.toList_ofList,List.append_assoc]
      rfl
    refine .inr ⟨String.ofList front,String.ofList behind,first,whole,?_,?_⟩
    · have found := splitOnce_of_not_mem single (String.ofList behind) first
      rwa [← whole] at found
    · rw [split,cut,List.splitOn_append_cons_self,List.splitOn_eq_singleton fresh]
      rfl
  · refine .inl ⟨inside,?_,?_⟩
    · refine splitOnce_of_count separator ?_
      rw [single,List.count_eq_zero_of_not_mem inside]
      simp
    · rw [split,List.splitOn_eq_singleton inside]
      simp

/-- Fields with the separator between them. -/
def join (separator : Char) (fields : List String) : String :=
  String.ofList ([separator].intercalate (fields.map String.toList))

theorem split_join {separator : Char} {fields : List String} (some_field : fields≠[])
    (clean : ∀field∈fields,separator∉field.toList) :
    split separator (join separator fields)=fields := by
  have parts : (fields.map String.toList).map String.ofList=fields := by
    simp [List.map_map,Function.comp_def]
  rw [split,join,String.toList_ofList,List.splitOn_intercalate,parts]
  · intro chars mem
    obtain ⟨field,inside,rfl⟩ := List.mem_map.mp mem
    exact clean field inside
  · simpa using some_field

/-- The fields determine the text. -/
theorem split_inj {separator : Char} {a b : String}
    (same : split separator a=split separator b) : a=b := by
  have fields : a.toList.splitOn separator=b.toList.splitOn separator := by
    refine List.map_injective_iff.mpr ?_ same
    intro s t eq
    rw [← String.toList_ofList (l := s),← String.toList_ofList (l := t),eq]
  have joined := congrArg [separator].intercalate fields
  rw [List.intercalate_splitOn,List.intercalate_splitOn] at joined
  exact String.toList_inj.mp joined

end Cut

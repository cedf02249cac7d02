import Mathlib.Data.List.DropRight
import Mathlib.Data.List.TakeWhile
import Mathlib.Tactic.Common

/-! Lists cut into words at the elements that are spaces, and joined again by one separator. -/

namespace Words

variable {α : Type} (space : α → Bool) (sep : α)

/-- The words of a list, after `current`, which is the start of the first of them. -/
def wordsFrom (current : List α) : List α → List (List α)
  | [] => if current.isEmpty then [] else [current]
  | a::as =>
    if space a then
      if current.isEmpty then wordsFrom [] as else current::wordsFrom [] as
    else wordsFrom (current++[a]) as

/-- The maximal runs of elements that are not spaces. -/
def words (s : List α) : List (List α) := wordsFrom space [] s

/-- The words with one separator between them. -/
def join (ws : List (List α)) : List α := [sep].intercalate ws

/-- Whether a list starts with a word. -/
def Starts : List α → Prop
  | [] => False
  | a::_ => space a=false

/-- Every space is a separator in front of a word. -/
def Spaced : List α → Prop
  | [] => True
  | a::as => (space a=true → a=sep ∧ Starts space as) ∧ Spaced as

variable {space sep}

theorem join_cons (w : List α) (ws : List (List α)) (more : ws≠[]) :
    join sep (w::ws)=w++sep::join sep ws := by
  unfold join
  rw [List.intercalate_cons_of_ne_nil more,List.append_assoc]
  rfl

theorem join_ne_nil (sep : α) {ws : List (List α)} (h : join sep ws≠[]) : ws≠[] := by
  intro empty
  exact h (by rw [empty]; rfl)

theorem Starts.ne_nil {s : List α} (h : Starts space s) : s≠[] := by
  cases s with
  | nil => exact h.elim
  | cons a as => simp

/-- Cutting a spaced list into words and joining them again gives it back. -/
theorem join_wordsFrom (current s : List α) (spaced : Spaced space sep s)
    (starts : current=[] → s=[] ∨ Starts space s) :
    join sep (wordsFrom space current s)=current++s := by
  induction s generalizing current with
  | nil =>
    cases current with
    | nil => rfl
    | cons c current => simp [wordsFrom,join]
  | cons a as ih =>
    rw [wordsFrom]
    by_cases blank : space a=true
    · obtain ⟨rfl,next⟩ := spaced.1 blank
      have some : current≠[] := by
        intro empty
        rcases starts empty with none|starts
        · cases none
        · have word : space a=false := starts
          rw [blank] at word
          cases word
      have rest : join a (wordsFrom space [] as)=as := ih [] spaced.2 fun _ => .inr next
      have more : wordsFrom space [] as≠[] := by
        refine join_ne_nil a ?_
        rw [rest]
        exact next.ne_nil
      rw [if_pos blank,if_neg (by simpa using some),join_cons _ _ more,rest]
    · rw [if_neg blank,ih _ spaced.2 (by simp),List.append_assoc]
      rfl

/-- A space ends the word that it follows. -/
theorem wordsFrom_cut {w : List α} {a : α} (current rest : List α) (some : current++w≠[])
    (clear : ∀b∈w,space b=false) (blank : space a=true) :
    wordsFrom space current (w++a::rest)=(current++w)::wordsFrom space [] rest := by
  induction w generalizing current with
  | nil =>
    rw [List.append_nil] at some
    rw [List.nil_append,wordsFrom,if_pos blank,if_neg (by simpa using some),List.append_nil]
  | cons b w ih =>
    have word := clear b List.mem_cons_self
    have later := ih (current++[b]) (by simp) fun c mem => clear c (List.mem_cons_of_mem b mem)
    rw [List.cons_append,wordsFrom,if_neg (by simp [word]),later,List.append_assoc]
    rfl

/-- Words are not empty and hold no spaces. -/
theorem wordsFrom_word (space : α → Bool) (current s : List α) (clear : ∀a∈current,space a=false) :
    ∀w∈wordsFrom space current s,w≠[] ∧ ∀a∈w,space a=false := by
  induction s generalizing current with
  | nil =>
    intro w mem
    rw [wordsFrom] at mem
    split_ifs at mem with empty
    · simp at mem
    · cases List.mem_singleton.mp mem
      exact ⟨by simpa using empty,clear⟩
  | cons a as ih =>
    intro w mem
    rw [wordsFrom] at mem
    split_ifs at mem with blank empty
    · exact ih [] (by simp) w mem
    · rcases List.mem_cons.mp mem with rfl|later
      · exact ⟨by simpa using empty,clear⟩
      · exact ih [] (by simp) w later
    · refine ih (current++[a]) ?_ w mem
      intro b inside
      rcases List.mem_append.mp inside with earlier|last
      · exact clear b earlier
      · cases List.mem_singleton.mp last
        simpa using blank

theorem Starts.append {s : List α} (h : Starts space s) (more : List α) :
    Starts space (s++more) := by
  cases s with
  | nil => exact h.elim
  | cons a as => exact h

theorem starts_word {w : List α} (some : w≠[]) (clear : ∀a∈w,space a=false) :
    Starts space w := by
  cases w with
  | nil => exact absurd rfl some
  | cons a as => exact clear a List.mem_cons_self

theorem Spaced.word_append {w s : List α} (clear : ∀a∈w,space a=false)
    (spaced : Spaced space sep s) : Spaced space sep (w++s) := by
  induction w with
  | nil => exact spaced
  | cons a w ih =>
    have word := clear a List.mem_cons_self
    refine ⟨?_,ih fun b mem => clear b (List.mem_cons_of_mem a mem)⟩
    intro blank
    rw [blank] at word
    cases word

/-- Joined words are spaced, and start with a word. -/
theorem join_spaced (sep : α) (ws : List (List α)) (proper : ∀w∈ws,w≠[] ∧ ∀a∈w,space a=false) :
    Spaced space sep (join sep ws) ∧ (ws≠[] → Starts space (join sep ws)) := by
  induction ws with
  | nil => exact ⟨trivial,fun some => absurd rfl some⟩
  | cons w ws ih =>
    have first := proper w List.mem_cons_self
    have rest := ih fun v mem => proper v (List.mem_cons_of_mem w mem)
    by_cases more : ws=[]
    · subst more
      have alone : join sep [w]=w++[] := by simp [join]
      rw [alone]
      exact ⟨Spaced.word_append first.2 trivial,
        fun _ => (starts_word first.1 first.2).append []⟩
    · rw [join_cons w ws more]
      refine ⟨Spaced.word_append first.2 ⟨fun _ => ⟨rfl,rest.2 more⟩,rest.1⟩,?_⟩
      intro
      exact (starts_word first.1 first.2).append _

/-- A spaced list has no spaces but separators. -/
theorem Spaced.eq_sep {s : List α} (spaced : Spaced space sep s) :
    ∀a∈s,space a=true → a=sep := by
  induction s with
  | nil => simp
  | cons b s ih =>
    intro a mem blank
    rcases List.mem_cons.mp mem with rfl|later
    · exact (spaced.1 blank).1
    · exact ih spaced.2 a later blank

/-- The words of joined words, joined. -/
theorem join_words_join (s : List α) :
    join sep (words space (join sep (words space s)))=join sep (words space s) := by
  have proper := wordsFrom_word space [] s (by simp)
  obtain ⟨spaced,starts⟩ := join_spaced sep _ proper
  refine join_wordsFrom [] _ spaced fun _ => ?_
  by_cases some : wordsFrom space [] s=[]
  · exact .inl (by rw [words,some]; rfl)
  · exact .inr (starts some)

/-- A list without the spaces at its end. -/
theorem rdropWhile_cons (a : α) (s : List α) :
    (a::s).rdropWhile space=
      if s.rdropWhile space=[] then [a].rdropWhile space else a::s.rdropWhile space := by
  induction s using List.reverseRecOn with
  | nil => simp
  | append_singleton s b ih =>
    rw [← List.cons_append]
    by_cases blank : space b=true
    · rw [List.rdropWhile_concat_pos _ _ _ blank,List.rdropWhile_concat_pos _ _ _ blank]
      exact ih
    · rw [List.rdropWhile_concat_neg _ _ _ blank,List.rdropWhile_concat_neg _ _ _ blank,
        if_neg (by simp)]
      rfl

theorem starts_rdropWhile {s : List α} (more : List α) (starts : Starts space (s++more))
    (some : s.rdropWhile space≠[]) : Starts space (s.rdropWhile space) := by
  cases s with
  | nil => simp at some
  | cons a s =>
    have word : space a=false := starts
    rw [rdropWhile_cons]
    split_ifs
    · rw [List.rdropWhile_singleton,word]
      exact word
    · exact word

/-- A spaced list may be cut off anywhere, trimmed and ended by a mark without spaces. -/
theorem Spaced.cut {s rest mark : List α} (spaced : Spaced space sep (s++rest))
    (clear : ∀a∈mark,space a=false) : Spaced space sep (s.rdropWhile space++mark) := by
  have marked : Spaced space sep mark := by
    rw [← List.append_nil mark]
    exact Spaced.word_append clear trivial
  induction s with
  | nil => exact marked
  | cons a s ih =>
    rw [rdropWhile_cons]
    split_ifs with nothing
    · rw [List.rdropWhile_singleton]
      split_ifs with blank
      · exact marked
      · exact ⟨fun space => absurd space blank,marked⟩
    · refine ⟨fun blank => ?_,ih spaced.2⟩
      obtain ⟨same,next⟩ := spaced.1 blank
      exact ⟨same,(starts_rdropWhile _ next nothing).append mark⟩

/-- Cutting off joined words leaves joined words. -/
theorem join_words_cut (space : α → Bool) (sep : α) {s t rest : List α} (mark : List α)
    (split : join sep (words space s)=t++rest) (some : mark≠[]) (clear : ∀a∈mark,space a=false) :
    join sep (words space (t.rdropWhile space++mark))=t.rdropWhile space++mark := by
  have proper := wordsFrom_word space [] s (by simp)
  obtain ⟨spaced,starts⟩ := join_spaced sep _ proper
  change Spaced space sep (join sep (words space s)) at spaced
  rw [split] at spaced
  refine join_wordsFrom [] _ (spaced.cut clear) fun _ => .inr ?_
  by_cases nothing : t.rdropWhile space=[]
  · rw [nothing]
    exact starts_word some clear
  · refine (starts_rdropWhile rest ?_ nothing).append mark
    rw [← split]
    refine starts ?_
    refine join_ne_nil sep ?_
    change join sep (words space s)≠[]
    rw [split]
    intro empty
    rw [(List.append_eq_nil_iff.mp empty).1] at nothing
    exact nothing rfl

/-- Trimming a second time changes nothing. -/
theorem trim_trim (s : List α) :
    (((s.dropWhile space).rdropWhile space).dropWhile space).rdropWhile space=
      (s.dropWhile space).rdropWhile space := by
  have start : ((s.dropWhile space).rdropWhile space).dropWhile space=
      (s.dropWhile space).rdropWhile space := by
    cases trimmed : (s.dropWhile space).rdropWhile space with
    | nil => rfl
    | cons a t =>
      obtain ⟨rest,split⟩ := List.rdropWhile_prefix space (l := s.dropWhile space)
      have first := List.head?_dropWhile_not space s
      rw [← split,trimmed] at first
      simp only [List.cons_append,List.head?_cons] at first
      rw [List.dropWhile_cons,first]
      rfl
  rw [start,List.rdropWhile_idempotent]

section Map

variable {β : Type} (f : α → β) (space : β → Bool)

theorem map_wordsFrom (current s : List α) :
    (wordsFrom (space∘f) current s).map (List.map f)=wordsFrom space (current.map f) (s.map f) := by
  induction s generalizing current with
  | nil => cases current <;> rfl
  | cons a s ih =>
    rw [List.map_cons,wordsFrom,wordsFrom,List.isEmpty_map,Function.comp_apply]
    split_ifs
    · exact ih []
    · rw [List.map_cons,ih]
      rfl
    · rw [ih,List.map_append]
      rfl

theorem map_join (sep : α) (ws : List (List α)) :
    (join sep ws).map f=join (f sep) (ws.map (List.map f)) := by
  induction ws with
  | nil => rfl
  | cons w ws ih =>
    by_cases more : ws=[]
    · subst more
      simp [join]
    · rw [join_cons w ws more,List.map_cons,join_cons _ _ (by simpa using more),← ih]
      simp

theorem map_rdropWhile (s : List α) :
    (s.rdropWhile (space∘f)).map f=(s.map f).rdropWhile space := by
  rw [List.rdropWhile,List.rdropWhile,← List.map_reverse,List.dropWhile_map,List.map_reverse]

end Map

/-- Each word stands in the list. -/
theorem wordsFrom_infix (space : α → Bool) (current s : List α) :
    ∀w∈wordsFrom space current s,w <:+: current++s := by
  induction s generalizing current with
  | nil =>
    intro w mem
    rw [wordsFrom] at mem
    split_ifs at mem
    · simp at mem
    · cases List.mem_singleton.mp mem
      simp
  | cons a s ih =>
    intro w mem
    have later (mem : w∈wordsFrom space [] s) : w <:+: current++a::s :=
      (ih [] w mem).trans ⟨current++[a],[],by simp⟩
    rw [wordsFrom] at mem
    split_ifs at mem
    · exact later mem
    · rcases List.mem_cons.mp mem with rfl|mem
      · exact (List.prefix_append _ _).isInfix
      · exact later mem
    · have here := ih (current++[a]) w mem
      rwa [List.append_assoc] at here

theorem words_infix (space : α → Bool) (s : List α) : ∀w∈words space s,w <:+: s :=
  wordsFrom_infix space [] s

end Words

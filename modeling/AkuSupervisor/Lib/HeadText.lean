import AkuSupervisor.Lib.Cut
import AkuSupervisor.Lib.TextLines

/-! Heads of HTTP messages as texts: lines with a line break between them, and an empty line at the
end. The bytes of a head are cut where it ends, and its text is cut into its lines. -/

namespace HeadText

section Lists

variable {α : Type} [DecidableEq α] {a b : α} {lines : List (List α)}

/-- The lines with `ab` between them end at the first `abab`. -/
theorem once_lines (apart : a≠b) (some_line : lines≠[]) (filled : ∀line∈lines,line≠[] ∧ a∉line)
    (rest : List α) :
    Cut.once [a,b,a,b] ([a,b].intercalate lines++([a,b,a,b]++rest))=
      some ([a,b].intercalate lines,rest) := by
  induction lines with
  | nil => exact absurd rfl some_line
  | cons line lines ih =>
    obtain ⟨-,fresh⟩ := filled line List.mem_cons_self
    cases lines with
    | nil =>
      rw [List.intercalate_singleton,← List.append_assoc]
      exact Cut.once_of_not_mem [b,a,b] rest fresh
    | cons next lines =>
      have later := ih (by simp) fun line mem => filled line (List.mem_cons_of_mem _ mem)
      obtain ⟨some_char,clean⟩ := filled next (by simp)
      obtain ⟨c,chars,starts⟩ := List.exists_cons_of_ne_nil some_char
      obtain ⟨more,tail⟩ : ∃more,[a,b].intercalate (next::lines)++([a,b,a,b]++rest)=c::more := by
        cases lines with
        | nil => exact ⟨_,by rw [List.intercalate_singleton,starts]; rfl⟩
        | cons third lines =>
          exact ⟨_,by rw [List.intercalate_cons_of_ne_nil (by simp),starts]; rfl⟩
      have other : a≠c := by
        intro same
        rw [starts,same] at clean
        exact clean List.mem_cons_self
      have first : (a::b::c::more).dropPrefix? [a,b,a,b]=none := by
        simp [List.dropPrefix?,other.symm]
      have skipped := @Cut.once_skip _ _ a [b,a,b] [b] (by simpa using apart) (c::more)
      rw [List.singleton_append] at skipped
      rw [List.intercalate_cons_of_ne_nil (by simp),List.append_assoc,List.append_assoc,
        Cut.once_skip fresh,tail]
      show (Cut.once [a,b,a,b] (a::b::c::more)).map _=_
      rw [Cut.once,first,skipped,← tail,later]
      simp

theorem parts_lines (some_line : lines≠[]) (fresh : ∀line∈lines,a∉line) {fuel : Nat}
    (enough : lines.length ≤ fuel+1) :
    Cut.parts [a,b] fuel ([a,b].intercalate lines)=lines := by
  induction lines generalizing fuel with
  | nil => exact absurd rfl some_line
  | cons line lines ih =>
    have clean := fresh line List.mem_cons_self
    cases lines with
    | nil =>
      have missing : Cut.once [a,b] line=none := by
        rw [Cut.once_eq_none (by simp)]
        intro inside
        exact clean (inside.subset List.mem_cons_self)
      rw [List.intercalate_singleton]
      cases fuel with
      | zero => rfl
      | succ fuel => rw [Cut.parts,missing]
    | cons next lines =>
      cases fuel with
      | zero => simp at enough
      | succ fuel =>
        have found := Cut.once_of_not_mem [b] ([a,b].intercalate (next::lines)) clean
        have later := ih (by simp) (fun line mem => fresh line (List.mem_cons_of_mem _ mem))
          (show (next::lines).length ≤ fuel+1 by
            rw [List.length_cons] at enough
            omega)
        rw [List.intercalate_cons_of_ne_nil (by simp),Cut.parts,found]
        exact congrArg (line::·) later

end Lists

open TextLines

/-- The lines of a head and its end. -/
def headText (lines : List String) : String :=
  String.ofList (['\r','\n'].intercalate (lines.map String.toList)++['\r','\n','\r','\n'])

theorem headText_last (line : String) : headText [line]=line++"\r\n\r\n" := by
  apply String.toList_injective
  rw [headText,String.toList_ofList,String.toList_append]
  simp

theorem headText_cons (line next : String) (lines : List String) :
    headText (line::next::lines)=line++("\r\n"++headText (next::lines)) := by
  apply String.toList_injective
  simp only [headText,String.toList_ofList,String.toList_append,List.map_cons]
  rw [List.intercalate_cons_of_ne_nil (by simp)]
  simp

/-- A line of a head is not empty and has no return in it. -/
def IsLine (line : String) : Prop := line.toList≠[] ∧ '\r'∉line.toList

instance (line : String) : Decidable (IsLine line) := inferInstanceAs (Decidable (_ ∧ _))

theorem return_not_mem {line : String} (proper : IsLine line) : carriageReturn∉encode line := by
  intro mem
  obtain ⟨c,here,inside⟩ := List.mem_flatMap.mp mem
  have same := ascii_of_mem c carriageReturn (by decide) inside
  have returns : c = '\r' := by
    apply Char.ext
    apply UInt32.toNat_inj.mp
    exact same
  exact proper.2 (returns ▸ here)

theorem encode_ofList (chars : List Char) :
    encode (String.ofList chars)=chars.flatMap String.utf8EncodeChar := by
  rw [encode,String.toList_ofList]

theorem encode_headText (lines : List String) :
    encode (headText lines)=[13,10].intercalate (lines.map encode)++[13,10,13,10] := by
  have joined : (['\r','\n'].intercalate (lines.map String.toList)).flatMap String.utf8EncodeChar=
      [13,10].intercalate (lines.map encode) := by
    induction lines with
    | nil => rfl
    | cons line lines ih =>
      cases lines with
      | nil => simp [encode]
      | cons next lines =>
        rw [List.map_cons,List.map_cons,List.intercalate_cons_of_ne_nil (by simp),
          List.flatMap_append,List.flatMap_append,← List.map_cons,ih]
        rw [List.map_cons (l := next::lines),List.intercalate_cons_of_ne_nil (by simp)]
        rfl
  rw [headText,encode_ofList,List.flatMap_append,joined]
  rfl

theorem encode_breaks (first : String) (lines : List String) :
    encode (headText (first::lines))=
      encode first++[13,10]++(lines.flatMap fun line => encode line++[13,10])++[13,10] := by
  have breaks : encode "\r\n"=[13,10] := by decide
  induction lines generalizing first with
  | nil =>
    have ends : encode "\r\n\r\n"=[13,10,13,10] := by decide
    rw [headText_last,encode_append,ends]
    simp
  | cons next lines ih =>
    rw [headText_cons,encode_append,encode_append,breaks,ih]
    simp

variable {lines : List String}

/-- The bytes of a head end at the first empty line. -/
theorem once_headText (some_line : lines≠[]) (proper : ∀line∈lines,IsLine line)
    (rest : List UInt8) :
    Cut.once [13,10,13,10] (encode (headText lines)++rest)=
      some ([13,10].intercalate (lines.map encode),rest) := by
  rw [encode_headText,List.append_assoc]
  refine once_lines (by decide) (by simpa using some_line) (fun bytes mem => ?_) rest
  obtain ⟨line,inside,rfl⟩ := List.mem_map.mp mem
  exact ⟨encode_ne_nil line (proper line inside).1,return_not_mem (proper line inside)⟩

theorem length_intercalate_le {α : Type} (a b : α) (parts : List (List α)) :
    parts.length ≤ ([a,b].intercalate parts).length+1 := by
  induction parts with
  | nil => exact Nat.zero_le _
  | cons part parts ih =>
    cases parts with
    | nil => simp
    | cons next parts =>
      rw [List.intercalate_cons_of_ne_nil (by simp),List.length_append,List.length_append,
        List.length_cons,List.length_cons]
      rw [List.length_cons] at ih
      simp only [List.length_cons,List.length_nil]
      omega

/-- The text of a head, without its end, is cut into its lines. -/
theorem parts_headText (some_line : lines≠[]) (proper : ∀line∈lines,IsLine line) :
    (Cut.parts ['\r','\n']
        ((headText lines).toList.take ((headText lines).toList.length-4)).length
        ((headText lines).toList.take ((headText lines).toList.length-4))).map String.ofList=
      lines := by
  have front : (headText lines).toList.take ((headText lines).toList.length-4)=
      ['\r','\n'].intercalate (lines.map String.toList) := by
    rw [headText,String.toList_ofList,List.length_append]
    exact List.take_left' rfl
  have each : ∀chars∈lines.map String.toList,'\r'∉chars := by
    intro chars mem
    obtain ⟨line,inside,rfl⟩ := List.mem_map.mp mem
    exact (proper line inside).2
  have cut := parts_lines (b := '\n') (by simpa using some_line) each
    (length_intercalate_le '\r' '\n' _)
  rw [front,cut,List.map_map]
  exact List.map_id'' (fun line => String.ofList_toList) lines

/-- What is cut from the bytes of a message has its whole head, or no end of a head in it. -/
theorem cut_headText (some_line : lines≠[]) (proper : ∀line∈lines,IsLine line)
    {rest part : List UInt8} (cut : part <+: encode (headText lines)++rest) :
    (∃body,part=encode (headText lines)++body ∧ body <+: rest) ∨
      Cut.once [13,10,13,10] part=none := by
  rcases Cut.prefix_append_cases cut with ⟨short,other⟩|whole
  · right
    cases found : Cut.once [13,10,13,10] part with
    | none => rfl
    | some parts =>
      obtain ⟨before,after⟩ := parts
      obtain ⟨tail,joined⟩ := short
      have extended := Cut.once_extend (by decide) found tail
      have all := once_headText some_line proper []
      rw [List.append_nil] at all
      rw [joined,all] at extended
      have behind := congrArg Prod.snd (Option.some.inj extended)
      have nothing : tail=[] := (List.append_eq_nil_iff.mp behind.symm).2
      rw [nothing,List.append_nil] at joined
      exact absurd joined other
  · exact .inl whole

theorem textLinesFrom_break (current line rest : List Char) (single : '\n'∉line) :
    textLinesFrom current (line++ '\r' :: '\n' ::rest)=(current++line)::textLinesFrom [] rest := by
  induction line generalizing current with
  | nil =>
    rw [List.nil_append,textLinesFrom,if_neg (by decide),textLinesFrom,if_pos rfl,
      List.getLast?_concat,if_pos rfl,List.dropLast_concat,List.append_nil]
  | cons c line ih =>
    have other : c≠ '\n' := fun same => single (same ▸ List.mem_cons_self)
    have later := ih (current++[c]) fun mem => single (List.mem_cons_of_mem _ mem)
    rw [List.cons_append,textLinesFrom,if_neg other,later,List.append_assoc]
    rfl

/-- The first line of a head is the first line of its text. -/
theorem textLines_headText (first : String) (lines : List String) (single : '\n'∉first.toList) :
    (textLines (headText (first::lines))).head?=some first := by
  obtain ⟨rest,chars⟩ : ∃rest,(headText (first::lines)).toList=first.toList++ '\r' :: '\n' ::rest := by
    cases lines with
    | nil =>
      rw [headText_last,String.toList_append]
      exact ⟨_,rfl⟩
    | cons next lines =>
      rw [headText_cons,String.toList_append,String.toList_append]
      exact ⟨_,rfl⟩
  rw [textLines,chars,textLinesFrom_break [] _ _ single]
  simp

end HeadText

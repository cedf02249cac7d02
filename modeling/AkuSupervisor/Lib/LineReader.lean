import AkuSupervisor.Lib.Cut
import AkuSupervisor.Lib.TextLines

/-! Readers that take one line after the other from what their reads give. -/

namespace LineReader

open TextLines

variable {ε : Type}

/-- What is left at the end of the input is the last line. -/
def last (part : List UInt8) : List (Except ε (List UInt8)) := if part=[] then [] else [.ok part]

/-- The lines that are read, after `part`, which is the start of the first of them: each with its
newline, and what is left where the input ends; or an error of a read. An empty read is the end. -/
def results : List (Except ε (List UInt8)) → List UInt8 → List (Except ε (List UInt8))
  | [],part => last part
  | .error e::_,_ => [.error e]
  | .ok chunk::reads,part =>
    if chunk=[] then last part
    else (rawLines part chunk).map (fun line => .ok (line++[newline]))++
      results reads (unfinished part chunk)

theorem results_closed (part : List UInt8) (more : List (Except ε (List UInt8))) :
    results (.ok []::more) part=last part := by
  rw [results,if_pos rfl]

/-- It does not matter in which pieces the input comes. -/
theorem results_chunks {chunks : List (List UInt8)} (filled : ∀chunk∈chunks,chunk≠[])
    (ending : List (Except ε (List UInt8))) (part : List UInt8) :
    results (chunks.map .ok++ending) part=
      (rawLines part chunks.flatten).map (fun line => .ok (line++[newline]))++
        results ending (unfinished part chunks.flatten) := by
  induction chunks generalizing part with
  | nil => rfl
  | cons chunk chunks ih =>
    have here := filled chunk List.mem_cons_self
    have later := ih (fun c mem => filled c (List.mem_cons_of_mem chunk mem))
      (unfinished part chunk)
    rw [List.map_cons,List.cons_append,results,if_neg here,later,List.flatten_cons,
      rawLines_append,unfinished_append,List.map_append,List.append_assoc]

/-- Lines with a newline each. -/
def closed (lines : List (List UInt8)) : List UInt8 := lines.flatMap (·++[newline])

theorem rawLines_closed {lines : List (List UInt8)} (single : ∀line∈lines,newline∉line) :
    rawLines [] (closed lines)=lines ∧ unfinished [] (closed lines)=[] := by
  induction lines with
  | nil => exact ⟨rfl,rfl⟩
  | cons line lines ih =>
    obtain ⟨later,rest⟩ := ih fun other mem => single other (List.mem_cons_of_mem line mem)
    obtain ⟨none,whole⟩ := rawLines_open [] line (single line List.mem_cons_self)
    have first : rawLines [] (line++[newline])=[line] ∧ unfinished [] (line++[newline])=[] := by
      rw [rawLines_append,unfinished_append,none,whole]
      exact ⟨rfl,rfl⟩
    have split : closed (line::lines)=(line++[newline])++closed lines := List.flatMap_cons
    rw [split,rawLines_append [] (line++[newline]),unfinished_append [] (line++[newline]),first.1,
      first.2,later,rest]
    exact ⟨rfl,rfl⟩

/-- The lines that are closed, and then the rest. -/
theorem rawLines_rest {lines : List (List UInt8)} (single : ∀line∈lines,newline∉line)
    (rest : List UInt8) : rawLines [] (closed lines++rest)=lines++rawLines [] rest ∧
      unfinished [] (closed lines++rest)=unfinished [] rest := by
  obtain ⟨whole,nothing⟩ := rawLines_closed single
  rw [rawLines_append,unfinished_append,whole,nothing]
  exact ⟨rfl,rfl⟩

/-- What is cut from lines are some of them, and a part of the next. -/
structure Part (lines : List (List UInt8)) (n : Nat) (rest : List UInt8) : Prop where
  count : n ≤ lines.length
  inside : rest=[] ∨ ∃line,lines[n]?=some line ∧ rest <+: line

theorem cut_closed {lines : List (List UInt8)} {part : List UInt8} (cut : part <+: closed lines) :
    ∃n rest,part=closed (lines.take n)++rest ∧ Part lines n rest := by
  induction lines generalizing part with
  | nil => exact ⟨0,[],by rw [List.prefix_nil.mp cut]; rfl,Nat.le_refl 0,.inl rfl⟩
  | cons line lines ih =>
    have split : closed (line::lines)=(line++[newline])++closed lines := List.flatMap_cons
    rw [split] at cut
    rcases Cut.prefix_append_cases cut with ⟨short,other⟩|⟨tail,rfl,more⟩
    · refine ⟨0,part,rfl,Nat.zero_le _,.inr ⟨line,rfl,?_⟩⟩
      rcases Cut.prefix_append_cases short with ⟨early,-⟩|⟨end_,rfl,nothing⟩
      · exact early
      · rcases List.prefix_cons_iff.mp nothing with rfl|⟨behind,rfl,empty⟩
        · exact ⟨[],by rw [List.append_nil,List.append_nil]⟩
        · rw [List.prefix_nil.mp empty] at other
          exact absurd rfl other
    · obtain ⟨n,rest,rfl,count,inside⟩ := ih more
      refine ⟨n+1,rest,?_,?_,?_⟩
      · rw [List.take_succ_cons,← List.append_assoc]
        rfl
      · rw [List.length_cons]
        omega
      · rcases inside with nothing|⟨next,here,short⟩
        · exact .inl nothing
        · exact .inr ⟨next,here,short⟩

theorem count_closed {lines : List (List UInt8)} (single : ∀line∈lines,newline∉line) :
    (closed lines).count newline=lines.length := by
  induction lines with
  | nil => rfl
  | cons line lines ih =>
    have later := ih fun other mem => single other (List.mem_cons_of_mem line mem)
    have here := List.count_eq_zero_of_not_mem (single line List.mem_cons_self)
    have split : closed (line::lines)=(line++[newline])++closed lines := List.flatMap_cons
    rw [split,List.count_append,List.count_append,here,later,List.count_singleton_self,
      List.length_cons]
    omega

/-- Of lines that are cut there are no more than the cut has left. -/
theorem count_cut {lines more : List (List UInt8)} (single : ∀line∈lines,newline∉line)
    (others : ∀line∈more,newline∉line) {rest : List UInt8} (clear : newline∉rest)
    (inside : closed lines <+: closed more++rest) : lines.length ≤ more.length := by
  have counts := inside.sublist.count_le newline
  rw [List.count_append,count_closed single,count_closed others,
    List.count_eq_zero_of_not_mem clear] at counts
  exact counts

/-- The part that is left has no newline. -/
theorem Part.single {lines : List (List UInt8)} {n : Nat} {rest : List UInt8}
    (part : Part lines n rest) (single : ∀line∈lines,newline∉line) : newline∉rest := by
  rcases part.inside with rfl|⟨line,here,short⟩
  · exact List.not_mem_nil
  · exact fun mem => single line (List.mem_of_getElem? here) (short.subset mem)

/-- What is read of lines that are cut: those that are whole, and what becomes of the part. -/
theorem results_part {lines : List (List UInt8)} (single : ∀line∈lines,newline∉line) {n : Nat}
    {rest : List UInt8} (part : Part lines n rest) {chunks : List (List UInt8)}
    (filled : ∀chunk∈chunks,chunk≠[]) (joined : chunks.flatten=closed (lines.take n)++rest)
    (ending : List (Except ε (List UInt8))) : results (chunks.map .ok++ending) []=
      (lines.take n).map (fun line => .ok (line++[newline]))++results ending rest := by
  have few : ∀line∈lines.take n,newline∉line := fun line mem =>
    single line (List.mem_of_mem_take mem)
  obtain ⟨none,whole⟩ := rawLines_open [] rest (part.single single)
  obtain ⟨raw,left⟩ := rawLines_rest few rest
  rw [results_chunks filled,joined,raw,left,none,whole,List.append_nil,List.nil_append]

end LineReader

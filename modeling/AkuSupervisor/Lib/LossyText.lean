import AkuSupervisor.Lib.TextLines

/-! Text decoded with replacement characters: line ends are where the bytes have them. -/

namespace TextLines

theorem isContinuation_ascii {b : UInt8} (ascii : b.toNat < 128) : isContinuation b=false := by
  simp only [isContinuation,UInt8.le_iff_toNat_le,Bool.and_eq_false_iff,decide_eq_false_iff_not]
  exact .inl (by simpa using ascii)

theorem isSecond_range {a b : UInt8} (second : isSecond a b=true) :
    128 ≤ b.toNat ∧ b.toNat ≤ 191 ∧ (a=0xE0 → 160 ≤ b.toNat) ∧ (a=0xF0 → 144 ≤ b.toNat) := by
  unfold isSecond at second
  split_ifs at second with h1 h2 h3 h4
  all_goals simp only [isContinuation,UInt8.le_iff_toNat_le,Bool.and_eq_true,decide_eq_true_eq,
    UInt8.reduceToNat] at second
  all_goals subst_vars
  all_goals refine ⟨by omega,by omega,fun same => ?_,fun same => ?_⟩
  all_goals first
    | omega
    | exact absurd same (by decide)
    | exact absurd same ‹_›

theorem isSecond_ascii (a : UInt8) {b : UInt8} (ascii : b.toNat < 128) : isSecond a b=false := by
  by_contra second
  have range := isSecond_range (Bool.of_not_eq_false second)
  omega

/-- The first character of what `lossyChars` decodes, and the bytes it leaves. -/
def lossyStep (a : UInt8) (rest : List UInt8) : Char × List UInt8 :=
  if a<0x80 then (Char.ofNat a.toNat,rest)
  else if 0xC2≤a ∧ a≤0xDF then
    match rest with
    | b::more =>
      if isContinuation b then (multiByte (a.toNat%32) [b],more) else ('\uFFFD',b::more)
    | [] => ('\uFFFD',[])
  else if 0xE0≤a ∧ a≤0xEF then
    match rest with
    | b::c::more =>
      if isSecond a b then
        if isContinuation c then (multiByte (a.toNat%16) [b,c],more) else ('\uFFFD',c::more)
      else ('\uFFFD',b::c::more)
    | [b] => ('\uFFFD',if isSecond a b then [] else [b])
    | [] => ('\uFFFD',[])
  else if 0xF0≤a ∧ a≤0xF4 then
    match rest with
    | b::c::d::more =>
      if isSecond a b then
        if isContinuation c then
          if isContinuation d then (multiByte (a.toNat%8) [b,c,d],more) else ('\uFFFD',d::more)
        else ('\uFFFD',c::d::more)
      else ('\uFFFD',b::c::d::more)
    | [b,c] => ('\uFFFD',if isSecond a b then if isContinuation c then [] else [c] else [b,c])
    | [b] => ('\uFFFD',if isSecond a b then [] else [b])
    | [] => ('\uFFFD',[])
  else ('\uFFFD',rest)

theorem lossyChars_cons (a : UInt8) (rest : List UInt8) :
    lossyChars (a::rest)=(lossyStep a rest).1::lossyChars (lossyStep a rest).2 := by
  rw [lossyChars.eq_def]
  unfold lossyStep
  simp only
  have nothing : lossyChars []=[] := by rw [lossyChars]
  split_ifs
  · rfl
  · rcases rest with _|⟨b,more⟩
    · simp only [nothing]
    · simp only
      split_ifs <;> rfl
  · rcases rest with _|⟨b,_|⟨c,more⟩⟩
    · simp only [nothing]
    · simp only
      split_ifs <;> simp only [nothing]
    · simp only
      split_ifs <;> rfl
  · rcases rest with _|⟨b,_|⟨c,_|⟨d,more⟩⟩⟩
    · simp only [nothing]
    · simp only
      split_ifs <;> simp only [nothing]
    · simp only
      split_ifs <;> simp only [nothing]
    · simp only
      split_ifs <;> rfl
  · rfl

theorem lossyStep_suffix (a : UInt8) (rest : List UInt8) : (lossyStep a rest).2 <:+ rest := by
  unfold lossyStep
  split_ifs
  · exact List.suffix_refl _
  · rcases rest with _|⟨b,more⟩
    · exact List.suffix_refl _
    · simp only
      split_ifs <;> simp
  · rcases rest with _|⟨b,_|⟨c,more⟩⟩
    · exact List.suffix_refl _
    · simp only
      split_ifs <;> simp
    · simp only
      split_ifs <;> simp [List.suffix_cons_iff]
  · rcases rest with _|⟨b,_|⟨c,_|⟨d,more⟩⟩⟩
    · exact List.suffix_refl _
    · simp only
      split_ifs <;> simp
    · simp only
      split_ifs <;> simp [List.suffix_cons_iff]
    · simp only
      split_ifs <;> simp [List.suffix_cons_iff]
  · exact List.suffix_refl _

/-- An ASCII byte further on changes nothing of the first character. -/
theorem lossyStep_append (a : UInt8) (rest more : List UInt8) {b : UInt8} (ascii : b.toNat < 128) :
    lossyStep a (rest++b::more)=((lossyStep a rest).1,(lossyStep a rest).2++b::more) := by
  have alone := isContinuation_ascii ascii
  have second := isSecond_ascii a ascii
  unfold lossyStep
  split_ifs
  · rfl
  · rcases rest with _|⟨b,rest⟩
    · simp [alone]
    · simp only [List.cons_append]
      split_ifs <;> rfl
  · rcases rest with _|⟨b,_|⟨c,rest⟩⟩
    · cases more <;> simp [second]
    · simp only [List.cons_append,List.nil_append]
      split_ifs <;> simp_all
    · simp only [List.cons_append]
      split_ifs <;> rfl
  · rcases rest with _|⟨b,_|⟨c,_|⟨d,rest⟩⟩⟩
    · rcases more with _|⟨_,_|⟨_,_⟩⟩ <;> simp [second]
    · cases more <;> simp only [List.cons_append,List.nil_append] <;> split_ifs <;> simp_all
    · simp only [List.cons_append,List.nil_append]
      split_ifs <;> simp_all
    · simp only [List.cons_append]
      split_ifs <;> rfl
  · rfl

/-- Bytes before an ASCII byte are decoded as they are alone. -/
theorem lossyChars_append (a rest : List UInt8) {b : UInt8} (ascii : b.toNat < 128) :
    lossyChars (a++b::rest)=lossyChars a++lossyChars (b::rest) := by
  induction length : a.length using Nat.strongRecOn generalizing a with
  | _ n ih =>
    cases a with
    | nil => rw [lossyChars.eq_def []]; rfl
    | cons first more =>
      have shorter := (lossyStep_suffix first more).length_le
      have later := ih _ (by rw [← length,List.length_cons]; omega) (lossyStep first more).2 rfl
      rw [List.cons_append,lossyChars_cons,lossyChars_cons first more,
        lossyStep_append first more rest ascii,later]
      rfl

theorem toNat_ofNat_small {k : Nat} (low : k < 128) : (Char.ofNat k).toNat=k := by
  have valid : k.isValidChar := .inl (by omega)
  unfold Char.ofNat
  rw [dif_pos valid]
  rfl

theorem ofNat_apart {n k : Nat} (high : 128 ≤ n) (low : k < 128) (some : k≠0) :
    Char.ofNat n≠Char.ofNat k := by
  intro same
  have codes := congrArg Char.toNat same
  rw [toNat_ofNat_small low] at codes
  by_cases valid : n.isValidChar
  · have plain : (Char.ofNat n).toNat=n := by
      unfold Char.ofNat
      rw [dif_pos valid]
      rfl
    omega
  · have default : (Char.ofNat n).toNat=0 := by
      unfold Char.ofNat
      rw [dif_neg valid]
      rfl
    exact some (codes.symm.trans default)

theorem multiByte_two {a b : UInt8} (two : 0xC2≤a ∧ a≤0xDF) :
    ∃n,128 ≤ n ∧ multiByte (a.toNat%32) [b]=Char.ofNat n := by
  simp only [UInt8.le_iff_toNat_le,UInt8.reduceToNat] at two
  refine ⟨_,?_,rfl⟩
  simp only [List.foldl_cons,List.foldl_nil]
  omega

theorem multiByte_three {a b c : UInt8} (three : 0xE0≤a ∧ a≤0xEF) (second : isSecond a b=true) :
    ∃n,128 ≤ n ∧ multiByte (a.toNat%16) [b,c]=Char.ofNat n := by
  obtain ⟨low,high,least,-⟩ := isSecond_range second
  rw [← UInt8.toNat_inj] at least
  simp only [UInt8.le_iff_toNat_le,UInt8.reduceToNat] at three least
  refine ⟨_,?_,rfl⟩
  simp only [List.foldl_cons,List.foldl_nil]
  by_cases first : a.toNat=224
  · have large := least first
    omega
  · omega

theorem multiByte_four {a b c d : UInt8} (four : 0xF0≤a ∧ a≤0xF4) (second : isSecond a b=true) :
    ∃n,128 ≤ n ∧ multiByte (a.toNat%8) [b,c,d]=Char.ofNat n := by
  obtain ⟨low,high,-,least⟩ := isSecond_range second
  rw [← UInt8.toNat_inj] at least
  simp only [UInt8.le_iff_toNat_le,UInt8.reduceToNat] at four least
  refine ⟨_,?_,rfl⟩
  simp only [List.foldl_cons,List.foldl_nil]
  by_cases first : a.toNat=240
  · have large := least first
    omega
  · omega

/-- The first character is ASCII only where the first byte is. -/
theorem lossyStep_char (a : UInt8) (rest : List UInt8) :
    (a.toNat < 128 ∧ lossyStep a rest=(Char.ofNat a.toNat,rest)) ∨
      ∃n,128 ≤ n ∧ (lossyStep a rest).1=Char.ofNat n := by
  have replacement : ∃n,128 ≤ n ∧ '\uFFFD' =Char.ofNat n := ⟨0xFFFD,by decide,by decide⟩
  unfold lossyStep
  split_ifs with low two three four
  · rw [UInt8.lt_iff_toNat_lt] at low
    exact .inl ⟨low,rfl⟩
  · right
    rcases rest with _|⟨b,more⟩
    · exact replacement
    · simp only
      split_ifs
      · exact multiByte_two two
      · exact replacement
  · right
    rcases rest with _|⟨b,_|⟨c,more⟩⟩
    · exact replacement
    · exact replacement
    · simp only
      split_ifs with second
      · exact multiByte_three three second
      · exact replacement
      · exact replacement
  · right
    rcases rest with _|⟨b,_|⟨c,_|⟨d,more⟩⟩⟩
    · exact replacement
    · exact replacement
    · exact replacement
    · simp only
      split_ifs with second
      · exact multiByte_four four second
      all_goals exact replacement
  · exact .inr replacement

/-- An ASCII character comes from its own byte only. -/
theorem mem_lossyChars {bytes : List UInt8} {b : UInt8} (ascii : b.toNat < 128) (some : b≠0)
    (mem : Char.ofNat b.toNat∈lossyChars bytes) : b∈bytes := by
  have some' : b.toNat≠0 := fun zero => some (UInt8.toNat_inj.mp zero)
  induction length : bytes.length using Nat.strongRecOn generalizing bytes with
  | _ n ih =>
    cases bytes with
    | nil =>
      rw [lossyChars.eq_def] at mem
      cases mem
    | cons first more =>
      have suffix := lossyStep_suffix first more
      rw [lossyChars_cons] at mem
      rcases List.mem_cons.mp mem with here|later
      · rcases lossyStep_char first more with ⟨low,step⟩|⟨n,high,step⟩
        · rw [step] at here
          have codes := congrArg Char.toNat here
          rw [toNat_ofNat_small ascii,toNat_ofNat_small low] at codes
          rw [UInt8.toNat_inj.mp codes]
          exact List.mem_cons_self
        · rw [step] at here
          exact absurd here.symm (ofNat_apart high ascii some')
      · have shorter := suffix.length_le
        have inside := ih _ (by rw [← length,List.length_cons]; omega) later rfl
        exact List.mem_cons_of_mem first (suffix.subset inside)

theorem lossyChars_nil : lossyChars []=[] := by rw [lossyChars.eq_def]

theorem lossyChars_ascii {b : UInt8} (ascii : b.toNat < 128) (rest : List UInt8) :
    lossyChars (b::rest)=Char.ofNat b.toNat::lossyChars rest := by
  have low : b < 0x80 := UInt8.lt_iff_toNat_lt.mpr ascii
  rw [lossyChars.eq_def]
  simp only [if_pos low]

theorem lossyChars_split (line rest : List UInt8) {b : UInt8} (ascii : b.toNat < 128) :
    lossyChars (line++b::rest)=lossyChars line++Char.ofNat b.toNat::lossyChars rest := by
  rw [lossyChars_append line rest ascii,lossyChars_ascii ascii]

theorem lossyChars_ne_nil {bytes : List UInt8} (some : bytes≠[]) : lossyChars bytes≠[] := by
  obtain ⟨first,more,rfl⟩ := List.exists_cons_of_ne_nil some
  rw [lossyChars_cons]
  exact List.cons_ne_nil _ _

/-- The text of a line ends with a carriage return where its bytes do. -/
theorem lossyChars_dropReturn (line : List UInt8) :
    (if (lossyChars line).getLast?=some '\r' then (lossyChars line).dropLast
      else lossyChars line)=lossyChars (dropReturn line) := by
  have ascii : carriageReturn.toNat < 128 := by decide
  by_cases ends : line.getLast?=some carriageReturn
  · obtain ⟨front,rfl⟩ := List.getLast?_eq_some_iff.mp ends
    have chars : lossyChars (front++[carriageReturn])=lossyChars front++['\r'] := by
      rw [lossyChars_split front [] ascii,lossyChars_nil]
      rfl
    rw [dropReturn,if_pos ends,List.dropLast_concat,chars,List.getLast?_concat,
      List.dropLast_concat,if_pos rfl]
  · rw [dropReturn,if_neg ends,if_neg]
    intro last
    have mem : carriageReturn∈line := mem_lossyChars ascii (by decide) (List.mem_of_getLast? last)
    obtain ⟨behind,front,split,clear⟩ := List.eq_append_cons_of_mem (List.mem_reverse.mpr mem)
    have line_eq : line=front.reverse++carriageReturn::behind.reverse := by
      rw [← line.reverse_reverse,split]
      simp
    -- the last carriage return of the bytes has something behind it, and that is decoded last
    rcases List.eq_nil_or_concat behind with rfl|⟨_,_,rfl⟩
    · rw [line_eq] at ends
      simp at ends
    · rw [line_eq,lossyChars_split _ _ ascii,List.getLast?_append_of_ne_nil _ (List.cons_ne_nil _ _),
        List.getLast?_cons_of_ne_nil (lossyChars_ne_nil (by simp))] at last
      have inside := mem_lossyChars ascii (by decide) (List.mem_of_getLast? last)
      exact clear (List.mem_reverse.mp inside)

theorem textLinesFrom_cut (current rest : List Char) {chars : List Char} (single : '\n'∉chars) :
    textLinesFrom current (chars++ '\n' ::rest)=
      (if (current++chars).getLast?=some '\r' then (current++chars).dropLast
        else current++chars)::textLinesFrom [] rest := by
  induction chars generalizing current with
  | nil => simp [textLinesFrom]
  | cons c chars ih =>
    obtain ⟨other,later⟩ := not_or.mp fun mem => single (List.mem_cons.mpr mem)
    rw [List.cons_append,textLinesFrom,if_neg (Ne.symm other),ih _ later,List.append_assoc]
    rfl

/-- The lines of a text whose last line is ended are the lines of the bytes. -/
theorem textLines_decodeLossy {bytes : List UInt8} (ended : Ended bytes) :
    textLines (decodeLossy bytes)=(rawLines [] bytes).map fun line => decodeLossy (dropReturn line) := by
  rw [textLines,decodeLossy,String.toList_ofList]
  induction length : bytes.length using Nat.strongRecOn generalizing bytes with
  | _ n ih =>
    by_cases mem : newline∈bytes
    · obtain ⟨line,rest,rfl,single⟩ := List.eq_append_cons_of_mem mem
      have raw : rawLines [] (line++newline::rest)=line::rawLines [] rest := by
        have opened := rawLines_open [] line single
        rw [rawLines_append,opened.1,opened.2]
        simp [rawLines]
      have later : Ended rest := by
        rcases ended with none|last
        · simp at none
        · rw [List.getLast?_append_of_ne_nil _ (List.cons_ne_nil _ _)] at last
          by_cases none : rest=[]
          · exact .inl none
          · exact .inr (List.getLast?_cons_of_ne_nil none ▸ last)
      have single' : '\n' ∉lossyChars line := fun inside =>
        single (mem_lossyChars (by decide) (by decide) inside)
      have next := ih _ (by rw [← length]; simp; omega) later rfl
      have chars : lossyChars (line++newline::rest)=lossyChars line++ '\n' ::lossyChars rest :=
        lossyChars_split line rest (by decide)
      rw [raw,chars,textLinesFrom_cut [] _ single',List.nil_append,
        lossyChars_dropReturn,List.map_cons,List.map_cons,next]
      rfl
    · rcases ended with rfl|last
      · rw [lossyChars_nil]
        rfl
      · exact absurd (List.mem_of_getLast? last) mem

end TextLines

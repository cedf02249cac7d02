import AkuSupervisor.Lib.VariableBlock
import AkuSupervisor.Platform.CommandLine
import Mathlib.Data.List.Induction
import Mathlib.Data.String.Basic
import Std.Data.ExtTreeMap

namespace AkuSupervisor

open VariableBlock

def isHighSurrogate (u : UInt16) : Bool := 0xD800≤u && u<0xDC00

def isLowSurrogate (u : UInt16) : Bool := 0xDC00≤u && u<0xE000

/-- The character of one unit, that replaces a surrogate. -/
def unitChar (u : UInt16) : Char :=
  if isHighSurrogate u || isLowSurrogate u then '\uFFFD' else Char.ofNat u.toNat

def toStringLossy : List UInt16 → List Char
  | [] => []
  | [u] => [unitChar u]
  | u::v::wide =>
    if isHighSurrogate u && isLowSurrogate v then
      Char.ofNat (0x10000+(u.toNat-0xD800)*0x400+(v.toNat-0xDC00))::toStringLossy wide
    else unitChar u::toStringLossy (v::wide)

section Block

variable (toUppercase : Char → List Char)

/-- The upper case of a name, where `toUppercase` gives the characters that one character becomes. -/
def environmentKey (key : List UInt16) : String :=
  String.ofList ((toStringLossy key).flatMap toUppercase)

def wideWithoutNul (value : List UInt16) (label : String) : Except String (List UInt16) :=
  if 0∈value then .error s!"{label} contains NUL" else .ok value

abbrev Environment := Std.ExtTreeMap String Variable

def inheritVariables (varsOs : List Variable) : Environment :=
  varsOs.foldl (fun environment v => environment.insert (environmentKey toUppercase v.1) v) ∅

def applyChange (environment : Environment) (change : List UInt16 × Option (List UInt16)) :
    Environment :=
  match change.2 with
  | some value => environment.insert (environmentKey toUppercase change.1) (change.1,value)
  | none => environment.erase (environmentKey toUppercase change.1)

def appendVariable (block : List UInt16) (v : Variable) : Except String (List UInt16) := do
  let key ← wideWithoutNul v.1 "environment key"
  if key=[] ∨ equals∈key then throw "environment key is empty or contains '='"
  let value ← wideWithoutNul v.2 "environment value"
  return block++key++[equals]++value++[0]

/-- The block for `CreateProcessW`, or none when the variables of this process are inherited as they
are. `varsOs` is what `std::env::vars_os` gives. -/
def buildEnvironmentBlock (varsOs : List Variable) (command : Command) :
    Except String (Option (List UInt16)) := do
  if command.envs=[] then return none
  let environment := command.envs.foldl (applyChange toUppercase)
    (inheritVariables toUppercase varsOs)
  let block ← (environment.toList.map (·.2)).foldlM appendVariable []
  let block := block++[0]
  return some (if block.length=1 then block++[0] else block)

/-- The last change of a variable whose name has this key. -/
def lastChange (envs : List (List UInt16 × Option (List UInt16))) (key : String) :
    Option (List UInt16 × Option (List UInt16)) :=
  (envs.filter fun change => environmentKey toUppercase change.1=key).getLast?

/-- A variable of the updated environment: one that the changes set, or an inherited one that they
leave alone. -/
def IsUpdated (varsOs : List Variable) (envs : List (List UInt16 × Option (List UInt16)))
    (v : Variable) : Prop :=
  lastChange toUppercase envs (environmentKey toUppercase v.1)=some (v.1,some v.2) ∨
    v∈varsOs ∧ lastChange toUppercase envs (environmentKey toUppercase v.1)=none

/-- The block holds the updated environment, one variable for each key in the order of the keys. -/
def HoldsUpdated (varsOs : List Variable) (envs : List (List UInt16 × Option (List UInt16)))
    (block : List UInt16) : Prop :=
  ∃vars,decode block=some vars ∧ (∀v,v∈vars ↔ IsUpdated toUppercase varsOs envs v) ∧
    vars.Pairwise fun v w => environmentKey toUppercase v.1<environmentKey toUppercase w.1

/-- The child gets the updated environment: in a block, or by inheritance when there is no change. -/
def GetsUpdated (varsOs : List Variable) (command : Command) : Prop :=
  ∃block?,buildEnvironmentBlock toUppercase varsOs command=.ok block? ∧
    (block?=none → command.envs=[]) ∧
    ∀block∈block?,HoldsUpdated toUppercase varsOs command.envs block

/-- Changes whose names and values a block can hold. -/
def ValidChanges (envs : List (List UInt16 × Option (List UInt16))) : Prop :=
  ∀change∈envs,change.1≠[] ∧ equals∉change.1 ∧ 0∉change.1 ∧ ∀value∈change.2,0∉value

variable {toUppercase} {varsOs : List Variable}
  {envs : List (List UInt16 × Option (List UInt16))}

/-- Each variable stands under the key of its name. -/
def Keyed (toUppercase : Char → List Char) (environment : Environment) : Prop :=
  ∀key v,environment[key]?=some v → environmentKey toUppercase v.1=key

theorem keyed_insert {environment : Environment} (keyed : Keyed toUppercase environment)
    (v : Variable) : Keyed toUppercase (environment.insert (environmentKey toUppercase v.1) v) := by
  intro key w found
  rw [Std.ExtTreeMap.getElem?_insert] at found
  split_ifs at found with same
  · cases found
    simpa using same
  · exact keyed key w found

theorem keyed_erase {environment : Environment} (keyed : Keyed toUppercase environment)
    (key : String) : Keyed toUppercase (environment.erase key) := by
  intro other v found
  rw [Std.ExtTreeMap.getElem?_erase] at found
  split_ifs at found
  exact keyed other v found

theorem inheritVariables_append (v : Variable) :
    inheritVariables toUppercase (varsOs++[v])=
      (inheritVariables toUppercase varsOs).insert (environmentKey toUppercase v.1) v := by
  simp [inheritVariables]

theorem keyed_inheritVariables (toUppercase : Char → List Char) (varsOs : List Variable) :
    Keyed toUppercase (inheritVariables toUppercase varsOs) := by
  induction varsOs using List.reverseRecOn with
  | nil => simp [Keyed,inheritVariables]
  | append_singleton varsOs v ih =>
    rw [inheritVariables_append]
    exact keyed_insert ih v

/-- Under a key stands the last inherited variable that has it. -/
theorem getElem?_inheritVariables (varsOs : List Variable) (key : String) :
    (inheritVariables toUppercase varsOs)[key]?=
      (varsOs.filter fun v => environmentKey toUppercase v.1=key).getLast? := by
  induction varsOs using List.reverseRecOn with
  | nil => simp [inheritVariables]
  | append_singleton varsOs v ih =>
    rw [inheritVariables_append,Std.ExtTreeMap.getElem?_insert,ih]
    by_cases same : environmentKey toUppercase v.1=key <;> simp [List.filter_append,same]

theorem keyed_changes (envs : List (List UInt16 × Option (List UInt16)))
    (environment : Environment) (keyed : Keyed toUppercase environment) :
    Keyed toUppercase (envs.foldl (applyChange toUppercase) environment) := by
  induction envs using List.reverseRecOn with
  | nil => exact keyed
  | append_singleton envs change ih =>
    rw [List.foldl_append]
    show Keyed toUppercase (applyChange toUppercase _ change)
    unfold applyChange
    cases change.2 with
    | none => exact keyed_erase ih _
    | some value => exact keyed_insert ih (change.1,value)

/-- Under a key stands what its last change has set, or what stood there before any change. -/
theorem getElem?_changes (environment : Environment) (key : String) :
    (envs.foldl (applyChange toUppercase) environment)[key]?=
      match lastChange toUppercase envs key with
      | some change => change.2.map (change.1,·)
      | none => environment[key]? := by
  induction envs using List.reverseRecOn with
  | nil => rfl
  | append_singleton envs change ih =>
    rw [List.foldl_append]
    show (applyChange toUppercase _ change)[key]?=_
    obtain ⟨name,value⟩ := change
    by_cases same : environmentKey toUppercase name=key
    · have last : lastChange toUppercase (envs++[(name,value)]) key=some (name,value) := by
        simp [lastChange,List.filter_append,same]
      rw [last]
      cases value <;> simp [applyChange,same]
    · have last : lastChange toUppercase (envs++[(name,value)]) key=
          lastChange toUppercase envs key := by
        simp [lastChange,List.filter_append,same]
      rw [last,← ih]
      cases value <;>
        simp [applyChange,same,Std.ExtTreeMap.getElem?_erase,Std.ExtTreeMap.getElem?_insert]

/-- The variables in the order of their keys. -/
def updatedVariables (toUppercase : Char → List Char) (varsOs : List Variable)
    (envs : List (List UInt16 × Option (List UInt16))) : List Variable :=
  (envs.foldl (applyChange toUppercase) (inheritVariables toUppercase varsOs)).toList.map (·.2)

theorem mem_updatedVariables (v : Variable) :
    v∈updatedVariables toUppercase varsOs envs ↔
      (envs.foldl (applyChange toUppercase) (inheritVariables toUppercase varsOs))[
        environmentKey toUppercase v.1]?=some v := by
  have keyed := keyed_changes envs _ (keyed_inheritVariables toUppercase varsOs)
  simp only [updatedVariables,List.mem_map]
  constructor
  · rintro ⟨⟨key,w⟩,mem,rfl⟩
    have found := Std.ExtTreeMap.mem_toList_iff_getElem?_eq_some.mp mem
    rw [keyed key w found]
    exact found
  · intro found
    exact ⟨_,Std.ExtTreeMap.mem_toList_iff_getElem?_eq_some.mpr found,rfl⟩

theorem updatedVariables_sorted :
    (updatedVariables toUppercase varsOs envs).Pairwise fun v w =>
      environmentKey toUppercase v.1<environmentKey toUppercase w.1 := by
  have keyed := keyed_changes envs _ (keyed_inheritVariables toUppercase varsOs)
  have ordered := Std.ExtTreeMap.ordered_keys_toList
    (t := envs.foldl (applyChange toUppercase) (inheritVariables toUppercase varsOs))
  rw [updatedVariables,List.pairwise_map]
  apply ordered.imp_of_mem
  intro a b first second less
  rw [keyed a.1 a.2 (Std.ExtTreeMap.mem_toList_iff_getElem?_eq_some.mp first),
    keyed b.1 b.2 (Std.ExtTreeMap.mem_toList_iff_getElem?_eq_some.mp second)]
  exact compare_lt_iff_lt.mp less

/-- A variable that is written into the block. -/
structure Clean (v : Variable) : Prop where
  named : v.1≠[]
  unsplit : equals∉v.1
  name : 0∉v.1
  value : 0∉v.2

theorem Clean.storable {v : Variable} (clean : Clean v) : Storable v :=
  ⟨clean.named,fun mem => clean.unsplit (List.mem_of_mem_tail mem),clean.name,clean.value⟩

theorem appendVariable_ok (block : List UInt16) {v : Variable} (clean : Clean v) :
    appendVariable block v=.ok (block++(text v++[0])) := by
  have named := clean.named
  have unsplit := clean.unsplit
  simp [appendVariable,wideWithoutNul,clean.name,clean.value,named,unsplit,text,bind,Except.bind,
    pure,Except.pure]

theorem clean_of_append {block longer : List UInt16} {v : Variable}
    (appended : appendVariable block v=.ok longer) : Clean v := by
  by_cases name : 0∈v.1
  · simp [appendVariable,wideWithoutNul,name,bind,Except.bind] at appended
  by_cases refused : v.1=[] ∨ equals∈v.1
  · simp [appendVariable,wideWithoutNul,name,refused,bind,Except.bind,throw,throwThe,
      MonadExceptOf.throw] at appended
  by_cases value : 0∈v.2
  · simp [appendVariable,wideWithoutNul,name,refused,value,bind,Except.bind] at appended
  obtain ⟨named,unsplit⟩ := not_or.mp refused
  exact ⟨named,unsplit,name,value⟩

theorem appendVariables_ok (vars : List Variable) (clean : ∀v∈vars,Clean v)
    (block : List UInt16) :
    vars.foldlM appendVariable block=.ok (block++vars.flatMap fun v => text v++[0]) := by
  induction vars generalizing block with
  | nil => simp [pure,Except.pure]
  | cons v vars ih =>
    rw [List.foldlM_cons,appendVariable_ok block (clean v List.mem_cons_self)]
    have later := ih (fun w mem => clean w (List.mem_cons_of_mem v mem)) (block++(text v++[0]))
    show vars.foldlM appendVariable (block++(text v++[0]))=_
    simpa only [List.flatMap_cons,List.append_assoc] using later

theorem clean_of_appends {vars : List Variable} {block longer : List UInt16}
    (appended : vars.foldlM appendVariable block=.ok longer) : ∀v∈vars,Clean v := by
  induction vars generalizing block with
  | nil => simp
  | cons v vars ih =>
    rw [List.foldlM_cons] at appended
    cases first : appendVariable block v with
    | error message =>
      rw [first] at appended
      cases appended
    | ok next =>
      rw [first] at appended
      intro w mem
      rcases List.mem_cons.mp mem with rfl|later
      · exact clean_of_append first
      · exact ih appended w later

/-- With a change, the block is built exactly when each variable can be written into it. -/
theorem buildEnvironmentBlock_ok {command : Command} (changes : command.envs≠[])
    (clean : ∀v∈updatedVariables toUppercase varsOs command.envs,Clean v) :
    buildEnvironmentBlock toUppercase varsOs command=
      .ok (some ((updatedVariables toUppercase varsOs command.envs).flatMap (fun v => text v++[0])++
        0::(if updatedVariables toUppercase varsOs command.envs=[] then [0] else []))) := by
  have appended := appendVariables_ok _ clean []
  unfold updatedVariables at appended ⊢
  unfold buildEnvironmentBlock
  rw [if_neg changes]
  simp only [appended,bind,Except.bind,pure,Except.pure]
  generalize (command.envs.foldl (applyChange toUppercase)
    (inheritVariables toUppercase varsOs)).toList.map (·.2)=vars
  cases vars with
  | nil => rfl
  | cons v vars =>
    simp [text]
    omega

theorem clean_of_build {command : Command} (changes : command.envs≠[])
    {block? : Option (List UInt16)}
    (built : buildEnvironmentBlock toUppercase varsOs command=.ok block?) :
    ∀v∈updatedVariables toUppercase varsOs command.envs,Clean v := by
  unfold buildEnvironmentBlock at built
  rw [if_neg changes] at built
  cases appended : (updatedVariables toUppercase varsOs command.envs).foldlM appendVariable [] with
  | error message =>
    unfold updatedVariables at appended
    simp [appended,bind,Except.bind] at built
  | ok block => exact clean_of_appends appended

/-- An inherited variable that the changes leave alone. -/
def Kept (toUppercase : Char → List Char) (varsOs : List Variable)
    (envs : List (List UInt16 × Option (List UInt16))) (v : Variable) : Prop :=
  v∈varsOs ∧ lastChange toUppercase envs (environmentKey toUppercase v.1)=none

/-- What is written is what the changes set, and inherited variables that they leave alone. -/
theorem updated_of_mem {v : Variable} (mem : v∈updatedVariables toUppercase varsOs envs) :
    IsUpdated toUppercase varsOs envs v := by
  have found := (mem_updatedVariables v).mp mem
  rw [getElem?_changes] at found
  cases last : lastChange toUppercase envs (environmentKey toUppercase v.1) with
  | some change =>
    simp only [last,Option.map_eq_some_iff] at found
    obtain ⟨value,set,rfl⟩ := found
    obtain ⟨name,set'⟩ := change
    cases set
    exact .inl last
  | none =>
    simp only [last,getElem?_inheritVariables] at found
    exact .inr ⟨List.mem_of_mem_filter (List.mem_of_getLast? found),last⟩

theorem mem_of_set {v : Variable}
    (set : lastChange toUppercase envs (environmentKey toUppercase v.1)=some (v.1,some v.2)) :
    v∈updatedVariables toUppercase varsOs envs := by
  rw [mem_updatedVariables,getElem?_changes,set]
  rfl

/-- A variable that is left alone is written if no other one that is has its key. -/
theorem mem_of_kept {v : Variable} (kept : Kept toUppercase varsOs envs v)
    (alone : ∀w,Kept toUppercase varsOs envs w →
      environmentKey toUppercase w.1=environmentKey toUppercase v.1 → w=v) :
    v∈updatedVariables toUppercase varsOs envs := by
  obtain ⟨inherited,last⟩ := kept
  rw [mem_updatedVariables,getElem?_changes,last]
  simp only [getElem?_inheritVariables]
  have here : v∈varsOs.filter fun w => environmentKey toUppercase w.1=environmentKey toUppercase v.1 :=
    List.mem_filter.mpr ⟨inherited,by simp⟩
  obtain ⟨w,final⟩ := Option.isSome_iff_exists.mp (List.getLast?_isSome.mpr
    (List.ne_nil_of_mem here))
  have chosen := List.mem_filter.mp (List.mem_of_getLast? final)
  have same : environmentKey toUppercase w.1=environmentKey toUppercase v.1 := by
    simpa using chosen.2
  rw [final,alone w ⟨chosen.1,by rw [same]; exact last⟩ same]

theorem lastChange_mem {key : String} {change : List UInt16 × Option (List UInt16)}
    (last : lastChange toUppercase envs key=some change) : change∈envs :=
  List.mem_of_mem_filter (List.mem_of_getLast? last)

/-- The child gets the updated environment exactly when there is no change, or when the inherited
variables that the changes leave alone have no equals sign in their names and keys of their own. -/
theorem buildEnvironmentBlock_updates (toUppercase : Char → List Char) (varsOs : List Variable)
    (supplied : ∀v∈varsOs,Storable v) (command : Command) (valid : ValidChanges command.envs) :
    GetsUpdated toUppercase varsOs command ↔ command.envs=[] ∨
      (∀v,Kept toUppercase varsOs command.envs v → equals∉v.1) ∧
      ∀v w,Kept toUppercase varsOs command.envs v → Kept toUppercase varsOs command.envs w →
        environmentKey toUppercase v.1=environmentKey toUppercase w.1 → v=w := by
  by_cases changes : command.envs=[]
  · refine ⟨fun _ => .inl changes,fun _ => ⟨none,?_,fun _ => changes,by simp⟩⟩
    rw [buildEnvironmentBlock,if_pos changes]
    rfl
  constructor
  · rintro ⟨block?,built,inherits,holds⟩
    have clean := clean_of_build changes built
    rw [buildEnvironmentBlock_ok changes clean] at built
    cases built
    obtain ⟨vars,decoded,members,-⟩ := holds _ rfl
    rw [decode_vars fun v mem => (clean v mem).storable] at decoded
    cases decoded
    have written (v : Variable) (kept : Kept toUppercase varsOs command.envs v) :
        v∈updatedVariables toUppercase varsOs command.envs := (members v).mpr (.inr kept)
    refine .inr ⟨fun v kept => (clean v (written v kept)).unsplit,fun v w first second same => ?_⟩
    have one := (mem_updatedVariables v).mp (written v first)
    have two := (mem_updatedVariables w).mp (written w second)
    rw [same,two] at one
    cases one
    rfl
  · rintro (none|⟨unsplit,apart⟩)
    · exact absurd none changes
    have clean : ∀v∈updatedVariables toUppercase varsOs command.envs,Clean v := by
      intro v mem
      rcases updated_of_mem mem with set|kept
      · obtain ⟨named,unsplit,name,value⟩ := valid _ (lastChange_mem set)
        exact ⟨named,unsplit,name,value v.2 rfl⟩
      · have storable := supplied v kept.1
        exact ⟨storable.named,unsplit v kept,storable.name,storable.value⟩
    refine ⟨_,buildEnvironmentBlock_ok changes clean,fun none => (by cases none),
      fun block mem => ?_⟩
    cases mem
    refine ⟨_,decode_vars fun v mem => (clean v mem).storable,fun v => ⟨updated_of_mem,?_⟩,
      updatedVariables_sorted⟩
    rintro (set|kept)
    · exact mem_of_set set
    · exact mem_of_kept kept fun w other same => apart w v other kept same

end Block

/-- The upper case of the letters of ASCII, that leaves other characters alone. -/
def asciiUppercase (c : Char) : List Char := [c.toUpper]

/-- The current directory of a drive, as a command shell keeps it, and a search path. -/
def driveVariables : List Variable := [([61,67,58],[67,58,92]),([80],[120])]

/-- A command that sets one variable. -/
def changedCommand : Command := ⟨[112],[],[([65],some [49])]⟩

theorem storable_driveVariables : ∀v∈driveVariables,Storable v := by
  intro v mem
  rcases List.mem_cons.mp mem with rfl|last
  · exact ⟨by decide,by decide,by decide,by decide⟩
  · rw [List.mem_singleton.mp last]
    exact ⟨by decide,by decide,by decide,by decide⟩

theorem validChanges_changedCommand : ValidChanges changedCommand.envs := by
  unfold ValidChanges
  decide

theorem buildEnvironmentBlock_updates_path :
    GetsUpdated asciiUppercase driveVariables.tail changedCommand := by
  have only : ∀v,Kept asciiUppercase driveVariables.tail changedCommand.envs v → v=([80],[120]) :=
    fun v kept => List.mem_singleton.mp kept.1
  apply (buildEnvironmentBlock_updates asciiUppercase driveVariables.tail
    (fun v mem => storable_driveVariables v (List.mem_of_mem_tail mem)) changedCommand
    validChanges_changedCommand).mpr
  refine .inr ⟨fun v kept => ?_,fun v w first second _ => ?_⟩
  · rw [only v kept]
    decide
  · rw [only v first,only w second]

/-- With an inherited variable whose name begins with an equals sign, no block is built. -/
theorem buildEnvironmentBlock_fails :
    (∀v∈driveVariables,Storable v) ∧
      (driveVariables.map (environmentKey asciiUppercase ·.1)).Nodup ∧
      ValidChanges changedCommand.envs ∧
      buildEnvironmentBlock asciiUppercase driveVariables changedCommand=
        .error "environment key is empty or contains '='" ∧
      ¬GetsUpdated asciiUppercase driveVariables changedCommand := by
  have fails : buildEnvironmentBlock asciiUppercase driveVariables changedCommand=
      .error "environment key is empty or contains '='" := by
    decide +kernel
  refine ⟨storable_driveVariables,by decide +kernel,validChanges_changedCommand,fails,?_⟩
  rintro ⟨block?,built,-⟩
  rw [fails] at built
  cases built

end AkuSupervisor

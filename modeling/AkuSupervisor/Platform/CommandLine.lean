import AkuSupervisor.Lib.WindowsArguments

namespace AkuSupervisor

open WindowsArguments

/-- A program with its arguments and the changes of its environment, each text as UTF-16 units. A
change without a value removes the variable. -/
structure Command where
  program : List UInt16
  args : List (List UInt16)
  envs : List (List UInt16 × Option (List UInt16))

/-- The loop over the units of an argument in quotes, with the backslashes that wait for what follows
them, up to the quote that ends it. -/
def quotedUnits (backslashes : Nat) : List UInt16 → List UInt16
  | [] => List.replicate (backslashes*2) backslash++[quote]
  | value::wide =>
    if value=backslash then quotedUnits (backslashes+1) wide
    else if value=quote then
      List.replicate (backslashes*2+1) backslash++value::quotedUnits 0 wide
    else List.replicate backslashes backslash++value::quotedUnits 0 wide

def needsQuotes (wide : List UInt16) : Bool :=
  wide.isEmpty || wide.any fun value => value=space || value=tab || value=quote

def appendWindowsArgument (line wide : List UInt16) : Except String (List UInt16) :=
  if 0∈wide then .error "process argument contains NUL"
  else if !needsQuotes wide then .ok (line++wide)
  else .ok (line++[quote]++quotedUnits 0 wide)

/-- The text for `CreateProcessW`, that ends with a NUL. -/
def buildCommandLine (command : Command) : Except String (List UInt16) := do
  let line ← appendWindowsArgument [] command.program
  let line ← command.args.foldlM (fun line argument =>
    appendWindowsArgument (line++[space]) argument) line
  return line++[0]

namespace Command

/-- How a text without NUL stands on the line. -/
def written (wide : List UInt16) : List UInt16 :=
  if needsQuotes wide then quote::quotedUnits 0 wide else wide

/-- What stands on the line behind the program. -/
def tailText (args : List (List UInt16)) : List UInt16 :=
  args.flatMap fun argument => space::written argument

theorem append_ok (line : List UInt16) {wide : List UInt16} (clean : 0∉wide) :
    appendWindowsArgument line wide=.ok (line++written wide) := by
  unfold appendWindowsArgument written
  rw [if_neg clean]
  cases needsQuotes wide <;> simp

theorem append_error (line : List UInt16) {wide : List UInt16} (nul : 0∈wide) :
    appendWindowsArgument line wide=.error "process argument contains NUL" := if_pos nul

/-- The loop over the arguments. -/
theorem appends_ok (args : List (List UInt16)) (clean : ∀argument∈args,0∉argument)
    (line : List UInt16) :
    args.foldlM (fun line argument => appendWindowsArgument (line++[space]) argument) line=
      .ok (line++tailText args) := by
  induction args generalizing line with
  | nil => simp [tailText,pure,Except.pure]
  | cons argument args ih =>
    have first := append_ok (line++[space]) (clean argument List.mem_cons_self)
    rw [List.foldlM_cons,first]
    show List.foldlM _ (line++[space]++written argument) args=_
    rw [ih (fun other mem => clean other (List.mem_cons_of_mem argument mem))]
    simp [tailText]

theorem appends_error (args : List (List UInt16)) (nul : ∃argument∈args,0∈argument)
    (line : List UInt16) :
    args.foldlM (fun line argument => appendWindowsArgument (line++[space]) argument) line=
      .error "process argument contains NUL" := by
  induction args generalizing line with
  | nil => simp at nul
  | cons argument args ih =>
    rw [List.foldlM_cons]
    by_cases here : 0∈argument
    · rw [append_error _ here]
      rfl
    · obtain ⟨other,mem,later⟩ := nul
      have rest : ∃argument∈args,0∈argument :=
        ⟨other,(List.mem_cons.mp mem).resolve_left (fun same => here (same ▸ later)),later⟩
      rw [append_ok _ here]
      exact ih rest _

/-- The line is built exactly when no text has a NUL. -/
theorem buildCommandLine_ok (command : Command)
    (clean : ∀wide∈command.program::command.args,0∉wide) :
    buildCommandLine command=.ok (written command.program++tailText command.args++[0]) := by
  have first := append_ok [] (clean _ List.mem_cons_self)
  have later := appends_ok command.args
    (fun argument mem => clean argument (List.mem_cons_of_mem _ mem)) (written command.program)
  rw [buildCommandLine,first]
  simp only [List.nil_append,bind,Except.bind] at later ⊢
  rw [later]
  rfl

theorem buildCommandLine_error (command : Command)
    (nul : ∃wide∈command.program::command.args,0∈wide) :
    buildCommandLine command=.error "process argument contains NUL" := by
  rw [buildCommandLine]
  by_cases here : 0∈command.program
  · rw [append_error _ here]
    rfl
  · obtain ⟨wide,mem,inside⟩ := nul
    have later := appends_error command.args
      ⟨wide,(List.mem_cons.mp mem).resolve_left (fun same => here (same ▸ inside)),inside⟩
      (written command.program)
    rw [append_ok _ here]
    simp only [List.nil_append,bind,Except.bind] at later ⊢
    rw [later]

theorem not_needsQuotes {wide : List UInt16} (plain : needsQuotes wide=false) :
    wide≠[] ∧ ∀u∈wide,u≠quote ∧ isBlank u=false := by
  rw [needsQuotes,Bool.or_eq_false_iff] at plain
  obtain ⟨nonempty,units⟩ := plain
  refine ⟨by simpa using nonempty,fun u mem => ?_⟩
  have unit := List.any_eq_false.mp units u mem
  simp only [Bool.or_eq_true,not_or,decide_eq_true_eq] at unit
  exact ⟨unit.2,by simp [isBlank,unit.1]⟩

/-- A text without quotes that does not end with a backslash stands in quotes as it is. -/
theorem quotedUnits_plain (backslashes : Nat) (wide : List UInt16) (unquoted : quote∉wide)
    (last : (List.replicate backslashes backslash++wide).getLast?≠some backslash) :
    quotedUnits backslashes wide=List.replicate backslashes backslash++wide++[quote] := by
  induction wide generalizing backslashes with
  | nil =>
    have none : backslashes=0 := by
      cases backslashes with
      | zero => rfl
      | succ n => simp [List.getLast?_replicate] at last
    subst none
    rfl
  | cons u wide ih =>
    obtain ⟨other,later⟩ := not_or.mp fun mem => unquoted (List.mem_cons.mpr mem)
    rw [quotedUnits]
    by_cases slash : u=backslash
    · subst slash
      have moved : List.replicate (backslashes+1) backslash++wide=
          List.replicate backslashes backslash++backslash::wide := by
        rw [List.replicate_succ']
        simp
      rw [if_pos rfl,ih (backslashes+1) later (by rw [moved]; exact last),moved]
    · have rest : (List.replicate 0 backslash++wide).getLast?≠some backslash := by
        cases wide with
        | nil => simp
        | cons v wide => simpa [List.getLast?_append] using last
      rw [if_neg slash,if_neg (Ne.symm other),ih 0 later rest]
      simp

/-- What stands in quotes is read back, backslashes that wait included, up to the end of the quotes. -/
theorem takeArguments_quotedUnits (doubled : Bool) (wide rest : List UInt16) (backslashes : Nat)
    (before : List UInt16) :
    takeArguments doubled (quotedUnits backslashes wide++rest) .inside 0 before=
      takeArguments doubled rest .closed 0
        (before++List.replicate backslashes backslash++wide) := by
  induction wide generalizing backslashes before with
  | nil =>
    rw [quotedUnits,List.append_assoc,List.singleton_append,Nat.mul_comm,takeArguments_closing]
    simp
  | cons u wide ih =>
    rw [quotedUnits]
    by_cases slash : u=backslash
    · rw [if_pos slash,ih,slash,List.replicate_succ']
      simp
    · rw [if_neg slash]
      by_cases quoted : u=quote
      · rw [if_pos quoted,quoted,List.append_assoc,List.cons_append,Nat.mul_comm,
          takeArguments_escaped,ih]
        simp
      · rw [if_neg quoted,List.append_assoc,List.cons_append,
          takeArguments_inside _ _ _ slash quoted,ih]
        simp

/-- An argument on the line is read back as it was. -/
theorem takeArguments_written (doubled : Bool) (wide rest : List UInt16) (ends : Ends rest) :
    takeArguments doubled (written wide++rest) .between 0 []=
      wide::takeArguments doubled rest.tail .between 0 [] := by
  rw [written]
  cases quoted : needsQuotes wide with
  | false =>
    obtain ⟨nonempty,plain⟩ := not_needsQuotes quoted
    have taken := takeArguments_plain doubled wide .between ends plain
      (.inr nonempty) (by decide) 0 []
    simpa using taken
  | true =>
    have opened : takeArguments doubled (quote::quotedUnits 0 wide++rest) .between 0 []=
        takeArguments doubled (quotedUnits 0 wide++rest) .inside 0 [] := by
      rw [List.cons_append,takeArguments,if_neg quote_ne_backslash,if_pos rfl]
      simp
    rw [if_pos rfl,opened,takeArguments_quotedUnits,
      takeArguments_ends .closed 0 _ ends (by decide) (by decide)]
    simp

theorem ends_tailText (args : List (List UInt16)) : Ends (tailText args) := by
  cases args with
  | nil => simp [Ends,tailText]
  | cons argument args =>
    intro u mem
    cases mem
    decide

theorem takeArguments_tailText (doubled : Bool) (args : List (List UInt16)) :
    takeArguments doubled (tailText args).tail .between 0 []=args := by
  induction args with
  | nil => rfl
  | cons argument args ih =>
    have split : (tailText (argument::args)).tail=written argument++tailText args := rfl
    rw [split,takeArguments_written doubled argument _ (ends_tailText args),ih]

theorem takeProgram_written (program rest : List UInt16) (unquoted : quote∉program)
    (last : program.getLast?≠some backslash) (ends : Ends rest) :
    takeProgram false (written program++rest)=(program,rest.tail) := by
  rw [written]
  cases quoted : needsQuotes program with
  | false => exact takeProgram_plain program (not_needsQuotes quoted).2 ends
  | true =>
    have plain := quotedUnits_plain 0 program unquoted (by simpa using last)
    have opened : takeProgram false (quote::(program++quote::rest))=
        takeProgram true (program++quote::rest) := by
      simp [takeProgram]
    rw [if_pos rfl,plain]
    simpa [opened] using takeProgram_inside program unquoted ends

theorem zero_not_mem_written {wide : List UInt16} (clean : 0∉wide) : 0∉written wide := by
  have inside (backslashes : Nat) : 0∉quotedUnits backslashes wide := by
    induction wide generalizing backslashes with
    | nil => simp [quotedUnits,backslash,quote]
    | cons u wide ih =>
      obtain ⟨other,later⟩ := not_or.mp fun mem => clean (List.mem_cons.mpr mem)
      rw [quotedUnits]
      split_ifs <;> simp [ih later,other,backslash]
  rw [written]
  split_ifs
  · simp [inside 0,quote]
  · exact clean

/-- The line that is built for a program and any arguments is read back as just these. -/
theorem buildCommandLine_round_trip (command : Command) (unquoted : quote∉command.program)
    (last : command.program.getLast?≠some backslash)
    (clean : ∀wide∈command.program::command.args,0∉wide) (doubled : Bool) :
    ∃text,buildCommandLine command=.ok (text++[0]) ∧ untilNul (text++[0])=text ∧
      parse doubled text=(command.program,command.args) := by
  have program := takeProgram_written command.program (tailText command.args) unquoted last
    (ends_tailText command.args)
  refine ⟨_,buildCommandLine_ok command clean,?_,?_⟩
  · have units : ∀u∈written command.program++tailText command.args,u≠0 := by
      intro u mem zero
      subst zero
      rcases List.mem_append.mp mem with first|later
      · exact zero_not_mem_written (clean _ List.mem_cons_self) first
      · obtain ⟨argument,arg,inside⟩ := List.mem_flatMap.mp later
        have other := (List.mem_cons.mp inside).resolve_left (by decide)
        exact zero_not_mem_written (clean argument (List.mem_cons_of_mem _ arg)) other
    rw [untilNul,List.takeWhile_append_of_pos (by simpa using units)]
    simp
  · rw [parse,program]
    show (command.program,takeArguments doubled (tailText command.args).tail .between 0 [])=_
    rw [takeArguments_tailText]

/-- A path with a blank, and arguments with a quote, with backslashes at their end and in front of a
quote, and with nothing. -/
def fixtureCommand : Command where
  program := [67,58,92,97,32,98]
  args := [[112],[97,34,98],[97,32,92,92],[92,34],[]]
  envs := []

theorem buildCommandLine_round_trip_fixture :
    ∃text,buildCommandLine fixtureCommand=.ok (text++[0]) ∧ untilNul (text++[0])=text ∧
      parse true text=(fixtureCommand.program,fixtureCommand.args) :=
  buildCommandLine_round_trip fixtureCommand (by decide) (by decide) (by decide) true

end Command

end AkuSupervisor

import AkuSupervisor.Adapters.TokenRun

namespace AkuSupervisor

open Program Interleaving

namespace TokenStore

/-- The file is taken for the token. -/
def Holds (store : TokenStore) (token : RuntimeToken) : Prop :=
  ∃bytes,store.file=some bytes ∧ RuntimeToken.ofBytes bytes=some token

/-- Every token that was used or read is what the file holds, and a process that writes is the only
one and has created the file. `found` is the file that was there before all processes. -/
structure Fits (found : Option (List UInt8)) (store : TokenStore) (modes : Nat → TokenMode) :
    Prop where
  used : ∀token∈store.used,store.Holds token
  known : ∀i token,modes i=.knowing token → store.Holds token
  writer : ∀i token content,modes i=.writing token content →
    store.file=some content ∧ content <+: token.line
  sole : ∀i j token content token' content',modes i=.writing token content →
    modes j=.writing token' content' → i=j
  kept : ∀bytes,found=some bytes → store.file=some bytes ∧ ∀i token content,
    modes i≠.writing token content

namespace Fits

variable {found : Option (List UInt8)} {store store' : TokenStore} {modes : Nat → TokenMode}
  {i : Nat}

/-- The file stays as it is, and the process does not begin to write. -/
theorem aside (fits : Fits found store modes) {m : TokenMode} (file : store'.file=store.file)
    (used : ∀token∈store'.used,token∈store.used ∨ store.Holds token)
    (known : ∀token,m=.knowing token → store.Holds token)
    (writing : ∀token content,m=.writing token content → modes i=.writing token content) :
    Fits found store' (Function.update modes i m) := by
  have holds {token : RuntimeToken} (before : store.Holds token) : store'.Holds token := by
    obtain ⟨bytes,there,reads⟩ := before
    exact ⟨bytes,file.trans there,reads⟩
  have writes (j : Nat) (token : RuntimeToken) (content : List UInt8)
      (now : Function.update modes i m j=.writing token content) :
      modes j=.writing token content := by
    by_cases same : j=i
    · rw [same,Function.update_self] at now
      exact same ▸ writing token content now
    · rwa [Function.update_of_ne same] at now
  refine ⟨fun token mem => ?_,fun j token now => ?_,fun j token content now => ?_,?_,?_⟩
  · rcases used token mem with before|reads
    · exact holds (fits.used token before)
    · exact holds reads
  · by_cases same : j=i
    · rw [same,Function.update_self] at now
      exact holds (known token now)
    · rw [Function.update_of_ne same] at now
      exact holds (fits.known j token now)
  · rw [file]
    exact fits.writer j token content (writes j token content now)
  · intro j k token content token' content' one other
    exact fits.sole j k token content token' content' (writes j _ _ one) (writes k _ _ other)
  · intro bytes there
    obtain ⟨before,nobody⟩ := fits.kept bytes there
    exact ⟨file.trans before,fun j token content now => nobody j token content (writes j _ _ now)⟩

/-- The process creates the file, which nobody holds or writes then. -/
theorem created (fits : Fits found store modes) (token : RuntimeToken) (none : store.file=none) :
    Fits found { store with file := some [] }
      (Function.update modes i (.writing token [])) := by
  have nothing (token : RuntimeToken) : ¬store.Holds token := by
    intro holds
    obtain ⟨bytes,there,-⟩ := holds
    rw [none] at there
    cases there
  have nobody (j : Nat) (token : RuntimeToken) (content : List UInt8) :
      modes j≠.writing token content := by
    intro writes
    have there := (fits.writer j token content writes).1
    rw [none] at there
    cases there
  have mine {j : Nat} {token' : RuntimeToken} {content : List UInt8}
      (now : Function.update modes i (.writing token []) j=.writing token' content) :
      j=i ∧ content=[] := by
    by_cases same : j=i
    · rw [same,Function.update_self] at now
      cases now
      exact ⟨same,rfl⟩
    · rw [Function.update_of_ne same] at now
      exact absurd now (nobody j token' content)
  refine ⟨fun token' mem => absurd (fits.used token' mem) (nothing token'),
    fun j token' now => ?_,fun j token' content now => ?_,?_,fun bytes there => ?_⟩
  · by_cases same : j=i
    · rw [same,Function.update_self] at now
      cases now
    · rw [Function.update_of_ne same] at now
      exact absurd (fits.known j token' now) (nothing token')
  · rw [(mine now).2]
    exact ⟨rfl,List.nil_prefix⟩
  · intro j k _ _ _ _ one other
    exact (mine one).1.trans (mine other).1.symm
  · have before := (fits.kept bytes there).1
    rw [none] at before
    cases before

/-- The process that created the file goes on with its token's line. -/
theorem wrote (fits : Fits found store modes) {token : RuntimeToken} {content : List UInt8}
    (writing : modes i=.writing token content) (more : List UInt8)
    (part : content++more <+: token.line) (file : store'.file=some (content++more))
    (used : store'.used=store.used) :
    Fits found store' (Function.update modes i (.writing token (content++more))) := by
  have holds {other : RuntimeToken} (before : store.Holds other) : store'.Holds other := by
    obtain ⟨bytes,there,reads⟩ := before
    obtain ⟨here,begun⟩ := fits.writer i token content writing
    rw [here] at there
    cases there
    obtain ⟨same,longer⟩ := RuntimeToken.ofBytes_part begun reads
    exact ⟨_,file,same ▸ longer more part⟩
  have mine {j : Nat} {token' : RuntimeToken} {content' : List UInt8}
      (now : Function.update modes i (.writing token (content++more)) j=.writing token' content') :
      j=i ∧ token'=token ∧ content'=content++more := by
    by_cases same : j=i
    · rw [same,Function.update_self] at now
      cases now
      exact ⟨same,rfl,rfl⟩
    · rw [Function.update_of_ne same] at now
      exact absurd (fits.sole j i _ _ _ _ now writing) same
  refine ⟨fun token' mem => holds (fits.used token' (used ▸ mem)),
    fun j token' now => ?_,fun j token' content' now => ?_,?_,fun bytes there => ?_⟩
  · by_cases same : j=i
    · rw [same,Function.update_self] at now
      cases now
    · rw [Function.update_of_ne same] at now
      exact holds (fits.known j token' now)
  · obtain ⟨-,rfl,rfl⟩ := mine now
    exact ⟨file,part⟩
  · intro j k _ _ _ _ one other
    exact (mine one).1.trans (mine other).1.symm
  · exact absurd writing ((fits.kept bytes there).2 i token content)

/-- Nothing changes. -/
theorem idle (fits : Fits found store modes) : Fits found store (Function.update modes i (modes i)) := by
  rw [Function.update_eq_self]
  exact fits

theorem initial (found : Option (List UInt8)) : Fits found ⟨found,[]⟩ fun _ => .looking := by
  refine ⟨?_,?_,?_,?_,fun bytes there => ⟨there,fun i token content now => by cases now⟩⟩
  · intro token mem
    cases mem
  · intro i token now
    cases now
  · intro i token content now
    cases now
  · intro i j token content token' content' now
    cases now

end Fits

theorem attempt_cases (store : TokenStore) {α : Type} (choice : TokenChoice)
    (answer : Except TokenIoError α) (after : TokenStore) :
    store.attempt choice answer after=(answer,after) ∨
      ∃source,store.attempt choice answer after=(.error source,store) := by
  unfold attempt
  cases choice.failure with
  | none => exact .inl rfl
  | some source => exact .inr ⟨source,rfl⟩

theorem put_end {store : TokenStore} {content : List UInt8} (file : store.file=some content)
    (bytes : List UInt8) : (store.put content.length bytes).file=some (content++bytes) := by
  simp [put,file,List.drop_eq_nil_of_le (Nat.le_add_right content.length bytes.length)]

section Calls

variable {found : Option (List UInt8)} {store : TokenStore} {modes : Nat → TokenMode} {i : Nat}

theorem Fits.readToEnd (fits : Fits found store modes) (choice : TokenChoice) :
    Fits found (store.respond choice .readToEnd).2
      (Function.update modes i ((modes i).after .readToEnd (store.respond choice .readToEnd).1)) := by
  rcases store.attempt_cases choice ((store.file.map Except.ok).getD (.error .notFound)) store with
    answer|⟨source,answer⟩
  · rw [TokenStore.respond,answer]
    cases there : store.file with
    | none => exact fits.idle
    | some bytes =>
      show Fits found store (Function.update modes i
        ((RuntimeToken.ofBytes bytes).elim (modes i) .knowing))
      cases reads : RuntimeToken.ofBytes bytes with
      | none => exact fits.idle
      | some token =>
        apply fits.aside rfl (fun _ mem => .inl mem)
        · intro token' now
          cases now
          exact ⟨bytes,there,reads⟩
        · intro token' content now
          cases now
  · rw [TokenStore.respond,answer]
    exact fits.idle

theorem Fits.generate (fits : Fits found store modes) (choice : TokenChoice) :
    Fits found (store.respond choice .generate).2
      (Function.update modes i ((modes i).after .generate (store.respond choice .generate).1)) := by
  rcases store.attempt_cases choice (.ok choice.value : Except TokenIoError String) store with
    answer|⟨source,answer⟩
  · rw [TokenStore.respond,answer]
    show Fits found store (Function.update modes i
      ((RuntimeToken.parse choice.value).elim (modes i) .prepared))
    cases RuntimeToken.parse choice.value with
    | none => exact fits.idle
    | some token =>
      apply fits.aside rfl (fun _ mem => .inl mem)
      · intro token' now
        cases now
      · intro token' content now
        cases now
  · rw [TokenStore.respond,answer]
    exact fits.idle

theorem Fits.createNew (fits : Fits found store modes) (choice : TokenChoice)
    (may : (modes i).permits .createNew) :
    Fits found (store.respond choice .createNew).2
      (Function.update modes i ((modes i).after .createNew (store.respond choice .createNew).1)) := by
  obtain ⟨token,prepared⟩ := may
  rcases store.attempt_cases choice store.createNew.1 store.createNew.2 with
    answer|⟨source,answer⟩
  · rw [TokenStore.respond,answer,TokenStore.createNew]
    cases there : store.file with
    | none =>
      rw [prepared]
      exact fits.created token there
    | some bytes => exact fits.idle
  · rw [TokenStore.respond,answer]
    exact fits.idle

theorem Fits.write (fits : Fits found store modes) (choice : TokenChoice) {position : Nat}
    {bytes : List UInt8} (may : (modes i).permits (.write position bytes)) :
    Fits found (store.respond choice (.write position bytes)).2
      (Function.update modes i ((modes i).after (.write position bytes)
        (store.respond choice (.write position bytes)).1)) := by
  obtain ⟨token,content,writing,rfl,part⟩ := may
  rcases store.attempt_cases choice (.ok (min choice.count bytes.length) : Except TokenIoError Nat)
    (store.put content.length (bytes.take choice.count)) with answer|⟨source,answer⟩
  · rw [TokenStore.respond,answer,writing]
    show Fits found (store.put content.length (bytes.take choice.count)) (Function.update modes i
      (.writing token (content++bytes.take (min choice.count bytes.length))))
    rw [← List.take_eq_take_min]
    apply fits.wrote writing _ _ (put_end (fits.writer i token content writing).1 _) rfl
    exact ((List.prefix_append_right_inj content).mpr (List.take_prefix _ _)).trans part
  · rw [TokenStore.respond,answer]
    exact fits.idle

theorem Fits.use (fits : Fits found store modes) (choice : TokenChoice) {token : RuntimeToken}
    (may : (modes i).permits (.use token)) :
    Fits found (store.respond choice (.use token)).2
      (Function.update modes i ((modes i).after (.use token)
        (store.respond choice (.use token)).1)) := by
  have holds : store.Holds token := by
    rcases may with known|written
    · exact fits.known i token known
    · exact ⟨token.line,(fits.writer i token _ written).1,token.ofBytes_line⟩
  have either : ∀token'∈token::store.used,token'∈store.used ∨ store.Holds token' := by
    intro token' mem
    rcases List.mem_cons.mp mem with rfl|before
    · exact .inr holds
    · exact .inl before
  show Fits found { store with used := token::store.used } (Function.update modes i (modes i))
  exact fits.aside rfl either (fits.known i) fun _ _ => id

/-- Every call of a process that keeps to the discipline, whatever the environment makes of it. -/
theorem Fits.respond (fits : Fits found store modes) (choice : TokenChoice) (call : TokenCall)
    (may : (modes i).permits call) :
    Fits found (store.respond choice call).2
      (Function.update modes i ((modes i).after call (store.respond choice call).1)) := by
  have same {α : Type} (answer : Except TokenIoError α) :
      Fits found (store.attempt choice answer store).2 (Function.update modes i (modes i)) := by
    rcases store.attempt_cases choice answer store with given|⟨source,given⟩
    · rw [given]
      exact fits.idle
    · rw [given]
      exact fits.idle
  cases call with
  | openFile => exact same _
  | createDirectory => exact same (.ok ())
  | sync => exact same (.ok ())
  | readToEnd => exact fits.readToEnd choice
  | generate => exact fits.generate choice
  | createNew => exact fits.createNew choice may
  | write position bytes => exact fits.write choice may
  | use token => exact fits.use choice may

end Calls

end TokenStore

theorem tokenSystem_upholds (file : TokenPath) (found : Option (List UInt8)) :
    Upholds (tokenSystem file) tokenDiscipline .looking (fun _ => .looking) (fun _ _ => True)
      (TokenStore.Fits found) where
  follows := TokenMode.follows_process
  advances _ _ _ choice call _ fits _ may _ := fits.respond choice call may
  kills _ modes i fits _ := by
    apply TokenStore.Fits.aside fits rfl (fun _ mem => .inl mem)
    · intro token now
      cases now
    · intro token content now
      cases now
  disturbs _ _ change := change.elim

abbrev TokenState := State TokenStore TokenCall TokenCall.Answer (Except RuntimeTokenError Unit)

abbrev TokenMove := Move TokenChoice TokenPath.TokenRequest Empty

/-- What processes agree on: the file is taken for every token that was used, none of which another
process refuses, and a file that was there before is never changed. -/
structure TokenAgreed (found : Option (List UInt8)) (store : TokenStore) : Prop where
  holds : ∀token∈store.used,store.Holds token
  accepts : ∀token∈store.used,∀other∈store.used,token.bearerMatches other.text=true
  kept : ∀bytes,found=some bytes → store.file=some bytes

theorem TokenStore.Holds.unique {store : TokenStore} {a b : RuntimeToken} (one : store.Holds a)
    (other : store.Holds b) : a=b := by
  obtain ⟨bytes,there,reads⟩ := one
  obtain ⟨bytes',there',reads'⟩ := other
  rw [there] at there'
  cases there'
  rw [reads] at reads'
  exact Option.some.inj reads'

theorem TokenStore.Fits.agreed {found : Option (List UInt8)} {store : TokenStore}
    {modes : Nat → TokenMode} (fits : store.Fits found modes) : TokenAgreed found store := by
  refine ⟨fits.used,fun token mem other mem' => ?_,fun bytes there => (fits.kept bytes there).1⟩
  rw [RuntimeToken.bearerMatches_iff,(fits.used token mem).unique (fits.used other mem')]

/-- What has been used stays in use. -/
theorem used_step (file : TokenPath) (move : TokenMove) (s : TokenState) :
    s.shared.used ⊆ (step (tokenSystem file) move s).shared.used := by
  rcases step_cases (tokenSystem file) move s with same|⟨i,request,-,-,after⟩|
    ⟨i,choice,call,next,-,-,after⟩|⟨i,p,-,-,after⟩|⟨change,-,-⟩
  · rw [same]
    exact List.Subset.refl _
  · rw [after]
    exact List.Subset.refl _
  · rw [after]
    show s.shared.used ⊆ (s.shared.respond choice call).2.used
    have attempted {α : Type} (answer : Except TokenIoError α) (after : TokenStore)
        (same : after.used=s.shared.used) :
        s.shared.used ⊆ (s.shared.attempt choice answer after).2.used := by
      rcases s.shared.attempt_cases choice answer after with given|⟨source,given⟩
      · rw [given,same]
        exact List.Subset.refl _
      · rw [given]
        exact List.Subset.refl _
    cases call with
    | use token => exact List.subset_cons_self token _
    | createNew =>
      apply attempted
      unfold TokenStore.createNew
      split <;> rfl
    | openFile => exact attempted _ _ rfl
    | readToEnd => exact attempted _ _ rfl
    | createDirectory => exact attempted (.ok ()) _ rfl
    | generate => exact attempted (.ok choice.value) _ rfl
    | write position bytes => exact attempted (.ok _) _ rfl
    | sync => exact attempted (.ok ()) _ rfl
  · rw [after]
    exact List.Subset.refl _
  · exact change.elim

/-- In every interleaving of supervisors that start and clients, with calls that fail, partial
writes and crashes anywhere, all tokens that are used until then agree with all that are used later,
and the file is never taken for another one. -/
theorem runtime_token_agreement (file : TokenPath) (found : Option (List UInt8))
    (moves later : List TokenMove) :
    let before : TokenState := Run.final (step (tokenSystem file)) moves (.initial ⟨found,[]⟩)
    let after : TokenState := Run.final (step (tokenSystem file)) later before
    TokenAgreed found before.shared ∧ TokenAgreed found after.shared ∧
      ∀token∈before.shared.used,after.shared.Holds token ∧
        ∀other∈after.shared.used,other=token ∧ token.bearerMatches other.text=true := by
  intro before after
  have upholds := tokenSystem_upholds file found
  have first : Disciplined tokenDiscipline .looking (TokenStore.Fits found) before :=
    upholds.keeps.final (disciplined_initial _ (TokenStore.Fits.initial found))
      (Run.along_true moves _)
  have last : Disciplined tokenDiscipline .looking (TokenStore.Fits found) after :=
    upholds.keeps.final first (Run.along_true later _)
  obtain ⟨modes,fits,-⟩ := first
  obtain ⟨modes',fits',-⟩ := last
  have agreed := fits'.agreed
  have keeps : Run.Keeps (step (tokenSystem file)) (fun _ _ => True)
      fun s : TokenState => before.shared.used ⊆ s.shared.used := by
    intro s move kept _
    exact List.Subset.trans kept (used_step file move s)
  have more : before.shared.used ⊆ after.shared.used :=
    keeps.final (List.Subset.refl _) (Run.along_true later _)
  refine ⟨fits.agreed,agreed,fun token mem => ⟨agreed.holds token (more mem),fun other mem' => ?_⟩⟩
  exact ⟨(agreed.holds other mem').unique (agreed.holds token (more mem)),
    agreed.accepts token (more mem) other mem'⟩

-- A client looks while the server is writing and fails; after a retry it uses the server's token.
example :
    let go (i count : Nat) : TokenMove :=
      .advance i ⟨none,count,"0123456789abcdef0123456789abcdef0123456789abcdef0123456789abcdef\n"⟩
    let moves := .launch 0 .server::List.replicate 4 (go 0 40)++[.launch 1 .client,go 1 0,go 1 0]++
      List.replicate 4 (go 0 40)++[.launch 2 .client,go 2 0,go 2 0,go 2 0]
    let s : TokenState := Run.final (step (tokenSystem ⟨"control-token",none⟩)) moves
      (.initial ⟨none,[]⟩)
    s.shared.used.length=2 ∧ s.shared.file.map List.length=some 65 := by
  decide +kernel

end AkuSupervisor

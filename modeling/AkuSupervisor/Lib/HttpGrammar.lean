import Mathlib.Data.List.Basic

/-! The grammar of HTTP/1.1 for what stands behind a chunk size, and for the lines of a trailer
section, by bytes. -/

namespace HttpGrammar

def isTokenByte (b : UInt8) : Bool :=
  48≤b && b≤57 || 65≤b && b≤90 || 97≤b && b≤122 ||
    [33,35,36,37,38,39,42,43,45,46,94,95,96,124,126].contains b

/-- A byte of a field value: a blank, a visible character or a byte that is not ASCII. -/
def isFieldByte (b : UInt8) : Bool := b=9 || 32≤b && b≠127

def IsBlanks (bytes : List UInt8) : Prop := ∀b∈bytes,b=32 ∨ b=9

def IsToken (bytes : List UInt8) : Prop := bytes≠[] ∧ ∀b∈bytes,isTokenByte b=true

/-- What stands between the two quotes of a quoted string. -/
inductive IsQuotedText : List UInt8 → Prop where
  | nil : IsQuotedText []
  | plain {b : UInt8} {text : List UInt8} (allowed : isFieldByte b=true) (unquoted : b≠34)
      (unescaped : b≠92) (later : IsQuotedText text) : IsQuotedText (b::text)
  | pair {b : UInt8} {text : List UInt8} (allowed : isFieldByte b=true)
      (later : IsQuotedText text) : IsQuotedText (92::b::text)

def IsValue (bytes : List UInt8) : Prop :=
  IsToken bytes ∨ ∃text,IsQuotedText text ∧ bytes=34::text++[34]

/-- The extensions of a chunk: names, some of them with a value. -/
inductive IsChunkExtension : List UInt8 → Prop where
  | nothing : IsChunkExtension []
  | name {before behind name rest : List UInt8} (blanks : IsBlanks before)
      (more : IsBlanks behind) (token : IsToken name) (later : IsChunkExtension rest) :
      IsChunkExtension (before++59::(behind++name++rest))
  | value {before behind name left right value rest : List UInt8} (blanks : IsBlanks before)
      (more : IsBlanks behind) (token : IsToken name) (inner : IsBlanks left)
      (outer : IsBlanks right) (valued : IsValue value) (later : IsChunkExtension rest) :
      IsChunkExtension (before++59::(behind++name++(left++61::(right++value++rest))))

def IsFieldLine (line : List UInt8) : Prop :=
  ∃name value,IsToken name ∧ (∀b∈value,isFieldByte b=true) ∧ line=name++58::value

/-- Field lines with their line breaks, and an empty line. -/
def IsTrailerSection (bytes : List UInt8) : Prop :=
  ∃lines : List (List UInt8),(∀line∈lines,IsFieldLine line) ∧ bytes=lines.flatMap (·++[13,10])++[13,10]

theorem IsBlanks.single {bytes : List UInt8} (blanks : IsBlanks bytes) : 13∉bytes := by
  intro mem
  rcases blanks 13 mem with same|same <;> exact absurd same (by decide)

theorem IsToken.single {bytes : List UInt8} (token : IsToken bytes) : 13∉bytes := by
  intro mem
  exact absurd (token.2 13 mem) (by decide)

theorem IsQuotedText.single {text : List UInt8} (quoted : IsQuotedText text) : 13∉text := by
  have other {b : UInt8} (allowed : isFieldByte b=true) : (13 : UInt8)≠b := by
    intro same
    subst same
    exact absurd allowed (by decide)
  induction quoted with
  | nil => simp
  | plain allowed _ _ _ ih => simp [ih,other allowed]
  | pair allowed _ ih => simp [ih,other allowed]

theorem IsValue.single {bytes : List UInt8} (valued : IsValue bytes) : 13∉bytes := by
  rcases valued with token|⟨text,quoted,rfl⟩
  · exact token.single
  · simp [quoted.single]

/-- An extension has no line break in it. -/
theorem IsChunkExtension.single {bytes : List UInt8} (extension : IsChunkExtension bytes) :
    13∉bytes := by
  induction extension with
  | nothing => simp
  | name blanks more token _ ih => simp [blanks.single,more.single,token.single,ih]
  | value blanks more token inner outer valued _ ih =>
    simp [blanks.single,more.single,token.single,inner.single,outer.single,valued.single,ih]

/-- An extension begins with a semicolon, maybe behind blanks. -/
theorem IsChunkExtension.start {bytes : List UInt8} (extension : IsChunkExtension bytes) :
    bytes=[] ∨ ∃blanks text,IsBlanks blanks ∧ bytes=blanks++59::text := by
  cases extension with
  | nothing => exact .inl rfl
  | name blanks _ _ _ => exact .inr ⟨_,_,blanks,rfl⟩
  | value blanks _ _ _ _ _ _ => exact .inr ⟨_,_,blanks,rfl⟩

end HttpGrammar

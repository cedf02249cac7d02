import AkuSupervisor.Lib.Cut
import AkuSupervisor.Lib.JsonText
import AkuSupervisor.Lib.TextLines

/-! How deep the brackets of a JSON text are, by bytes. All brackets of a text are closed where it
ends, and those of an object are closed there first, so that no proper part of it is a text. -/

namespace JsonDepth

open TextLines JsonText

inductive Mode where
  | plain
  | quoted
  | escaped
  deriving DecidableEq

structure Scan where
  depth : Nat
  mode : Mode
  deriving DecidableEq

def Scan.step (s : Scan) (b : UInt8) : Scan :=
  match s.mode with
  | .plain =>
    if b=34 then ⟨s.depth,.quoted⟩
    else if b=123 ∨ b=91 then ⟨s.depth+1,.plain⟩
    else if b=125 ∨ b=93 then ⟨s.depth-1,.plain⟩
    else s
  | .quoted =>
    if b=34 then ⟨s.depth,.plain⟩ else if b=92 then ⟨s.depth,.escaped⟩ else s
  | .escaped => ⟨s.depth,.quoted⟩

def scan (s : Scan) (bytes : List UInt8) : Scan := bytes.foldl Scan.step s

/-- A text that is not empty and closes all its brackets and quotes. -/
def Balanced (bytes : List UInt8) : Prop := bytes≠[] ∧ scan ⟨0,.plain⟩ bytes=⟨0,.plain⟩

instance (bytes : List UInt8) : Decidable (Balanced bytes) := inferInstanceAs (Decidable (_ ∧ _))

@[simp] theorem scan_nil (s : Scan) : scan s []=s := rfl

@[simp] theorem scan_cons (s : Scan) (b : UInt8) (bytes : List UInt8) :
    scan s (b::bytes)=scan (s.step b) bytes := rfl

theorem scan_append (s : Scan) (a b : List UInt8) : scan s (a++b)=scan (scan s a) b :=
  List.foldl_append

/-- The bytes lead back to where they start, and never below it. -/
structure Returns (mode : Mode) (bytes : List UInt8) : Prop where
  back : ∀n,scan ⟨n,mode⟩ bytes=⟨n,mode⟩
  above : ∀n part,part <+: bytes → n ≤ (scan ⟨n,mode⟩ part).depth

variable {mode : Mode} {a b : List UInt8}

theorem returns_nil (mode : Mode) : Returns mode [] := by
  refine ⟨fun _ => rfl,fun n part inside => ?_⟩
  rw [List.prefix_nil.mp inside]
  exact Nat.le_refl n

theorem Returns.append (first : Returns mode a) (second : Returns mode b) :
    Returns mode (a++b) := by
  refine ⟨fun n => by rw [scan_append,first.back,second.back],fun n part inside => ?_⟩
  rcases Cut.prefix_append_cases inside with ⟨short,-⟩|⟨rest,rfl,more⟩
  · exact first.above n part short
  · rw [scan_append,first.back]
    exact second.above n rest more

theorem returns_flatMap {α : Type} {f : α → List UInt8} {xs : List α}
    (each : ∀x∈xs,Returns mode (f x)) : Returns mode (xs.flatMap f) := by
  induction xs with
  | nil => exact returns_nil mode
  | cons x xs ih =>
    exact (each x List.mem_cons_self).append (ih fun y mem => each y (List.mem_cons_of_mem x mem))

theorem returns_byte {b : UInt8} (same : ∀n,Scan.step ⟨n,mode⟩ b=⟨n,mode⟩) :
    Returns mode [b] := by
  refine ⟨same,fun n part inside => ?_⟩
  rcases List.prefix_cons_iff.mp inside with rfl|⟨rest,rfl,more⟩
  · exact Nat.le_refl n
  · have back : (scan ⟨n,mode⟩ [b]).depth=n := by rw [scan_cons,scan_nil,same]
    rw [List.prefix_nil.mp more]
    omega

/-- A byte that opens something, what leads back inside, and the byte that closes it. Nothing in front
of the last byte leads back to the start. -/
theorem returns_wrap {inner : Mode} {first last : UInt8} (deeper : Nat)
    (opens : ∀n,Scan.step ⟨n,mode⟩ first=⟨n+deeper,inner⟩) (inside : Returns inner a)
    (closes : ∀n,Scan.step ⟨n+deeper,inner⟩ last=⟨n,mode⟩) : Returns mode (first::(a++[last])) ∧
      ∀n part,part <+: first::(a++[last]) → part≠[] → part≠first::(a++[last]) →
        n+deeper ≤ (scan ⟨n,mode⟩ part).depth := by
  have whole (n : Nat) : scan ⟨n,mode⟩ (first::(a++[last]))=⟨n,mode⟩ := by
    rw [scan_cons,opens,scan_append,inside.back,scan_cons,closes,scan_nil]
  have proper (n : Nat) (part : List UInt8) (cut : part <+: first::(a++[last])) (some : part≠[])
      (short : part≠first::(a++[last])) : n+deeper ≤ (scan ⟨n,mode⟩ part).depth := by
    rcases List.prefix_cons_iff.mp cut with rfl|⟨rest,rfl,more⟩
    · exact absurd rfl some
    · rw [scan_cons,opens]
      rcases Cut.prefix_append_cases more with ⟨early,-⟩|⟨rest',rfl,ending⟩
      · exact inside.above _ rest early
      · rcases List.prefix_cons_iff.mp ending with rfl|⟨behind,rfl,nothing⟩
        · have back : (scan ⟨n+deeper,inner⟩ (a++[])).depth=n+deeper := by
            rw [List.append_nil,inside.back]
          omega
        · rw [List.prefix_nil.mp nothing] at short
          exact absurd rfl short
  refine ⟨⟨whole,fun n part cut => ?_⟩,proper⟩
  by_cases none : part=[]
  · rw [none]
    exact Nat.le_refl n
  · by_cases all : part=first::(a++[last])
    · have back : (scan ⟨n,mode⟩ part).depth=n := by rw [all,whole]
      omega
    · have deep := proper n part cut none all
      omega

/-- A byte that is neither a quote nor a bracket. -/
def IsPlain (b : UInt8) : Prop := b≠34 ∧ b≠123 ∧ b≠91 ∧ b≠125 ∧ b≠93

instance (b : UInt8) : Decidable (IsPlain b) := inferInstanceAs (Decidable (_ ∧ _))

theorem returns_plain {bytes : List UInt8} (clear : ∀b∈bytes,IsPlain b) :
    Returns .plain bytes := by
  have single : bytes=bytes.flatMap fun b => [b] := by simp
  rw [single]
  refine returns_flatMap fun b mem => returns_byte fun n => ?_
  obtain ⟨quote,brace,bracket,brace',bracket'⟩ := clear b mem
  simp [Scan.step,quote,brace,bracket,brace',bracket']

theorem returns_text {bytes : List UInt8} (clear : ∀b∈bytes,b≠34 ∧ b≠92) :
    Returns .quoted bytes := by
  have single : bytes=bytes.flatMap fun b => [b] := by simp
  rw [single]
  refine returns_flatMap fun b mem => returns_byte fun n => ?_
  obtain ⟨quote,backslash⟩ := clear b mem
  simp [Scan.step,quote,backslash]

theorem returns_escaped (b : UInt8) : Returns .quoted [92,b] := by
  refine ⟨fun n => rfl,fun n part inside => ?_⟩
  rcases List.prefix_cons_iff.mp inside with rfl|⟨rest,rfl,more⟩
  · exact Nat.le_refl n
  · rcases List.prefix_cons_iff.mp more with rfl|⟨behind,rfl,nothing⟩
    · exact Nat.le_refl n
    · rw [List.prefix_nil.mp nothing]
      exact Nat.le_refl n

section Texts

/-- The bytes of a character that is neither a quote nor a backslash. -/
theorem text_char {c : Char} (quote : c≠ '"') (backslash : c≠ '\\') :
    ∀b∈String.utf8EncodeChar c,b≠34 ∧ b≠92 := by
  have apart (b : UInt8) (d : Char) (same : d.toNat=b.toNat) (ascii : b.toNat < 128) (other : c≠d) :
      b∉String.utf8EncodeChar c := by
    intro mem
    apply other
    apply Char.ext
    apply UInt32.toNat_inj.mp
    exact (ascii_of_mem c b ascii mem).trans same.symm
  intro b mem
  refine ⟨fun same => ?_,fun same => ?_⟩
  · exact apart 34 '"' rfl (by decide) quote (same ▸ mem)
  · exact apart 92 '\\' rfl (by decide) backslash (same ▸ mem)

theorem returns_escape (c : Char) : Returns .quoted ((escape c).flatMap String.utf8EncodeChar) := by
  have pair (d : Char) (single : String.utf8EncodeChar d=[UInt8.ofNat d.toNat]) :
      Returns .quoted (['\\',d].flatMap String.utf8EncodeChar) := by
    have bytes : ['\\',d].flatMap String.utf8EncodeChar=[92,UInt8.ofNat d.toNat] := by
      rw [List.flatMap_cons,List.flatMap_singleton,single]
      rfl
    rw [bytes]
    exact returns_escaped _
  unfold escape
  split_ifs with quote backslash newline ret tab back feed low
  · exact pair '"' (by decide)
  · exact pair '\\' (by decide)
  · exact pair 'n' (by decide)
  · exact pair 'r' (by decide)
  · exact pair 't' (by decide)
  · exact pair 'b' (by decide)
  · exact pair 'f' (by decide)
  · have digits : ∀n < 32,∀b∈([Nat.digitChar (n/16),Nat.digitChar (n%16)]).flatMap
        String.utf8EncodeChar,b≠34 ∧ b≠92 := by decide +kernel
    have front : ∀b∈['0','0'].flatMap String.utf8EncodeChar,b≠34 ∧ b≠92 := by decide +kernel
    have tail : Returns .quoted ((['0','0']++hexDigits c).flatMap String.utf8EncodeChar) := by
      refine returns_text fun b mem => ?_
      rw [List.flatMap_append] at mem
      rcases List.mem_append.mp mem with zeros|hex
      · exact front b zeros
      · exact digits c.toNat low b hex
    have split : ['\\','u','0','0']++hexDigits c=['\\','u']++(['0','0']++hexDigits c) := rfl
    rw [split,List.flatMap_append]
    exact (pair 'u' (by decide)).append tail
  · rw [List.flatMap_singleton]
    exact returns_text (text_char quote backslash)

theorem returns_string (text : String) : Returns .plain (encode (string text)) := by
  have quote : encode "\""=[34] := by decide
  have bytes : encode (string text)=34::((text.toList.flatMap fun c =>
      (escape c).flatMap String.utf8EncodeChar)++[34]) := by
    rw [string,encode_append,encode_append,quote,encode,String.toList_ofList,List.flatMap_assoc]
    rfl
  rw [bytes]
  exact (returns_wrap 0 (fun n => rfl)
    (returns_flatMap fun c _ => returns_escape c) fun n => rfl).1

theorem returns_intercalate {parts : List String}
    (each : ∀part∈parts,Returns .plain (encode part)) :
    Returns .plain (encode (",".intercalate parts)) := by
  have comma : Returns .plain (encode ",") := returns_plain (by decide +kernel)
  induction parts with
  | nil => exact returns_nil .plain
  | cons part parts ih =>
    have first := each part List.mem_cons_self
    have rest := ih fun p mem => each p (List.mem_cons_of_mem part mem)
    cases parts with
    | nil =>
      rw [String.intercalate_singleton]
      exact first
    | cons next parts =>
      rw [String.intercalate_cons_cons,encode_append,encode_append]
      exact (first.append comma).append rest

theorem returns_array {items : List String} (each : ∀item∈items,Returns .plain (encode item)) :
    Returns .plain (encode (array items)) := by
  have opens : encode "["=[91] := by decide
  have closes : encode "]"=[93] := by decide
  have bytes : encode (array items)=91::(encode (",".intercalate items)++[93]) := by
    rw [array,encode_append,encode_append,opens,closes]
    rfl
  rw [bytes]
  exact (returns_wrap 1 (fun n => rfl) (returns_intercalate each) fun n => rfl).1

theorem returns_bool (value : Bool) : Returns .plain (encode (JsonText.bool value)) := by
  cases value
  · exact returns_plain (by decide +kernel)
  · exact returns_plain (by decide +kernel)

theorem returns_option {value : Option String}
    (each : ∀text,value=some text → Returns .plain (encode text)) :
    Returns .plain (encode (JsonText.option value)) := by
  cases value with
  | none => exact returns_plain (by decide +kernel)
  | some text => exact each text rfl

theorem returns_nat (n : Nat) : Returns .plain (encode n.repr) := by
  refine returns_plain fun b mem => ?_
  rw [encode,Nat.toList_repr] at mem
  obtain ⟨c,digit,inside⟩ := List.mem_flatMap.mp mem
  have range := Nat.isDigit_of_mem_toDigits (by decide) (by decide) digit
  simp only [Char.isDigit,Bool.and_eq_true,decide_eq_true_eq] at range
  have low : 48 ≤ c.toNat := range.1
  have high : c.toNat ≤ 57 := range.2
  have apart (d : UInt8) (ascii : d.toNat < 128) (other : d.toNat < 48 ∨ 57 < d.toNat) : b≠d := by
    intro same
    have equal := ascii_of_mem c d ascii (same ▸ inside)
    omega
  exact ⟨apart 34 (by decide) (by decide),apart 123 (by decide) (by decide),
    apart 91 (by decide) (by decide),apart 125 (by decide) (by decide),
    apart 93 (by decide) (by decide)⟩

/-- An object leads back, and no proper part of it does. -/
theorem returns_object {fields : List (String × String)}
    (each : ∀field∈fields,Returns .plain (encode field.2)) :
    Returns .plain (encode (object fields)) ∧
      ∀part,part <+: encode (object fields) → part≠encode (object fields) → ¬Balanced part := by
  have opens : encode "\x7b"=[123] := by decide
  have closes : encode "\x7d"=[125] := by decide
  have colon : Returns .plain (encode ":") := returns_plain (by decide +kernel)
  have bytes : encode (object fields)=123::(encode (",".intercalate (fields.map fun field =>
      string field.1++":"++field.2))++[125]) := by
    rw [object,encode_append,encode_append,opens,closes]
    rfl
  have inside : ∀text∈fields.map (fun field => string field.1++":"++field.2),
      Returns .plain (encode text) := by
    intro text mem
    obtain ⟨field,here,rfl⟩ := List.mem_map.mp mem
    rw [encode_append,encode_append]
    exact ((returns_string field.1).append colon).append (each field here)
  obtain ⟨whole,proper⟩ := @returns_wrap .plain _ .plain 123 125 1 (fun n => rfl)
    (returns_intercalate inside) fun n => rfl
  rw [bytes]
  refine ⟨whole,fun part cut short balanced => ?_⟩
  have deep := proper 0 part cut balanced.1 short
  rw [balanced.2] at deep
  exact absurd deep (by decide)

end Texts

end JsonDepth

import PolySql.Dialect.Basic
import PolySql.Proofs.Arithmetic.Reader

namespace PolySql

open Formula

def operator? : List Char → Option ArithOp
  | ['+'] => some .add
  | ['-'] => some .sub
  | ['*'] => some .mul
  | ['/'] => some .div
  | ['%'] => some .mod
  | _ => none

def wordTokens (w : List Char) : List (Token String) :=
  if w.isEmpty then []
  else
    match operator? w with
    | some o => [.operator o]
    | none => [.operand (String.ofList w)]

def isBreak (c : Char) : Bool :=
  c == ' ' || c == '(' || c == ')'

def breakTokens (c : Char) : List (Token String) :=
  if c == '(' then [.opening] else if c == ')' then [.closing] else []

inductive Quoting where
  | outside
  | inside
  | closed
  deriving DecidableEq

namespace Dialect

variable (d : Dialect)

def nextQuoting : Quoting → Char → Quoting
  | .inside, c => if c = d.closingQuote then .closed else .inside
  | .outside, c => if c = d.openingQuote then .inside else .outside
  | .closed, c =>
    if c = d.closingQuote then .inside else if c = d.openingQuote then .inside else .outside

def lexFrom (q : Quoting) (w : List Char) : List Char → List (Token String)
  | [] => wordTokens w
  | c :: t =>
    if q ≠ .inside ∧ isBreak c then wordTokens w ++ breakTokens c ++ lexFrom .outside [] t
    else lexFrom (d.nextQuoting q c) (w ++ [c]) t

def lex (t : List Char) : List (Token String) :=
  d.lexFrom .outside [] t

def isWordFrom (q : Quoting) : List Char → Bool
  | [] => q != .inside
  | c :: t => !(q != .inside && isBreak c) && isWordFrom (d.nextQuoting q c) t

structure ReadsAsOperand (w : String) : Prop where
  isWord : d.isWordFrom .outside w.toList = true
  wordTokens_eq : wordTokens w.toList = [.operand w]

def ReadsOperators : Prop :=
  ∀ o : ArithOp, d.isWordFrom .outside o.toBinary.sql.toList = true

end Dialect

namespace Formula

def enclosedChars (parens : Bool) (t : List Char) : List Char :=
  if parens then '(' :: (t ++ [')']) else t

def chars : Formula String → List Char
  | leaf w => w.toList
  | node a o b =>
    enclosedChars (a.needsParens o false) a.chars ++
      (' ' :: (o.toBinary.sql.toList ++ ' ' :: enclosedChars (b.needsParens o true) b.chars))

def Leaves {α : Type} (P : α → Prop) : Formula α → Prop
  | leaf x => P x
  | node a _ b => a.Leaves P ∧ b.Leaves P

end Formula

def EndsWord (t : List Char) : Prop :=
  ∀ c ∈ t.head?, isBreak c = true

namespace Dialect

variable {d : Dialect} {q : Quoting} {c : Char} {w t rest : List Char}

theorem lexFrom_break (hq : q ≠ .inside) (hc : isBreak c = true) :
    d.lexFrom q w (c :: t) = wordTokens w ++ (breakTokens c ++ d.lex t) := by
  rw [lexFrom, if_pos ⟨hq, hc⟩, List.append_assoc]
  rfl

theorem lex_break (hc : isBreak c = true) : d.lex (c :: t) = breakTokens c ++ d.lex t :=
  lexFrom_break (w := []) Quoting.noConfusion hc

theorem lexFrom_endsWord (hq : q ≠ .inside) (hr : EndsWord rest) :
    d.lexFrom q w rest = wordTokens w ++ d.lex rest := by
  cases rest with
  | nil => exact (List.append_nil _).symm
  | cons c t => rw [lexFrom_break hq (hr c rfl), lex_break (hr c rfl)]

theorem lexFrom_word (ht : d.isWordFrom q t = true) (hr : EndsWord rest) :
    d.lexFrom q w (t ++ rest) = wordTokens (w ++ t) ++ d.lex rest := by
  induction t generalizing q w with
  | nil =>
    rw [List.nil_append, List.append_nil]
    exact lexFrom_endsWord (bne_iff_ne.1 ht) hr
  | cons c t ih =>
    rw [isWordFrom, Bool.and_eq_true, Bool.not_eq_true', ← Bool.not_eq_true, Bool.and_eq_true,
      bne_iff_ne] at ht
    rw [List.cons_append, lexFrom, if_neg ht.1, ih ht.2, List.append_assoc, List.singleton_append]

theorem lex_operand {w : String} (hw : d.ReadsAsOperand w) (hr : EndsWord rest) :
    d.lex (w.toList ++ rest) = .operand w :: d.lex rest := by
  rw [lex, lexFrom_word hw.isWord hr, List.nil_append, hw.wordTokens_eq, List.singleton_append]

theorem lex_operator (hd : d.ReadsOperators) (o : ArithOp) (hr : EndsWord rest) :
    d.lex (o.toBinary.sql.toList ++ rest) = .operator o :: d.lex rest := by
  rw [lex, lexFrom_word (hd o) hr, List.nil_append]
  cases o <;> rfl

theorem lex_enclosed {ts : List (Token String)} (parens : Bool)
    (h : ∀ rest, EndsWord rest → d.lex (t ++ rest) = ts ++ d.lex rest) (hr : EndsWord rest) :
    d.lex (enclosedChars parens t ++ rest) = enclosed parens ts ++ d.lex rest := by
  cases parens with
  | false => exact h rest hr
  | true =>
    have hclosing : d.lex (')' :: rest) = .closing :: d.lex rest := lex_break rfl
    show d.lex ('(' :: (t ++ [')']) ++ rest) = .opening :: (ts ++ [.closing]) ++ d.lex rest
    rw [List.cons_append, lex_break rfl, List.append_assoc, List.singleton_append,
      h _ (by rintro c ⟨⟩; rfl), hclosing]
    simp [breakTokens]

theorem lex_chars (hd : d.ReadsOperators) {e : Formula String} (he : e.Leaves d.ReadsAsOperand)
    (hr : EndsWord rest) : d.lex (e.chars ++ rest) = e.tokens ++ d.lex rest := by
  induction e generalizing rest with
  | leaf w => exact lex_operand he hr
  | node a o b iha ihb =>
    have hblank (t : List Char) : EndsWord (' ' :: t) := by
      rintro c ⟨⟩
      rfl
    have hskip (t : List Char) : d.lex (' ' :: t) = d.lex t := lex_break rfl
    rw [chars, List.append_assoc, List.cons_append, List.append_assoc, List.cons_append,
      lex_enclosed _ (fun _ => iha he.1) (hblank _), hskip, lex_operator hd o (hblank _), hskip,
      lex_enclosed _ (fun _ => ihb he.2) hr, tokens, List.append_assoc, List.cons_append]

end Dialect

theorem read?_lex_chars {d : Dialect} (hd : d.ReadsOperators) {e : Formula String}
    (he : e.Leaves d.ReadsAsOperand) : read? (d.lex e.chars) = some e.reading := by
  have hend : EndsWord [] := by rintro c ⟨⟩
  have hlex := Dialect.lex_chars hd he hend
  rw [List.append_nil] at hlex
  rw [hlex, ← read?_tokens]
  exact congrArg read? (List.append_nil _)

end PolySql

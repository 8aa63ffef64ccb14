import PolySql.Proofs.Arithmetic.Lexer
import PolySql.Proofs.Inline.Names
import PolySql.Proofs.Number.Integer
import PolySql.Proofs.Write.Emission

namespace PolySql

open Emission Formula Number Text

inductive Operand where
  | column (table : Option String) (name : String)
  | int (n : Int64)

namespace Operand

def toExpr : Operand → Expr
  | column t n => .column t n
  | int n => .value (.int n)

def text (d : Dialect) : Operand → String
  | column t n => t.elim "" (fun t => d.quoteTable t ++ ".") ++ d.quoteColumn n
  | int n => intText n.toInt

def value (d : Dialect) (columns : String → Int) : Operand → Int
  | column t n => columns (text d (column t n))
  | int n => n.toInt

def IsLegible (d : Dialect) : Operand → Prop
  | column t n =>
    d.ReadsAsOperand (text d (column t n)) ∧ readInt? (text d (column t n)).toList = none
  | int _ => True

end Operand

def Formula.toExpr : Formula Operand → Expr
  | leaf x => x.toExpr
  | node a o b => .binary a.toExpr o.toBinary b.toExpr

def wordValue (columns : String → Int) (w : String) : Int :=
  (readInt? w.toList).getD (columns w)

def Dialect.readValue? (d : Dialect) (columns : String → Int) (s : String) : Option Int :=
  (read? (d.lex s.toList)).bind fun e => e.value? (wordValue columns)

structure Dialect.ReadsFormulas (d : Dialect) : Prop where
  literals : d.HasStandardLiterals
  operators : d.ReadsOperators
  ints : ∀ n : Int, d.ReadsAsOperand (intText n)

namespace Dialect

variable {d : Dialect} {columns : String → Int}

theorem sideNeedsParens_toExpr (o : ArithOp) (isRight : Bool) (e : Formula Operand) :
    sideNeedsParens o.toBinary isRight e.toExpr = e.needsParens o isRight := by
  cases e with
  | leaf x => cases x <;> cases o <;> cases isRight <;> rfl
  | node a p b => cases o <;> cases p <;> cases isRight <;> rfl

theorem needsParens_map {α β : Type} {g : α → β} (o : ArithOp) (isRight : Bool) (e : Formula α) :
    (e.map g).needsParens o isRight = e.needsParens o isRight := by
  simp only [needsParens, isLevel_map]

theorem toList_sql_parenthesizedIf {placeholder : String} (parens : Bool) {e : Emission}
    {t : List Char} (h : (e.sql placeholder).toList = t) :
    ((parenthesizedIf parens e).sql placeholder).toList = enclosedChars parens t := by
  cases parens with
  | false => exact h
  | true =>
    simp only [parenthesizedIf, if_true, parenthesized, sql_append, sql_lit, String.toList_append, h]
    rfl

theorem toList_sql_leaf (hd : d.ReadsFormulas) (placeholder : String) (x : Operand) :
    ((d.writeExpr x.toExpr).sql placeholder).toList = (x.text d).toList := by
  cases x with
  | column t n =>
    show ((d.writeQualifier t ++ lit _).sql _).toList = _
    cases t with
    | none => rfl
    | some t => simp only [writeQualifier, sql_append, sql_lit, Operand.text, Option.elim_some]
  | int n =>
    rw [Operand.toExpr, writeExpr, sql_lit, hd.literals.quote]
    rfl

theorem toList_sql_writeExpr (hd : d.ReadsFormulas) (placeholder : String) (e : Formula Operand) :
    ((d.writeExpr e.toExpr).sql placeholder).toList = (e.map (Operand.text d)).chars := by
  induction e with
  | leaf x => exact toList_sql_leaf hd placeholder x
  | node a o b iha ihb =>
    have ho : d.writeOperator o.toBinary = o.toBinary.sql := by
      cases o <;> rfl
    rw [Formula.toExpr, writeExpr]
    simp only [sql_append, sql_lit, String.toList_append, sideNeedsParens_toExpr, ho,
      toList_sql_parenthesizedIf _ iha, toList_sql_parenthesizedIf _ ihb, Formula.map, chars,
      needsParens_map, List.append_assoc]
    rfl

theorem ReadsFormulas.leaves (hd : d.ReadsFormulas) {e : Formula Operand}
    (he : e.Leaves (Operand.IsLegible d)) :
    (e.map (Operand.text d)).Leaves d.ReadsAsOperand := by
  induction e with
  | leaf x =>
    cases x with
    | column t n => exact he.1
    | int n => exact hd.ints n.toInt
  | node a o b iha ihb => exact ⟨iha he.1, ihb he.2⟩

theorem wordValue_text {x : Operand} (hx : x.IsLegible d) :
    wordValue columns (x.text d) = x.value d columns := by
  cases x with
  | column t n => rw [wordValue, hx.2]; rfl
  | int n => rw [wordValue, Operand.text, readInt?_intText]; rfl

theorem value?_map_text {e : Formula Operand} (he : e.Leaves (Operand.IsLegible d)) :
    (e.map (Operand.text d)).value? (wordValue columns) = e.value? (Operand.value d columns) := by
  induction e with
  | leaf x => exact congrArg some (wordValue_text he)
  | node a o b iha ihb => rw [Formula.map, value?, iha he.1, ihb he.2, value?]

theorem readValue?_writeExpr (hd : d.ReadsFormulas) {e : Formula Operand}
    (he : e.Leaves (Operand.IsLegible d)) (placeholder : String) :
    d.readValue? columns ((d.writeExpr e.toExpr).sql placeholder) =
      (e.map (Operand.text d)).reading.value? (wordValue columns) := by
  rw [readValue?, toList_sql_writeExpr hd, read?_lex_chars hd.operators (hd.leaves he)]
  rfl

theorem readValue?_of_keepsValue (hd : d.ReadsFormulas) {e : Formula Operand}
    (he : e.Leaves (Operand.IsLegible d)) (hk : e.keepsValue = true) (placeholder : String) :
    d.readValue? columns ((d.writeExpr e.toExpr).sql placeholder) =
      e.value? (Operand.value d columns) := by
  rw [readValue?_writeExpr hd he, value?_reading ((keepsValue_map e).trans hk), value?_map_text he]

end Dialect

theorem wordTokens_of_readInt? {w : String} {n : Int} (h : readInt? w.toList = some n) :
    wordTokens w.toList = [.operand w] := by
  have hnil : w.toList.isEmpty = false := by
    cases hw : w.toList with
    | nil => rw [hw] at h; cases h
    | cons c t => rfl
  have hop : operator? w.toList = none := by
    unfold operator?
    split
    all_goals first | rfl | (rename_i hw; rw [hw] at h; cases h)
  rw [wordTokens, hnil, hop, String.ofList_toList]
  rfl

namespace Dialect

variable {d : Dialect}

theorem isWordFrom_of_plain {t : List Char}
    (h : ∀ c ∈ t, isBreak c = false ∧ c ≠ d.openingQuote) : d.isWordFrom .outside t = true := by
  induction t with
  | nil => rfl
  | cons c t ih =>
    obtain ⟨⟨hc, hq⟩, ht⟩ := List.forall_mem_cons.1 h
    rw [isWordFrom, hc, nextQuoting, if_neg hq, ih ht]
    rfl

theorem readsFormulas_of_quote (hliterals : d.HasStandardLiterals)
    (h : d.openingQuote = '"' ∨ d.openingQuote = '[') :
    d.ReadsFormulas where
  literals := hliterals
  operators := by
    intro o
    have hplain : (o.toBinary.sql.toList.all fun c => !isBreak c && c != '"' && c != '[') = true := by
      cases o <;> rfl
    refine isWordFrom_of_plain fun c hc => ?_
    have hc' := List.all_eq_true.1 hplain c hc
    simp only [Bool.and_eq_true, Bool.not_eq_true', bne_iff_ne] at hc'
    rcases h with h | h <;> rw [h]
    · exact ⟨hc'.1.1, hc'.1.2⟩
    · exact ⟨hc'.1.1, hc'.2⟩
  ints n := by
    refine ⟨isWordFrom_of_plain fun c hc => ?_, wordTokens_of_readInt? (readInt?_intText n)⟩
    have hquote : c ≠ '"' ∧ c ≠ '[' ∧ isBreak c = false := by
      rcases isDigit_or_of_mem_intText hc with hd | rfl
      · have hne {k : Char} (hk : k.isDigit = false) : c ≠ k :=
          ne_of_apply_ne Char.isDigit (by simp [hd, hk])
        refine ⟨hne rfl, hne rfl, ?_⟩
        simp [isBreak, hne (k := ' ') rfl, hne (k := '(') rfl, hne (k := ')') rfl]
      · decide
    rcases h with h | h <;> rw [h]
    · exact ⟨hquote.2.2, hquote.1⟩
    · exact ⟨hquote.2.2, hquote.2.1⟩

end Dialect

end PolySql

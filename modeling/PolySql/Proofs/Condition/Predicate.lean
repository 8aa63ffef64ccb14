import PolySql.Proofs.Condition.Name
import PolySql.Proofs.Tree.Node

namespace PolySql

open Condition Emission Text

inductive Expr.IsTerm : Expr → Prop
  | value (v : Value) : IsTerm (.value v)
  | bind (v : Value) : IsTerm (.bind v)
  | column (table : Option String) (name : String) : IsTerm (.column table name)
  | function {name : String} {args : List Expr} {distinct : Bool} :
    (∀ a ∈ args, IsTerm a) → IsTerm (.function name args distinct)

abbrev Term := { e : Expr // e.IsTerm }

inductive Predicate where
  | test (t : Test Term)
  | not (p : Predicate)
  | and (p q : Predicate)
  | or (p q : Predicate)
  | group (p : Predicate)

def Test.toExpr : Test Term → Expr
  | compare l op r => .binary l.1 op.toBinary r.1
  | isNull e negated => .isNull e.1 negated
  | between e low high negated => .between e.1 low.1 high.1 negated
  | inList e list negated => .inList e.1 (list.map Subtype.val) negated

def Test.operands {α : Type} : Test α → List α
  | compare l _ r => [l, r]
  | isNull e _ => [e]
  | between e low high _ => [e, low, high]
  | inList e list _ => e :: list

def Dialect.text (d : Dialect) (e : Expr) : String :=
  (d.writeExpr e).sql d.placeholder

namespace Predicate

def toExpr : Predicate → Expr
  | test t => t.toExpr
  | not p => .unary .not p.toExpr
  | and p q => .binary p.toExpr .and q.toExpr
  | or p q => .binary p.toExpr .or q.toExpr
  | group p => .group p.toExpr

def operands : Predicate → List Term
  | test t => t.operands
  | not p | group p => p.operands
  | and p q | or p q => p.operands ++ q.operands

def condition (d : Dialect) : Predicate → Condition
  | test (.inList _ [] negated) => .constant negated
  | test t => .test (t.map fun e => d.text e.1)
  | not p => .not (p.condition d)
  | and p q => .and (p.condition d) (q.condition d)
  | or p q => .or (p.condition d) (q.condition d)
  | group p => p.condition d

end Predicate

def Node.KeepsNames (d : Dialect) : Node → Prop
  | .expr (.column t n) => (∀ a ∈ t, d.KeepsName a) ∧ d.KeepsName n
  | .expr (.function n _ _) => d.IsName n
  | _ => True

def Dialect.KeepsNames (d : Dialect) (e : Expr) : Prop :=
  (Node.expr e).Throughout Node.parts (Node.KeepsNames d)

theorem Emission.sql_separated (p sep : String) (es : List Emission) :
    (separated sep es).sql p = joined sep (es.map (sql p)) := by
  induction es with
  | nil => rfl
  | cons e es ih =>
    cases es with
    | nil => rfl
    | cons e' es =>
      show sql p (e ++ lit sep ++ separated sep (e' :: es)) = _
      rw [sql_append, sql_append, sql_lit, ih]
      rfl

theorem Emission.sql_parenthesizedIf (p : String) (b : Bool) (e : Emission) :
    (parenthesizedIf b e).sql p = if b then "(" ++ e.sql p ++ ")" else e.sql p := by
  cases b with
  | false => rfl
  | true => simp only [parenthesizedIf, parenthesized, sql_append, sql_lit, if_true]

theorem Expr.IsTerm.isBinary_eq {e : Expr} (h : e.IsTerm) : e.isBinary = false := by
  cases h <;> rfl

theorem Expr.IsTerm.sideNeedsParens_eq {e : Expr} (h : e.IsTerm) (op : BinaryOp) (isRight : Bool) :
    Dialect.sideNeedsParens op isRight e = false := by
  cases h <;> rfl

namespace Dialect

variable {d : Dialect} {e : Expr}

theorem text_function (name : String) (args : List Expr) (distinct : Bool) :
    d.text (.function name args distinct) = callText name distinct (args.map d.text) := by
  rw [text, writeExpr]
  simp only [sql_append, sql_lit, sql_separated, writeExprs_eq, List.map_map]
  rfl

theorem text_column (table : Option String) (name : String) :
    d.text (.column table name) =
      table.elim "" (fun a => d.quoteTable a ++ ".") ++ d.quoteColumn name := by
  cases table with
  | none => simp [text, writeExpr, writeQualifier]
  | some a => simp [text, writeExpr, writeQualifier, sql_append, String.append_assoc]

theorem isOperand_text (hd : d.QuotesParts) (hp : d.placeholder = "?") (he : e.IsTerm)
    (hn : d.KeepsNames e) : d.IsOperand (d.text e) := by
  induction he with
  | value v =>
    rw [text, writeExpr, sql_lit]
    exact isOperand_quote hd.plainly hd.literals v
  | bind v =>
    have htext : d.text (.bind v) = "?" := by
      rw [text, hp]
      rfl
    rw [htext]
    exact isOperand_of_isBare hd.plainly rfl (by decide) rfl
  | column t n =>
    obtain ⟨ht, hn⟩ := (Node.throughout_iff.1 hn).1
    rw [text_column]
    exact (hd.isName_column ht hn).isOperand hd.plainly
  | @function name args distinct hargs ih =>
    obtain ⟨hname, hparts⟩ := Node.throughout_iff.1 hn
    rw [text_function]
    refine isOperand_callText hd.plainly (IsName.isOperand hd.plainly hname) distinct ?_
    exact List.forall_mem_map.2 fun a ha => ih a ha (hparts _ (List.mem_map_of_mem ha))

theorem lexesTo_comparison (hd : d.QuotesPlainly) (op : Comparison) :
    d.LexesTo (d.writeOperator op.toBinary) (comparisonLexemes op) := by
  cases op with
  | notLike =>
    have hlike := lexesTo_reserved hd (v := "LIKE") (x := .comparison .like) (by simp [reserved])
    have hphrase := (lexesTo_not hd).blank hlike
    exact hphrase
  | _ =>
    exact lexesTo_reserved hd (by simp [reserved, writeOperator, Comparison.toBinary, BinaryOp.sql])

theorem lexesTo_list {list : List String} (hne : list ≠ [])
    (h : ∀ a ∈ list, d.IsOperand a) : d.LexesTo (joined ", " list) (listLexemes list) := by
  induction list with
  | nil => exact absurd rfl hne
  | cons a list ih =>
    obtain ⟨ha, hlist⟩ := List.forall_mem_cons.1 h
    cases list with
    | nil => exact ha.lexesTo
    | cons a' list => exact ha.lexesTo.comma (ih (List.cons_ne_nil _ _) hlist)

theorem lexesTo_test (hd : d.QuotesPlainly) {t : Test Term}
    (ht : ∀ e negated, t ≠ .inList e [] negated)
    (h : ∀ a ∈ t.operands, d.IsOperand (d.text a.1)) :
    d.LexesTo (d.text t.toExpr) (testLexemes (t.map fun a => d.text a.1)) := by
  cases t with
  | compare l op r =>
    obtain ⟨hl, hr⟩ := List.forall_mem_cons.1 h
    have htext : d.text (Test.compare l op r).toExpr =
        d.text l.1 ++ (" " ++ d.writeOperator op.toBinary ++ " ") ++ d.text r.1 := by
      simp only [text, Test.toExpr, writeExpr, l.2.sideNeedsParens_eq, r.2.sideNeedsParens_eq,
        sql_parenthesizedIf, sql_append, sql_lit, Bool.false_eq_true, if_false, String.append_assoc]
    rw [htext]
    simpa [testLexemes, Test.map] using
      hl.lexesTo.phrase (hr r (List.mem_singleton_self r)).lexesTo (lexesTo_comparison hd op) rfl
  | isNull e negated =>
    have he := (h e (List.mem_singleton_self e)).lexesTo
    have his := lexesTo_reserved hd (v := "IS") (x := .is) (by simp [reserved])
    have hnull : d.LexesTo "NULL" [.operand "NULL"] :=
      (isOperand_of_isBare hd rfl (by decide) rfl).lexesTo
    have htext : d.text (Test.isNull e negated).toExpr =
        d.text e.1 ++ " " ++ ("IS" ++ " " ++ if negated then "NOT" ++ " " ++ "NULL" else "NULL") := by
      simp only [text, Test.toExpr, writeExpr, e.2.isBinary_eq, sql_parenthesizedIf, sql_append,
        sql_lit, Bool.false_eq_true, if_false, String.append_assoc]
      cases negated <;> rfl
    rw [htext]
    simpa [testLexemes, Test.map] using he.blank (his.blank (hnull.negated hd negated))
  | between e low high negated =>
    obtain ⟨he, h⟩ := List.forall_mem_cons.1 h
    obtain ⟨hlow, hhigh⟩ := List.forall_mem_cons.1 h
    have hbetween := lexesTo_reserved hd (v := "BETWEEN") (x := .between) (by simp [reserved])
    have htext : d.text (Test.between e low high negated).toExpr =
        d.text e.1 ++ (if negated then " NOT BETWEEN " else " BETWEEN ") ++ d.text low.1 ++ " AND " ++
          d.text high.1 := by
      simp only [text, Test.toExpr, writeExpr, e.2.isBinary_eq, low.2.isBinary_eq,
        high.2.isBinary_eq, sql_parenthesizedIf, sql_append, sql_lit, Bool.false_eq_true, if_false]
    have hlower := he.lexesTo.phrase (k := if negated then " NOT BETWEEN " else " BETWEEN ")
      hlow.lexesTo (hbetween.negated hd negated) (by cases negated <;> rfl)
    have hall := hlower.phrase (k := " AND ") (hhigh high (List.mem_singleton_self high)).lexesTo
      (lexesTo_and hd) rfl
    rw [htext]
    simpa [testLexemes, Test.map] using hall
  | inList e list negated =>
    obtain ⟨he, hlist⟩ := List.forall_mem_cons.1 h
    have hin := lexesTo_reserved hd (v := "IN") (x := .within) (by simp [reserved])
    have hne : list ≠ [] := by
      rintro rfl
      exact ht e negated rfl
    have hempty : (list.map Subtype.val).isEmpty = false :=
      List.isEmpty_eq_false_iff.2 (mt List.map_eq_nil_iff.1 hne)
    have htext : d.text (Test.inList e list negated).toExpr =
        d.text e.1 ++ (if negated then " NOT IN " else " IN ") ++
          ("(" ++ joined ", " (list.map fun a => d.text a.1) ++ ")") := by
      simp only [text, Test.toExpr, writeExpr, hempty, e.2.isBinary_eq, sql_parenthesizedIf,
        sql_append, sql_lit, Bool.false_eq_true, if_false, parenthesized, sql_separated,
        writeExprs_eq, List.map_map]
      rfl
    have hitems : d.LexesTo (joined ", " (list.map fun a => d.text a.1)) _ :=
      lexesTo_list (mt List.map_eq_nil_iff.1 hne) (List.forall_mem_map.2 hlist)
    have hall := he.lexesTo.phrase (k := if negated then " NOT IN " else " IN ") hitems.enclosed
      (hin.negated hd negated) (by cases negated <;> rfl)
    rw [htext]
    simpa [testLexemes, Test.map] using hall

end Dialect

end PolySql

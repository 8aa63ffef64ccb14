import PolySql.Proofs.Comment.Name
import PolySql.Proofs.Text.Literal

namespace PolySql

open Emission Text

namespace Expr

def opensWithSign (d : Dialect) : Expr → Bool
  | .value v => (d.quote v).toList.head? == some '-'
  | .unary op _ => op == .neg
  | .function n _ _ => n.toList.head? == some '-'
  | .inSubquery e _ _ | .isNull e _ | .between e _ _ _ | .bin e => e.opensWithSign d
  | .inList e l _ => !l.isEmpty && e.opensWithSign d
  | .group e => Dialect.isGrouped e && e.opensWithSign d
  | .bind _ | .column _ _ | .binary _ _ _ | .subquery _ | .exists _ _ | .case _ _ _ | .raw _ _
  | .wildcard _ => false

theorem opensWithSign_transform (d : Dialect) (step : Bool → Select → Select) (e : Expr) :
    (e.transform step).opensWithSign d = e.opensWithSign d := by
  fun_induction opensWithSign d e with
  | case8 e l n ih =>
    rw [transform, opensWithSign, ih, transformList_eq, List.isEmpty_map]
  | case9 e ih => rw [transform, opensWithSign, ih, (keepsShape_transform step).isGrouped]
  | _ => simp_all [transform, opensWithSign]

end Expr

def Emission.Opens (sign : Bool) (a : Emission) : Prop :=
  ∃ c t, (a.sql "?").toList = c :: t ∧ (c == '-') = sign

namespace Emission

variable {sign : Bool} {a b : Emission} {s : String}

theorem opens_of_sql_eq (hs : a.sql "?" = s) (hne : s ≠ "") :
    Opens (s.toList.head? == some '-') a := by
  cases h : s.toList with
  | nil => exact absurd (String.toList_eq_nil_iff.1 h) hne
  | cons c t => exact ⟨c, t, by rw [hs, h], by simp⟩

theorem opens_lit (hne : s ≠ "") : Opens (s.toList.head? == some '-') (lit s) :=
  opens_of_sql_eq (sql_lit ..) hne

theorem Opens.append (h : Opens sign a) (b : Emission) : Opens sign (a ++ b) := by
  obtain ⟨c, t, ht, hc⟩ := h
  exact ⟨c, t ++ (b.sql "?").toList, by rw [sql_append, String.toList_append, ht]; rfl, hc⟩

theorem opens_parenthesized (a : Emission) : Opens false (parenthesized a) :=
  ((opens_lit (s := "(") (by decide)).append a).append (lit ")")

theorem Opens.head?_eq (h : Opens sign a) : ((a.sql "?").toList.head? == some '-') = sign := by
  obtain ⟨c, t, ht, rfl⟩ := h
  rw [ht]
  simp

theorem Opens.sql_ne (h : Opens sign a) : a.sql "?" ≠ "" := by
  obtain ⟨c, t, ht, -⟩ := h
  intro hempty
  rw [hempty] at ht
  cases ht

end Emission

namespace Dialect

variable {d : Dialect}

theorem IsQuotedName.opens {v : String} (hd : d.QuotesPlainly) (h : d.IsQuotedName v) :
    Opens false (lit v) := by
  obtain ⟨t, ht⟩ := h.exists_eq
  refine ⟨d.openingQuote, t, by rw [sql_lit, ht], ?_⟩
  rcases hd with ⟨hopening, -⟩ | ⟨hopening, -⟩ <;> rw [hopening] <;> rfl

namespace QuotesLabels

variable (hd : d.QuotesLabels) {t : Option String} (ht : ∀ a ∈ t, d.KeepsName a)
include hd ht

theorem opens_qualified {b : Emission} (hb : Opens false b) :
    Opens false (d.writeQualifier t ++ b) := by
  cases t with
  | none => exact hb
  | some a =>
    exact (((hd.quoteTable (ht a rfl)).opens hd.plainly).append (lit ".")).append b

theorem opens_column {n : String} (hn : d.KeepsName n) :
    Opens false (d.writeExpr (.column t n)) := by
  refine hd.opens_qualified ht ?_
  by_cases hstar : n = "*"
  · rw [hstar, hd.quoteColumn_star]
    exact opens_lit (by decide)
  · exact (hd.quoteColumn hn hstar).opens hd.plainly

end QuotesLabels

theorem opens_operand (hd : d.QuotesLabels) {e : Expr}
    (h : (Node.expr e).Throughout Node.children (Node.IsContained d)) :
    Opens (e.opensWithSign d) (parenthesizedIf e.isBinary (d.writeExpr e)) := by
  generalize hn : Node.expr e = n at h
  induction h generalizing e with
  | intro he _ ih =>
    subst hn
    cases e with
    | value v => exact opens_lit (hd.literals.isLiteral_quote v).ne_empty
    | bind v => exact opens_of_sql_eq (s := "?") rfl (by decide)
    | column t n => exact hd.opens_column he.1 he.2
    | wildcard t => exact hd.opens_qualified he (opens_lit (by decide))
    | raw text binds =>
      obtain ⟨rfl, n, rfl⟩ := he
      exact opens_of_sql_eq (s := "TOP(?) 1") (by rfl) (by decide)
    | unary op e =>
      refine Opens.append ?_ _
      cases op <;> exact opens_lit (by decide)
    | function n as dist =>
      refine Opens.append (Opens.append (Opens.append ?_ _) _) _
      have hhead : ((n ++ "(").toList.head? == some '-') = (n.toList.head? == some '-') := by
        rw [String.toList_append]
        cases n.toList <;> rfl
      have hcall : Opens ((n ++ "(").toList.head? == some '-') (lit n ++ lit "(") :=
        opens_of_sql_eq (by rw [sql_append, sql_lit, sql_lit]) (by simp)
      rwa [hhead] at hcall
    | binary l op r => exact opens_parenthesized _
    | subquery q => exact opens_parenthesized _
    | «exists» q n =>
      refine Opens.append ?_ _
      cases n <;> exact opens_lit (by decide)
    | case o bs e => exact ((((opens_lit (by decide)).append _).append _).append _).append _
    | isNull e n => exact (ih (.expr e) (List.mem_cons_self ..) rfl).append _
    | bin e => exact (ih (.expr e) (List.mem_cons_self ..) rfl).append _
    | inSubquery e q n => exact ((ih (.expr e) (List.mem_cons_self ..) rfl).append _).append _
    | between e low high n =>
      exact ((((ih (.expr e) (List.mem_cons_self ..) rfl).append _).append _).append _).append _
    | inList e l n =>
      cases l with
      | nil =>
        cases n with
        | true => exact opens_lit (s := "1=1") (by decide)
        | false => exact opens_lit (s := "1=0") (by decide)
      | cons x l => exact ((ih (.expr e) (List.mem_cons_self ..) rfl).append _).append _
    | group e =>
      have hgroup := ih (.expr e) (List.mem_cons_self ..) rfl
      cases e with
      | subquery q => exact hgroup
      | group e => exact hgroup
      | _ => exact opens_parenthesized _

end Dialect

example : (Expr.isNull (.value (.int (-1))) false).opensWithSign Generic.dialect = true := by
  decide

end PolySql

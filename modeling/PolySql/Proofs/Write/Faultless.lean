import PolySql.Proofs.Tree.Statement
import PolySql.Proofs.Write.Emission
import PolySql.Proofs.Write.Equations

namespace PolySql

open Emission Text

def Node.IsValid : Node → Prop
  | .expr (.raw text binds) => placeholderCount text = binds.length
  | .select s => s.projections ≠ []
  | .expr _ | .table _ => True

namespace Emission

theorem isFaultless_interleave (segments : List String) (vs : List Value) :
    (interleave segments vs).IsFaultless := by
  induction segments generalizing vs with
  | nil => exact isFaultless_nil
  | cons s rest ih =>
    cases rest with
    | nil => exact isFaultless_lit s
    | cons s' rest =>
      cases vs with
      | nil => exact isFaultless_lit s
      | cons v vs =>
        exact isFaultless_append.2 ⟨isFaultless_lit s, List.forall_mem_cons.2 ⟨rfl, ih vs⟩⟩

theorem isFaultless_fragment {text : String} {binds : List Value}
    (h : placeholderCount text = binds.length) : (fragment text binds).IsFaultless := by
  rw [fragment, if_pos h]
  exact isFaultless_interleave _ _

theorem isFaultless_flatMap {α : Type} {xs : List α} {f : α → Emission}
    (h : ∀ x ∈ xs, (f x).IsFaultless) : IsFaultless (xs.flatMap f) :=
  List.forall_mem_flatMap.2 h

end Emission

namespace Dialect

variable {d : Dialect}

theorem isFaultless_clause {keyword : String} {items : List Emission}
    (h : ∀ e ∈ items, e.IsFaultless) : (clause keyword items).IsFaultless := by
  unfold clause
  split
  · exact isFaultless_nil
  · exact isFaultless_append.2 ⟨isFaultless_lit _, isFaultless_separated.2 h⟩

theorem isFaultless_writeQualifier (t : Option String) : (d.writeQualifier t).IsFaultless := by
  cases t <;> simp [writeQualifier, isFaultless_append]

theorem isFaultless_writeCollation : d.writeCollation.IsFaultless := by
  unfold writeCollation
  split <;> simp [isFaultless_append]

theorem isFaultless_writeLockHint (lock : Option Lock) : (d.writeLockHint lock).IsFaultless := by
  unfold writeLockHint
  split
  · exact isFaultless_nil
  · split
    · split <;> simp [isFaultless_append]
    · exact isFaultless_nil

theorem isFaultless_writeTrailingLock (lock : Option Lock) :
    (d.writeTrailingLock lock).IsFaultless := by
  unfold writeTrailingLock
  split
  · exact isFaultless_nil
  · split <;> simp [isFaultless_append]

section Parts

theorem isFaultless_writeExprs {es : List Expr} (h : ∀ e ∈ es, (d.writeExpr e).IsFaultless) :
    (separated ", " (d.writeExprs es)).IsFaultless := by
  rw [writeExprs_eq]
  exact isFaultless_separated.2 (List.forall_mem_map.2 h)

theorem isFaultless_writeOption (keyword : String) {o : Option Expr}
    (h : ∀ e ∈ o, (d.writeExpr e).IsFaultless) : (d.writeOption keyword o).IsFaultless := by
  cases o with
  | none => exact isFaultless_nil
  | some e => exact isFaultless_append.2 ⟨isFaultless_lit _, h e rfl⟩

theorem isFaultless_writeBranches {bs : List Branch}
    (h : ∀ b ∈ bs, (d.writeExpr b.test).IsFaultless ∧ (d.writeExpr b.result).IsFaultless) :
    (d.writeBranches bs).IsFaultless := by
  rw [writeBranches_eq]
  refine isFaultless_flatMap fun b hb => ?_
  obtain ⟨ht, hr⟩ := h b hb
  cases b
  simpa [writeBranch, isFaultless_append] using And.intro ht hr

theorem isFaultless_writeConjunction {keyword : String} {es : List Expr}
    (h : ∀ e ∈ es, (d.writeExpr e).IsFaultless) : (d.writeConjunction keyword es).IsFaultless := by
  unfold writeConjunction conjunction
  split
  · exact isFaultless_nil
  · refine isFaultless_append.2 ⟨isFaultless_lit _, isFaultless_separated.2 ?_⟩
    simpa using h

theorem isFaultless_writeExpr {e : Expr} (he : (Node.expr e).IsValid)
    (hm : ∀ m ∈ e.parts, (m.write d).IsFaultless) : (d.writeExpr e).IsFaultless := by
  cases e with
  | value v => exact isFaultless_lit _
  | bind v => exact List.forall_mem_singleton.2 rfl
  | column t n => exact isFaultless_append.2 ⟨isFaultless_writeQualifier t, isFaultless_lit _⟩
  | binary l op r =>
    have h := forall_mem_two.1 hm
    simpa [writeExpr, isFaultless_append] using h
  | unary op e =>
    have h := List.forall_mem_singleton.1 hm
    simpa [writeExpr, isFaultless_append] using h
  | function n as distinct =>
    have has := List.forall_mem_map.1 hm
    have h := isFaultless_writeExprs has
    simpa only [writeExpr, isFaultless_append, isFaultless_lit, true_and, and_true] using h
  | subquery q =>
    have h := List.forall_mem_singleton.1 hm
    exact isFaultless_parenthesized.2 h
  | «exists» q n =>
    have h := List.forall_mem_singleton.1 hm
    exact isFaultless_append.2 ⟨isFaultless_lit _, isFaultless_parenthesized.2 h⟩
  | inSubquery e q n =>
    have h := forall_mem_two.1 hm
    simpa [writeExpr, isFaultless_append] using h
  | isNull e n =>
    have h := List.forall_mem_singleton.1 hm
    simpa [writeExpr, isFaultless_append] using h
  | inList e l n =>
    obtain ⟨he, hl⟩ := List.forall_mem_cons.1 hm
    have hl := List.forall_mem_map.1 hl
    have hlist := isFaultless_writeExprs hl
    unfold writeExpr
    split
    · exact isFaultless_lit _
    · simpa only [isFaultless_append, isFaultless_lit, isFaultless_parenthesized,
        isFaultless_parenthesizedIf, and_true, Node.write_expr] using And.intro he hlist
  | between e low high n =>
    obtain ⟨he, hbounds⟩ := List.forall_mem_cons.1 hm
    have h := And.intro he (forall_mem_two.1 hbounds)
    simpa [writeExpr, isFaultless_append, and_assoc] using h
  | case o bs e =>
    obtain ⟨ho, hbs, he⟩ := Expr.forall_parts_case.1 hm
    have hcase := And.intro (isFaultless_writeBranches hbs) (isFaultless_writeOption " ELSE " he)
    simpa [writeExpr, isFaultless_append, and_assoc] using
      And.intro (isFaultless_writeOption " " ho) hcase
  | group e =>
    have h := List.forall_mem_singleton.1 hm
    exact isFaultless_parenthesizedIf.2 h
  | bin e =>
    have h := List.forall_mem_singleton.1 hm
    exact isFaultless_append.2 ⟨isFaultless_parenthesizedIf.2 h, isFaultless_writeCollation⟩
  | raw text binds => exact isFaultless_fragment he
  | wildcard t => exact isFaultless_append.2 ⟨isFaultless_writeQualifier t, isFaultless_lit _⟩

theorem isFaultless_writeTable {t : TableRef} (hm : ∀ m ∈ t.parts, (m.write d).IsFaultless) :
    (d.writeTable t).IsFaultless := by
  cases t with
  | table schema n label => cases label <;> simp [writeTable, isFaultless_append]
  | derived q label =>
    have h := List.forall_mem_singleton.1 hm
    simpa [writeTable, isFaultless_append] using h
  | raw text => exact isFaultless_lit text

theorem isFaultless_writeProjection {p : Projection} (h : (d.writeExpr p.expr).IsFaultless) :
    (d.writeProjection p).IsFaultless := by
  obtain ⟨e, label⟩ := p
  cases label <;> simpa [writeProjection, isFaultless_append] using h

theorem isFaultless_writeJoin {lock : Option Lock} {j : Join}
    (ht : (d.writeTable j.table).IsFaultless) (hc : ∀ e ∈ j.condition, (d.writeExpr e).IsFaultless) :
    (d.writeJoin lock j).IsFaultless := by
  cases j
  simpa [writeJoin, isFaultless_append, isFaultless_writeLockHint] using
    And.intro ht (isFaultless_writeOption " ON " hc)

theorem isFaultless_writeOrder {o : Order} (h : (d.writeExpr o.expr).IsFaultless) :
    (d.writeOrder o).IsFaultless := by
  obtain ⟨e, direction, nulls⟩ := o
  cases nulls with
  | none => simpa [writeOrder, isFaultless_append] using h
  | some n =>
    unfold writeOrder
    dsimp only
    split <;> simpa [isFaultless_append] using h

end Parts

structure PageBound.IsFaultless (b : PageBound) : Prop where
  plain : b.plain.IsFaultless
  operand : b.operand.IsFaultless

theorem isFaultless_writeBound {o : Option Expr} (h : ∀ e ∈ o, (d.writeExpr e).IsFaultless) :
    ∀ b ∈ d.writeBound o, b.IsFaultless := by
  cases o with
  | none => rintro b ⟨⟩
  | some e =>
    rintro b ⟨⟩
    exact ⟨h e rfl, isFaultless_parenthesizedIf.2 (h e rfl)⟩

section Paging
variable {l o : Option PageBound} (hl : ∀ b ∈ l, b.IsFaultless)
include hl

theorem isFaultless_writeFetchFirst : (writeFetchFirst l).IsFaultless := by
  cases l with
  | none => exact isFaultless_nil
  | some b =>
    have hplain := (hl b rfl).plain
    unfold writeFetchFirst
    dsimp only
    split
    · split <;> exact isFaultless_lit _
    · simpa [isFaultless_append] using hplain

theorem isFaultless_writeRowWindow {body : Emission} {b : PageBound} (hbody : body.IsFaultless)
    (hb : b.IsFaultless) : (writeRowWindow body l b).IsFaultless := by
  unfold writeRowWindow
  refine isFaultless_append.2 ⟨isFaultless_append.2 ⟨isFaultless_append.2 ⟨isFaultless_append.2
    ⟨isFaultless_lit _, hbody⟩, isFaultless_lit _⟩, ?_⟩, ?_⟩
  · split
    · exact isFaultless_lit _
    · exact hb.operand
  · cases l with
    | none => exact isFaultless_nil
    | some x =>
      refine isFaultless_append.2 ⟨isFaultless_lit _, ?_⟩
      unfold writeLastRow
      split
      · exact isFaultless_lit _
      · simpa [isFaultless_append] using And.intro (hl x rfl).operand hb.operand

variable (ho : ∀ b ∈ o, b.IsFaultless)
include ho

theorem isFaultless_writePaging : (d.writePaging l o).IsFaultless := by
  unfold writePaging
  split
  · refine isFaultless_append.2 ⟨?_, ?_⟩
    · cases l with
      | none =>
        dsimp only
        split <;> simp
      | some b => simpa [isFaultless_append] using (hl b rfl).plain
    · cases o with
      | none => exact isFaultless_nil
      | some b => simpa [isFaultless_append] using (ho b rfl).plain
  · refine isFaultless_append.2 ⟨?_, ?_⟩
    · cases o with
      | none => exact isFaultless_nil
      | some b => simpa [isFaultless_append] using (ho b rfl).plain
    · cases l with
      | none => exact isFaultless_nil
      | some b =>
        dsimp only
        split
        · exact isFaultless_lit _
        · simpa [isFaultless_append] using (hl b rfl).plain
  · exact isFaultless_writeFetchFirst hl

theorem isFaultless_writePaged {core lock : Emission} (hcore : core.IsFaultless)
    (hlock : lock.IsFaultless) : (d.writePaged core lock l o).IsFaultless := by
  have hpaged {l o : Option PageBound} (hl : ∀ b ∈ l, b.IsFaultless) (ho : ∀ b ∈ o, b.IsFaultless) :
      (core ++ d.writePaging l o ++ lock).IsFaultless :=
    isFaultless_append.2 ⟨isFaultless_append.2 ⟨hcore, isFaultless_writePaging hl ho⟩, hlock⟩
  unfold writePaged
  split
  · exact isFaultless_writeRowWindow hl (isFaultless_append.2 ⟨hcore, hlock⟩) (ho _ rfl)
  · split
    · simpa [isFaultless_append] using And.intro hcore hlock
    · exact hpaged hl (by rintro b ⟨⟩)
  · exact hpaged hl ho

end Paging

theorem isFaultless_writeSelect {s : Select} (hs : s.projections ≠ [])
    (hm : ∀ m ∈ (Node.select s).children, (m.write d).IsFaultless) : (d.writeSelect s).IsFaultless := by
  obtain ⟨hparts, hbounds⟩ := List.forall_mem_append.1 hm
  obtain ⟨hp, ht, hj, hw, hg, hh, ho⟩ := Select.forall_parts.1 hparts
  obtain ⟨hlimit, hoffset⟩ := Select.forall_bounds.1 hbounds
  have hsource : (d.writeSource s.lock s.source).IsFaultless := by
    rw [writeSource_eq]
    cases hsource : s.source with
    | none => exact isFaultless_nil
    | some t =>
      simpa [isFaultless_append, isFaultless_writeLockHint, Node.write] using ht t hsource
  have hjoins : (d.writeJoins s.lock s.joins).IsFaultless := by
    rw [writeJoins_eq]
    exact isFaultless_flatMap fun j hmem => isFaultless_writeJoin (hj j hmem).1 (hj j hmem).2
  have hcolumns : ∀ e ∈ s.projections.map d.writeProjection, e.IsFaultless :=
    List.forall_mem_map.2 fun p hmem => isFaultless_writeProjection (hp p hmem)
  have hbody : (d.writeBody s).IsFaultless := by
    unfold writeBody
    simp only [isFaultless_append, isFaultless_lit, isFaultless_separated, and_true,
      List.isEmpty_eq_false_iff.2 hs, Bool.false_eq_true, if_false, isFaultless_nil, true_and]
    exact ⟨⟨⟨⟨⟨hcolumns, hsource⟩, hjoins⟩, isFaultless_writeConjunction hw⟩,
      isFaultless_clause (List.forall_mem_map.2 hg)⟩, isFaultless_writeConjunction hh⟩
  have horders : (d.writeOrderBy s).IsFaultless :=
    isFaultless_clause (List.forall_mem_map.2 fun o hmem => isFaultless_writeOrder (ho o hmem))
  rw [writeSelect_eq]
  exact isFaultless_writePaged (isFaultless_writeBound hlimit) (isFaultless_writeBound hoffset)
    (isFaultless_append.2 ⟨hbody, horders⟩) (isFaultless_writeTrailingLock _)

end Dialect

theorem Node.isFaultless_write {d : Dialect} {n : Node} (h : n.Throughout children IsValid) :
    (n.write d).IsFaultless := by
  induction h with
  | @intro n h _ ih =>
    cases n with
    | expr e => exact Dialect.isFaultless_writeExpr h ih
    | table t => exact Dialect.isFaultless_writeTable ih
    | select s => exact Dialect.isFaultless_writeSelect h ih

def Statement.IsFilled : Statement → Prop
  | select _ | delete _ => True
  | insert s =>
    match s.source with
    | .rows rs => rs ≠ [] ∧ (s.columns ≠ [] → ∀ row ∈ rs, row.length = s.columns.length)
    | .query _ | .defaults => True
  | update s => s.assignments ≠ []

namespace Dialect

variable {d : Dialect}

theorem isFaultless_of_mem_writeRows {columns : List String} {rs : List (List Expr)} (start : Nat)
    (hfit : columns ≠ [] → ∀ row ∈ rs, row.length = columns.length)
    (hm : ∀ row ∈ rs, ∀ e ∈ row, (d.writeExpr e).IsFaultless) :
    ∀ e ∈ d.writeRows columns start rs, e.IsFaultless := by
  induction rs generalizing start with
  | nil => rintro e ⟨⟩
  | cons row rs ih =>
    obtain ⟨hrow, hrows⟩ := List.forall_mem_cons.1 hm
    refine List.forall_mem_cons.2 ⟨?_, ih _ (fun hc row hr => hfit hc row (List.mem_cons_of_mem _ hr)) hrows⟩
    have hlength : (!columns.isEmpty && row.length != columns.length) = false := by
      by_cases hc : columns = []
      · simp [hc]
      · simp [hfit hc row (List.mem_cons_self ..)]
    rw [writeRow, hlength]
    exact isFaultless_parenthesized.2 (isFaultless_writeExprs hrow)

theorem isFaultless_writeInsertSource {s : Insert} (hs : (Statement.insert s).IsFilled)
    (hm : ∀ n ∈ s.source.roots, (n.write d).IsFaultless) :
    (d.writeInsertSource s.columns s.source).IsFaultless := by
  unfold Statement.IsFilled at hs
  cases hsource : s.source with
  | rows rs =>
    rw [hsource] at hm
    simp only [hsource] at hs
    have hexprs := List.forall_mem_map.1 hm
    have hrows := isFaultless_of_mem_writeRows 0 hs.2 fun row hr e he =>
      hexprs e (List.mem_flatten_of_mem hr he)
    cases rs with
    | nil => exact absurd rfl hs.1
    | cons row rs => exact isFaultless_append.2 ⟨isFaultless_lit _, isFaultless_separated.2 hrows⟩
  | query q =>
    rw [hsource] at hm
    have hq := List.forall_mem_singleton.1 hm
    exact isFaultless_append.2 ⟨isFaultless_lit _, hq⟩
  | defaults => exact isFaultless_lit _

theorem isFaultless_writeInsert {s : Insert}
    (hsource : (d.writeInsertSource s.columns s.source).IsFaultless) :
    (d.writeInsert s).IsFaultless := by
  have hcolumns : (d.writeColumns s.columns).IsFaultless := by
    unfold writeColumns
    split <;> simp [isFaultless_append]
  have hreturned (qualifier : String) : (d.writeReturned qualifier s.returning).IsFaultless :=
    isFaultless_lit _
  have hplain (output : Bool) : (d.writePlainInsert output s).IsFaultless := by
    refine isFaultless_append.2 ⟨isFaultless_append.2 ⟨?_, ?_⟩, hsource⟩
    · simpa [isFaultless_append] using hcolumns
    · cases output with
      | true => exact isFaultless_append.2 ⟨isFaultless_lit _, hreturned _⟩
      | false => exact isFaultless_nil
  unfold writeInsert
  split
  · exact hplain false
  · split
    · exact hplain false
    · exact hplain true
    · simpa [isFaultless_append] using And.intro (hplain false) (hreturned "")
    · simpa [isFaultless_append] using And.intro (hreturned "") (hplain false)

theorem isFaultless_writeStatement {s : Statement} (hs : s.IsFilled)
    (hm : ∀ n ∈ s.roots, (n.write d).IsFaultless) : (d.writeStatement s).IsFaultless := by
  obtain ⟨hvalues, hwheres⟩ := List.forall_mem_append.1 hm
  have hw := List.forall_mem_map.1 hwheres
  cases s with
  | select s =>
    have hq := List.forall_mem_singleton.1 hvalues
    exact hq
  | insert s => exact isFaultless_writeInsert (isFaultless_writeInsertSource hs hvalues)
  | update s =>
    have ha := List.forall_mem_map.1 hvalues
    have hassignments : ∀ e ∈ s.assignments.map d.writeAssignment, e.IsFaultless :=
      List.forall_mem_map.2 fun a hmem => isFaultless_append.2 ⟨by simp [isFaultless_append], ha a hmem⟩
    have hsome : s.assignments.isEmpty = false := List.isEmpty_eq_false_iff.2 hs
    show (d.writeUpdate s).IsFaultless
    unfold writeUpdate
    rw [writePredicates_eq, hsome]
    simp only [isFaultless_append, isFaultless_lit, isFaultless_separated, isFaultless_nil,
      Bool.false_eq_true, if_false, true_and, and_true]
    exact ⟨hassignments, isFaultless_writeConjunction hw⟩
  | delete s =>
    show (d.writeDelete s).IsFaultless
    unfold writeDelete
    rw [writePredicates_eq]
    simp only [isFaultless_append, isFaultless_lit, true_and]
    exact isFaultless_writeConjunction hw

end Dialect

end PolySql

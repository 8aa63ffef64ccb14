import PolySql.Proofs.Text.Plain
import PolySql.Proofs.Write.Equations
import PolySql.Proofs.Write.Relation

namespace PolySql

open Emission Text

structure Dialect.Texts (d : Dialect) (T : String → Prop) : Prop where
  plain {s : String} : isPlain s = true → T s
  concat : T d.concatOperator
  collation : ∀ s ∈ d.caseSensitiveCollation, T s

structure Dialect.Words (d : Dialect) (T : String → Prop) (R : Prop → Emission → Emission → Prop) :
    Prop where
  word {s : String} : isTame s = true → T s
  operator (op : BinaryOp) :
    R True (lit " " ++ lit (d.writeOperator op) ++ lit " ")
      (lit " " ++ lit (d.writeOperator op) ++ lit " ")
  number (n : Int) : T (Number.intText n)
  firstRows (n : Int) : T (" FETCH FIRST " ++ Number.intText n ++ " ROWS ONLY")
  unlimited : T " LIMIT -1"
  collation : ∀ s ∈ d.caseSensitiveCollation, T s

def Node.NamesIn (d : Dialect) (T : String → Prop) : Node → Prop
  | .expr (.function n _ _) => T n
  | .expr _ => True
  | .table (.table schema n label) =>
    T (d.quoteQualified schema n) ∧ ∀ a ∈ label, T (d.quoteIdentifier a)
  | .table (.derived _ label) => T (d.quoteIdentifier label)
  | .table (.raw text) => T text
  | .select s =>
    (∀ p ∈ s.projections, ∀ a ∈ p.label, T (d.quoteColumn a)) ∧ ∀ k ∈ s.lock, T k.text

structure Expr.KeepsShape (f : Expr → Expr) : Prop where
  isBinary (e : Expr) : (f e).isBinary = e.isBinary
  sideNeedsParens (op : BinaryOp) (isRight : Bool) (e : Expr) :
    Dialect.sideNeedsParens op isRight (f e) = Dialect.sideNeedsParens op isRight e
  isGrouped (e : Expr) : Dialect.isGrouped (f e) = Dialect.isGrouped e
  isOr (e : Expr) : Dialect.isOr (f e) = Dialect.isOr e

theorem Node.namesIn_true (d : Dialect) (n : Node) : n.NamesIn d fun _ => True := by
  cases n with
  | expr e => cases e <;> trivial
  | table t =>
    cases t with
    | table s n a => exact ⟨trivial, fun _ _ => trivial⟩
    | derived q a => trivial
    | raw t => trivial
  | select s => exact ⟨fun _ _ _ _ => trivial, fun _ _ => trivial⟩

theorem Expr.keepsShape_id : Expr.KeepsShape id :=
  ⟨fun _ => rfl, fun _ _ _ => rfl, fun _ => rfl, fun _ => rfl⟩

theorem Expr.keepsShape_transform (step : Bool → Select → Select) :
    Expr.KeepsShape (Expr.transform step) where
  isBinary e := by
    rw [e.transform_eq]
    cases e <;> rfl
  sideNeedsParens op isRight e := by
    rw [e.transform_eq]
    cases e <;> rfl
  isGrouped e := by
    rw [e.transform_eq]
    cases e <;> rfl
  isOr e := by
    rw [e.transform_eq]
    cases e with
    | binary l op r => cases op <;> rfl
    | _ => rfl

def Expr.isLeaf : Expr → Bool
  | .value _ | .bind _ | .column _ _ | .raw _ _ | .wildcard _ => true
  | _ => false

theorem isPlain_sql (op : BinaryOp) : isPlain op.sql = true := by
  cases op <;> rfl

namespace Dialect

variable {d : Dialect} {T : String → Prop} {R : Prop → Emission → Emission → Prop}

theorem Texts.words (hT : d.Texts T) (hR : Congruence T R) : d.Words T R where
  word h := hT.plain (isPlain_of_isTame h)
  operator op := by
    have hblank : R True (lit " ") (lit " ") := hR.lit (hT.plain rfl)
    refine hR.append_true (hR.append_true hblank (hR.lit ?_)) hblank
    cases op with
    | concat => exact hT.concat
    | _ => exact hT.plain (isPlain_sql _)
  number n := hT.plain (isPlain_intText n)
  firstRows n := hT.plain (by rw [isPlain_append, isPlain_append, isPlain_intText]; rfl)
  unlimited := hT.plain rfl
  collation := hT.collation

theorem words_true (hR : Congruence (fun _ => True) R) : d.Words (fun _ => True) R :=
  Texts.words ⟨fun _ => trivial, trivial, fun _ _ => trivial⟩ hR

variable (hR : Congruence T R) (hT : d.Words T R) {f : Expr → Expr} {g : TableRef → TableRef}
  {h : Select → Select} {c : Node → Prop}

section Clauses
include hR hT

theorem lit_congr {s : String} (hs : isTame s = true) : R True (lit s) (lit s) :=
  hR.lit (hT.word hs)

theorem parens_congr {x y : Bool} {p : Prop} {a b : Emission} (hxy : y = x) (hab : R p a b) :
    R p (parenthesizedIf x a) (parenthesizedIf y b) :=
  hR.parenthesizedIf (hT.word rfl) (hT.word rfl) hxy hab

theorem writeCollation_congr : R True d.writeCollation d.writeCollation := by
  unfold writeCollation
  cases hc : d.caseSensitiveCollation with
  | none => exact hR.nil
  | some s => exact hR.true_append (lit_congr hR hT rfl) (hR.lit (hT.collation s hc))

theorem writeOption_congr {keyword : String} (hk : isTame keyword = true) {o : Option Expr}
    (hm : ∀ e ∈ o, R (c (.expr e)) (d.writeExpr e) (d.writeExpr (f e))) :
    R (∀ e ∈ o, c (.expr e)) (d.writeOption keyword o) (d.writeOption keyword (o.map f)) := by
  have ho := hR.option (fun _ => lit_congr hR hT hk) hm
  rw [writeOption_eq, writeOption_eq, Option.elim_map]
  exact ho

theorem writeBranches_congr {bs : List Branch}
    (hm : ∀ b ∈ bs, R (c (.expr b.test)) (d.writeExpr b.test) (d.writeExpr (f b.test)) ∧
      R (c (.expr b.result)) (d.writeExpr b.result) (d.writeExpr (f b.result))) :
    R (∀ b ∈ bs, c (.expr b.test) ∧ c (.expr b.result)) (d.writeBranches bs)
      (d.writeBranches (bs.map (Branch.map f))) := by
  rw [writeBranches_eq, writeBranches_eq, List.flatMap_map]
  refine hR.flatMap fun b hb => ?_
  obtain ⟨ht, hr⟩ := hm b hb
  cases b
  exact hR.append (hR.append_true (hR.true_append (lit_congr hR hT rfl) ht) (lit_congr hR hT rfl)) hr

theorem writeExprs_congr {es : List Expr}
    (hm : ∀ e ∈ es, R (c (.expr e)) (d.writeExpr e) (d.writeExpr (f e))) :
    R (∀ e ∈ es, c (.expr e)) (separated ", " (d.writeExprs es))
      (separated ", " (d.writeExprs (es.map f))) := by
  rw [writeExprs_eq, writeExprs_eq, List.map_map]
  exact hR.separated (hT.word rfl) hm

end Clauses

section Expr
variable (hf : Expr.KeepsShape f)
include hR hT hf

theorem writeExpr_mapParts {e : Expr} (hsign : T "-" ∨ ∀ e', e ≠ .unary .neg e')
    (hleaf : e.isLeaf = true → R True (d.writeExpr e) (d.writeExpr e))
    (hn : (Node.expr e).NamesIn d T)
    (hm : ∀ m ∈ e.written, R (c m) (m.write d) ((m.map f g h).write d)) :
    R (∀ m ∈ e.written, c m) (d.writeExpr e) (d.writeExpr (e.mapParts f h)) := by
  have hlit {s : String} (hs : isTame s = true) : R True (lit s) (lit s) := lit_congr hR hT hs
  have hparens {x y : Bool} {p : Prop} {a b : Emission} (hxy : y = x) (hab : R p a b) :
      R p (parenthesizedIf x a) (parenthesizedIf y b) := parens_congr hR hT hxy hab
  have hpar {p : Prop} {a b : Emission} (hab : R p a b) : R p (parenthesized a) (parenthesized b) :=
    hparens (x := true) rfl hab
  have hplain {x : Bool} {s t : String} (hs : isTame s = true) (ht : isTame t = true) :
      R True (lit (if x then s else t)) (lit (if x then s else t)) := by
    cases x
    · exact hlit ht
    · exact hlit hs
  have hleaf' (hl : e.isLeaf = true) (hw : e.written = []) :
      R (∀ m ∈ e.written, c m) (d.writeExpr e) (d.writeExpr e) :=
    Congruence.congr (by simp [hw]) (hleaf hl)
  cases e with
  | value v => exact hleaf' rfl rfl
  | bind v => exact hleaf' rfl rfl
  | column t n => exact hleaf' rfl rfl
  | raw t bs => exact hleaf' rfl rfl
  | wildcard t => exact hleaf' rfl rfl
  | binary l op r =>
    obtain ⟨hl, hr⟩ := forall_mem_two.1 hm
    have hsides := hR.append (hR.append_true (hparens (hf.sideNeedsParens op false l) hl)
      (hT.operator op)) (hparens (hf.sideNeedsParens op true r) hr)
    simp only [← List.append_assoc] at hsides
    exact Congruence.congr forall_mem_two.symm hsides
  | unary op e =>
    have he := List.forall_mem_singleton.1 hm
    refine Congruence.congr List.forall_mem_singleton.symm
      (hR.true_append (hR.lit ?_) (hparens (hf.isBinary e) he))
    cases op with
    | neg => exact hsign.resolve_right fun h => h e rfl
    | not => exact hT.word rfl
  | function n as dist =>
    have has := List.forall_mem_map.1 hm
    refine Congruence.congr List.forall_mem_map.symm (hR.append_true (hR.true_append
      (hR.true_append (hR.true_append (hR.lit hn) (hlit rfl)) (hplain rfl rfl))
      (writeExprs_congr hR hT has)) (hlit rfl))
  | subquery q =>
    have hq := List.forall_mem_singleton.1 hm
    exact Congruence.congr List.forall_mem_singleton.symm (hpar hq)
  | «exists» q n =>
    have hq := List.forall_mem_singleton.1 hm
    exact Congruence.congr List.forall_mem_singleton.symm
      (hR.true_append (hplain rfl rfl) (hpar hq))
  | inSubquery e q n =>
    obtain ⟨he, hq⟩ := forall_mem_two.1 hm
    exact Congruence.congr forall_mem_two.symm (hR.append
      (hR.append_true (hparens (hf.isBinary e) he) (hplain rfl rfl)) (hpar hq))
  | isNull e n =>
    have he := List.forall_mem_singleton.1 hm
    exact Congruence.congr List.forall_mem_singleton.symm
      (hR.append_true (hparens (hf.isBinary e) he) (hplain rfl rfl))
  | inList e l n =>
    cases l with
    | nil => exact Congruence.congr (by simp [Expr.written]) (hplain rfl rfl)
    | cons x xs =>
      obtain ⟨he, hl⟩ := List.forall_mem_cons.1 hm
      have hl := List.forall_mem_map.1 hl
      refine Congruence.congr (List.forall_mem_cons.trans (and_congr_right' List.forall_mem_map)).symm
        (hR.append (hR.append_true (hparens (hf.isBinary e) he) (hplain rfl rfl)) (hpar ?_))
      exact writeExprs_congr hR hT hl
  | between e low high n =>
    obtain ⟨he, hpair⟩ := List.forall_mem_cons.1 hm
    obtain ⟨hlow, hhigh⟩ := forall_mem_two.1 hpair
    refine Congruence.congr ?_ (hR.append (hR.append_true (hR.append (hR.append_true
      (hparens (hf.isBinary e) he) (hplain rfl rfl)) (hparens (hf.isBinary low) hlow)) (hlit rfl))
      (hparens (hf.isBinary high) hhigh))
    simp [Expr.written, Expr.parts, and_assoc]
  | case o bs e =>
    obtain ⟨ho, hbs, he⟩ := Expr.forall_parts_case.1 hm
    refine Congruence.congr ?_ (hR.append_true (hR.append (hR.append (hR.true_append (hlit rfl)
      (writeOption_congr hR hT rfl ho)) (writeBranches_congr hR hT hbs))
      (writeOption_congr hR hT rfl he)) (hlit rfl))
    rw [and_assoc]
    exact Expr.forall_parts_case.symm
  | group e =>
    have he := List.forall_mem_singleton.1 hm
    refine Congruence.congr List.forall_mem_singleton.symm (hparens ?_ he)
    rw [hf.isGrouped]
  | bin e =>
    have he := List.forall_mem_singleton.1 hm
    exact Congruence.congr List.forall_mem_singleton.symm
      (hR.append_true (hparens (hf.isBinary e) he) (writeCollation_congr hR hT))

end Expr

section Select
include hR hT

theorem writeTable_mapParts {t : TableRef} (hn : (Node.table t).NamesIn d T)
    (hm : ∀ m ∈ t.parts, R (c m) (m.write d) ((m.map f g h).write d)) :
    R (∀ m ∈ t.parts, c m) (d.writeTable t) (d.writeTable (t.mapParts h)) := by
  have hlit {s : String} (hs : isTame s = true) : R True (lit s) (lit s) := lit_congr hR hT hs
  cases t with
  | table schema n label =>
    refine Congruence.congr (c := True) (by simp [TableRef.parts])
      (hR.true_append (hR.lit hn.1) ?_)
    cases label with
    | none => exact hR.nil
    | some a => exact hR.true_append (hlit rfl) (hR.lit (hn.2 a rfl))
  | derived q label =>
    have hq := List.forall_mem_singleton.1 hm
    exact Congruence.congr List.forall_mem_singleton.symm (hR.append_true (hR.append_true
      (parens_congr (x := true) hR hT rfl hq) (hlit rfl)) (hR.lit hn))
  | raw text => exact Congruence.congr (by simp [TableRef.parts]) (hR.lit hn)

section Lock
variable {lock : Option Lock} (hlock : ∀ k ∈ lock, T k.text)
include hlock

theorem writeLockHint_congr : R True (d.writeLockHint lock) (d.writeLockHint lock) := by
  cases lock with
  | none => exact hR.nil
  | some k =>
    unfold writeLockHint
    dsimp only
    split
    · split
      · exact lit_congr hR hT rfl
      · exact hR.true_append (lit_congr hR hT rfl) (hR.lit (hlock k rfl))
    · exact hR.nil

theorem writeTrailingLock_congr :
    R True (d.writeTrailingLock lock) (d.writeTrailingLock lock) := by
  cases lock with
  | none => exact hR.nil
  | some k =>
    unfold writeTrailingLock
    dsimp only
    split
    · exact hR.true_append (lit_congr hR hT rfl) (hR.lit (hlock k rfl))
    · exact hR.nil

theorem writeSource_congr {t : Option TableRef}
    (hm : ∀ t' ∈ t, R (c (.table t')) (d.writeTable t') (d.writeTable (g t'))) :
    R (∀ t' ∈ t, c (.table t')) (d.writeSource lock t) (d.writeSource lock (t.map g)) := by
  have ho := hR.option (fun _ => lit_congr (s := " FROM ") hR hT rfl)
    fun t' ht => hR.append_true (hm t' ht) (writeLockHint_congr hR hT hlock)
  rw [writeSource_eq, writeSource_eq, Option.elim_map]
  exact ho

theorem writeJoins_congr {js : List Join}
    (hm : ∀ j ∈ js, R (c (.table j.table)) (d.writeTable j.table) (d.writeTable (g j.table)) ∧
      ∀ e ∈ j.condition, R (c (.expr e)) (d.writeExpr e) (d.writeExpr (f e))) :
    R (∀ j ∈ js, c (.table j.table) ∧ ∀ e ∈ j.condition, c (.expr e)) (d.writeJoins lock js)
      (d.writeJoins lock (js.map (Join.map f g))) := by
  rw [writeJoins_eq, writeJoins_eq, List.flatMap_map]
  refine hR.flatMap fun j hj => ?_
  obtain ⟨ht, hc⟩ := hm j hj
  have hkind : isTame j.kind.sql = true := by cases j.kind <;> rfl
  cases j
  exact hR.append (hR.append_true (hR.true_append (hR.true_append (hR.true_append
    (lit_congr hR hT rfl) (lit_congr hR hT hkind)) (lit_congr hR hT rfl)) ht)
    (writeLockHint_congr hR hT hlock)) (writeOption_congr hR hT rfl hc)

end Lock

theorem writeProjections_congr {ps : List Projection}
    (hn : ∀ p ∈ ps, ∀ a ∈ p.label, T (d.quoteColumn a))
    (hm : ∀ p ∈ ps, R (c (.expr p.expr)) (d.writeExpr p.expr) (d.writeExpr (f p.expr))) :
    R (∀ p ∈ ps, c (.expr p.expr)) (separated ", " (ps.map d.writeProjection))
      (separated ", " ((ps.map (Projection.map f)).map d.writeProjection)) := by
  rw [List.map_map]
  refine hR.separated (hT.word rfl) fun p hp => ?_
  have he := hm p hp
  have hlabel := hn p hp
  obtain ⟨e, label⟩ := p
  refine hR.append_true he ?_
  cases label with
  | none => exact hR.nil
  | some a => exact hR.true_append (lit_congr hR hT rfl) (hR.lit (hlabel a rfl))

theorem clause_congr {α : Type} {keyword : String} (hk : isTame keyword = true) {xs : List α}
    {p : α → Prop} {a b : α → Emission} (hm : ∀ x ∈ xs, R (p x) (a x) (b x)) :
    R (∀ x ∈ xs, p x) (clause keyword (xs.map a)) (clause keyword (xs.map b)) := by
  cases xs with
  | nil => exact Congruence.congr (by simp) hR.nil
  | cons x xs => exact hR.true_append (lit_congr hR hT hk) (hR.separated (hT.word rfl) hm)

theorem writeOrderBy_mapParts {s : Select}
    (hm : ∀ o ∈ s.orders, R (c (.expr o.expr)) (d.writeExpr o.expr) (d.writeExpr (f o.expr))) :
    R (∀ o ∈ s.orders, c (.expr o.expr)) (d.writeOrderBy s) (d.writeOrderBy (s.mapParts f g)) := by
  unfold writeOrderBy
  rw [Select.mapParts, List.map_map]
  refine clause_congr hR hT rfl fun o ho => ?_
  have he := hm o ho
  obtain ⟨e, direction, nulls⟩ := o
  have hsql : isTame direction.sql = true := by cases direction <;> rfl
  refine hR.append_true (hR.append_true (hR.append_true he (lit_congr hR hT rfl))
    (lit_congr hR hT hsql)) ?_
  cases nulls with
  | none => exact hR.nil
  | some n =>
    dsimp only
    split
    · exact hR.true_append (lit_congr hR hT rfl) (lit_congr hR hT (by cases n <;> rfl))
    · exact hR.nil

end Select

end Dialect

end PolySql

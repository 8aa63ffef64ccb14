import PolySql.Proofs.Compile.Again
import PolySql.Proofs.Write.Shrink
import PolySql.Proofs.Write.Statement

namespace PolySql

open Emission

variable {d : Dialect} {caps : Capabilities} {catalog : Catalog}

namespace Node

def KeepsWrittenOrders (caps : Capabilities) (n : Node) : Prop :=
  ∀ m ∈ n.written, m.WritesNoIdleOrder caps

theorem shrinks_write_root (d : Dialect) (p : String) (n : Node) :
    Shrinks p (n.KeepsWrittenOrders caps) (n.write d)
      ((n.transformRoot (Select.dropIdleOrder caps)).write d) := by
  cases n with
  | expr e =>
    refine Congruence.congr (forall_written_iff (n := .expr e) id).symm ?_
    exact shrinks_write d p caps (.expr e)
  | table t =>
    refine Congruence.congr (forall_written_iff (n := .table t) id).symm ?_
    exact shrinks_write d p caps (.table t)
  | select s =>
    show Shrinks p _ (d.writeSelect s) (d.writeSelect (s.transform _ false))
    rw [s.transform_eq, Select.dropIdleOrder_false, d.writeSelect_eq, d.writeSelect_eq]
    exact d.shrinks_writePaged p (s := s) (Dialect.writeCore_mapParts (Shrinks.congruence p)
      (Dialect.words_true (Shrinks.congruence p)) (Expr.keepsShape_transform _) (namesIn_true d _)
      fun m _ => shrinks_write d p caps m)

end Node

theorem Statement.namesIn_true (d : Dialect) (s : Statement) : s.NamesIn d fun _ => True := by
  cases s with
  | select s => trivial
  | insert s => exact ⟨trivial, trivial, fun _ _ => trivial⟩
  | update s => exact ⟨trivial, fun _ _ => trivial⟩
  | delete s => trivial

theorem Statement.shrinks_write (d : Dialect) (p : String) {s : Statement} (hfit : s.RowsFit) :
    Shrinks p (∀ n ∈ s.roots, n.KeepsWrittenOrders caps) (d.writeStatement s)
      (d.writeStatement (s.dropIdleOrders caps)) :=
  Dialect.writeStatement_mapRoots (Shrinks.congruence p) (Dialect.words_true (Shrinks.congruence p))
    (Expr.keepsShape_transform _) (s.namesIn_true d) hfit fun n _ => Node.shrinks_write_root d p n

namespace Node

def kept (caps : Capabilities) : Node → List Node
  | .expr e => e.written
  | .table t => t.parts
  | .select s => (s.dropIdleOrder caps true).parts

def LosesOrder (caps : Capabilities) : Node → Prop
  | .select s => s.losesOrder caps = true
  | .expr _ | .table _ => False

def KeepsProbeOrders (caps : Capabilities) (n : Node) : Prop :=
  n.Throughout (kept caps) (¬ LosesOrder caps ·)

theorem kept_subset_children (n : Node) : n.kept caps ⊆ n.children := by
  cases n with
  | expr e => exact written_subset_parts (.expr e)
  | table t => exact List.Subset.refl _
  | select s =>
    exact fun m hm => mem_children_of_mem_parts (Select.forall_parts_dropIdleOrder (fun _ h => h) m hm)

end Node

theorem Expr.written_mapParts {f : Expr → Expr} {g : TableRef → TableRef} {h : Select → Select}
    (e : Expr) : (e.mapParts f h).written = e.written.map (Node.map f g h) := by
  have hp := e.parts_mapParts (f := f) (g := g) (h := h)
  cases e with
  | inList e l n =>
    cases l with
    | nil => rfl
    | cons x xs => exact hp
  | _ => exact hp

namespace Node

theorem writesNoIdleOrder_leaf {e : Expr} (h : e.parts = []) :
    (expr e).WritesNoIdleOrder caps :=
  throughout_of_eq_nil (List.subset_nil.1 (h ▸ written_subset_parts (.expr e))) id

theorem keepsWrittenOrders_settleStep {s : Select} (nested : Bool) :
    (∀ m ∈ (Select.settleStep caps catalog nested s).parts, m.WritesNoIdleOrder caps) ↔
      ∀ m ∈ (s.dropIdleOrder caps nested).parts, m.WritesNoIdleOrder caps :=
  ⟨Select.forall_parts_of_settleStep fun _ => writesNoIdleOrder_leaf,
    fun h => Select.forall_parts_settleStep h fun _ he => writesNoIdleOrder_leaf he.parts_eq_nil⟩

theorem writesNoIdleOrder_transform (n : Node) :
    (n.transform (Select.settleStep caps catalog)).WritesNoIdleOrder caps ↔
      n.KeepsProbeOrders caps := by
  induction n using Node.induct with
  | step n ih =>
    rw [KeepsProbeOrders, throughout_iff]
    cases n with
    | expr e =>
      have hm (m : Node) (hm : m ∈ e.written) := ih m (written_subset_parts (.expr e) hm)
      refine (forall_written_iff (n := .expr (e.transform _)) id).symm.trans ?_
      show (∀ m ∈ (e.transform _).written, _) ↔ _
      rw [e.transform_eq, Expr.written_mapParts (g := TableRef.transform _), List.forall_mem_map]
      exact (forall₂_congr hm).trans (and_iff_right id).symm
    | table t =>
      refine (forall_written_iff (n := .table (t.transform _)) id).symm.trans ?_
      show (∀ m ∈ (t.transform _).parts, _) ↔ _
      rw [t.transform_eq, TableRef.parts_mapParts (f := Expr.transform _)
        (g := TableRef.transform _), List.forall_mem_map]
      exact (forall₂_congr ih).trans (and_iff_right id).symm
    | select s =>
      have hm (m : Node) (hm : m ∈ (s.dropIdleOrder caps true).parts) :=
        ih m (mem_children_of_mem_parts (Select.forall_parts_dropIdleOrder (fun m hm => hm) m hm))
      rw [writesNoIdleOrder_iff]
      refine and_congr ?_ ?_
      · show ¬ (s.transform _ true).hasIdleOrder caps = true ↔ _
        rw [s.transform_eq, Select.hasIdleOrder_settleStep_true, Select.losesOrder_mapParts]
        rfl
      · show (∀ m ∈ (s.transform _ true).parts, _) ↔ _
        rw [s.transform_eq, keepsWrittenOrders_settleStep, Select.dropIdleOrder_mapParts,
          Select.parts_mapParts (h := Select.transform _ true), List.forall_mem_map]
        exact forall₂_congr hm

theorem keepsWrittenOrders_transformRoot (n : Node) :
    (n.transformRoot (Select.settleStep caps catalog)).KeepsWrittenOrders caps ↔
      ∀ m ∈ n.written, m.KeepsProbeOrders caps := by
  cases n with
  | expr e =>
    refine (forall_written_iff (n := .expr (e.transform _)) id).trans ?_
    refine (writesNoIdleOrder_transform (.expr e)).trans ?_
    exact throughout_iff.trans (and_iff_right id)
  | table t =>
    refine (forall_written_iff (n := .table (t.transform _)) id).trans ?_
    refine (writesNoIdleOrder_transform (.table t)).trans ?_
    exact throughout_iff.trans (and_iff_right id)
  | select s =>
    show (∀ m ∈ (s.transform _ false).parts, m.WritesNoIdleOrder caps) ↔ _
    rw [s.transform_eq, keepsWrittenOrders_settleStep, Select.dropIdleOrder_false,
      Select.parts_mapParts (h := Select.transform _ true), List.forall_mem_map]
    exact forall₂_congr fun m _ => writesNoIdleOrder_transform m

theorem not_hasIdleOrder_dropIdleOrder (n : Node) :
    (n.transform (Select.dropIdleOrder caps)).Throughout parts (¬ HasIdleOrder caps ·) := by
  induction n using Node.induct with
  | step n ih =>
    have hm := fun m hm => ih m (mem_children_of_mem_parts hm)
    refine .intro ?_ (forall_parts_transform (fun s _ => Select.forall_parts_dropIdleOrder) hm)
    cases n with
    | expr e => exact id
    | table t => exact id
    | select s =>
      show ¬ (s.transform _ true).hasIdleOrder caps = true
      rw [s.transform_eq, Select.hasIdleOrder_dropIdleOrder]
      exact Bool.false_ne_true

theorem writesNoIdleOrder_settled {n : Node} (h : n.Throughout parts (IsSettled caps catalog)) :
    (n.transform (Select.settleStep caps catalog)).WritesNoIdleOrder caps := by
  rw [transform_of_isSettled h]
  exact (not_hasIdleOrder_dropIdleOrder n).mono written_subset_parts fun _ => id

end Node

namespace RowFilter

def kept (caps : Capabilities) (f : RowFilter) : List Node :=
  if (f.withNeededLimit caps).limit.isNone && (f.withNeededLimit caps).offset.isNone then
    f.wheres.map .expr
  else f.orders.map fun o => .expr o.expr

end RowFilter

namespace Statement

def KeepsProbeOrders (caps : Capabilities) (s : Statement) : Prop :=
  ∀ n ∈ s.values ++ s.rows.kept caps, ∀ m ∈ n.written, m.KeepsProbeOrders caps

theorem withNeededLimit_mapWheres {f : RowFilter} {g : Expr → Expr} :
    (f.mapWheres g).withNeededLimit caps = (f.withNeededLimit caps).mapWheres g := by
  have hc : (!(f.mapWheres g).orders.isEmpty && (f.mapWheres g).limit.isNone &&
      caps.updateOrderRequiresLimit) =
    (!f.orders.isEmpty && f.limit.isNone && caps.updateOrderRequiresLimit) := rfl
  unfold RowFilter.withNeededLimit
  rw [hc]
  split <;> rfl

theorem keepsWrittenOrders_keySelect {f : RowFilter} {table : String} {schema : Option String}
    {key : Expr}
    (hkey : (Node.expr key).Throughout Node.children Node.IsNotSelect)
    (hw : ∀ e ∈ f.wheres, (Node.expr e).Throughout Node.parts (Node.IsSettled caps catalog)) :
    (Node.select ((f.keySelect schema table key).settle caps catalog false)).KeepsWrittenOrders
        caps ↔
      ∀ o ∈ f.orders, (Node.expr o.expr).KeepsProbeOrders caps := by
  refine (Node.keepsWrittenOrders_transformRoot (.select (f.keySelect schema table key))).trans ?_
  have hsettled (e : Expr) (he : e ∈ f.wheres) : (Node.expr e).KeepsProbeOrders caps := by
    exact (Node.writesNoIdleOrder_transform _).1 (Node.writesNoIdleOrder_settled (hw e he))
  have hplain : (Node.expr key).KeepsProbeOrders caps :=
    Node.throughout_of_isNotSelect Node.kept_subset_children (fun _ => id) (fun _ => id) hkey
  have htable : (Node.table (.table schema table none)).KeepsProbeOrders caps :=
    Node.throughout_of_eq_nil rfl id
  show (∀ m ∈ (f.keySelect schema table key).parts, m.KeepsProbeOrders caps) ↔ _
  rw [Select.forall_parts]
  simp only [RowFilter.keySelect, Select.ofTable, Select.empty, List.forall_mem_singleton,
    Option.mem_def, Option.some.injEq, forall_eq', List.not_mem_nil, false_imp_iff, implies_true,
    true_and, hplain, htable]
  exact and_iff_right hsettled

theorem keepsWrittenOrders_restrict {f f' : RowFilter} {statement table : String}
    {schema : Option String}
    (hw : ∀ e ∈ f.wheres, (Node.expr e).Throughout Node.children Node.IsNaNFree)
    (hkey : f.HasPlainKey)
    (h : (f.mapWheres (Expr.transform (Select.settleStep caps catalog))).restrict caps catalog
      statement schema table = .ok f') :
    (∀ e ∈ f'.wheres, (Node.expr e).KeepsWrittenOrders caps) ↔
      ∀ n ∈ f.kept caps, ∀ m ∈ n.written, m.KeepsProbeOrders caps := by
  have hexpr (e : Expr) : (Node.expr e).KeepsProbeOrders caps ↔
      ∀ m ∈ (Node.expr e).written, m.KeepsProbeOrders caps :=
    Node.throughout_iff.trans (and_iff_right id)
  rcases RowFilter.restrict_cases h with ⟨rfl, hc⟩ | ⟨key, hk, hc, rfl⟩
  · rw [withNeededLimit_mapWheres] at hc ⊢
    have hkept : f.kept caps = f.wheres.map .expr := if_pos hc
    rw [hkept, List.forall_mem_map]
    show (∀ e ∈ (f.withNeededLimit caps).wheres.map _, _) ↔ _
    rw [RowFilter.wheres_withNeededLimit, List.forall_mem_map]
    exact forall₂_congr fun e _ => Node.keepsWrittenOrders_transformRoot (.expr e)
  · rw [withNeededLimit_mapWheres] at hc ⊢
    have hkept : f.kept caps = f.orders.map fun o => .expr o.expr :=
      if_neg (Bool.not_eq_true _ ▸ hc)
    rw [hkept, List.forall_mem_singleton, List.forall_mem_map]
    have hsettled : ∀ e ∈ ((f.withNeededLimit caps).mapWheres
        (Expr.transform (Select.settleStep caps catalog))).wheres,
        (Node.expr e).Throughout Node.parts (Node.IsSettled caps catalog) := by
      show ∀ e ∈ (f.withNeededLimit caps).wheres.map _, _
      rw [RowFilter.wheres_withNeededLimit, List.forall_mem_map]
      exact fun e he => Node.isSettled_transform (hw e he)
    have hidle (schema : Option String) (table : String) : ¬ Node.HasIdleOrder caps (.select
        ((((f.withNeededLimit caps).mapWheres (Expr.transform (Select.settleStep caps catalog))
          ).keySelect schema table key).settle caps catalog false)) := by
      show ¬ _ = true
      rw [RowFilter.hasIdleOrder_settle_keySelect hc]
      exact Bool.false_ne_true
    have hplain : (Node.expr key).WritesNoIdleOrder caps :=
      Node.throughout_of_isNotSelect
        (fun n m hm => Node.mem_children_of_mem_parts (Node.written_subset_parts n hm))
        (fun _ => id) (fun _ => id) (hkey key hk)
    have hkeys := @keepsWrittenOrders_keySelect caps catalog _ table schema key (hkey key hk) hsettled
    refine (forall_mem_two.trans ?_).trans (hkeys.trans ?_)
    · exact (and_iff_right hplain).trans (Node.forall_written_iff (hidle schema table)).symm
    · show (∀ o ∈ (f.withNeededLimit caps).orders, _) ↔ _
      rw [RowFilter.orders_withNeededLimit]
      exact forall₂_congr fun o _ => hexpr o.expr

theorem keepsWrittenOrders_settle {s t : Statement} (hnan : s.IsNaNFree)
    (hkey : s.rows.HasPlainKey) (h : s.settle caps catalog = .ok t) :
    (∀ n ∈ t.roots, n.KeepsWrittenOrders caps) ↔ s.KeepsProbeOrders caps := by
  obtain ⟨hv, hr⟩ := of_settle_eq_ok h
  have hwheres := (List.forall_mem_append.1 (List.forall_mem_append.1 hnan).1).2
  rw [List.forall_mem_map] at hwheres
  rw [KeepsProbeOrders, roots, List.forall_mem_append, List.forall_mem_append, hv,
    List.forall_mem_map, List.forall_mem_map]
  refine and_congr ?_ (keepsWrittenOrders_restrict hwheres hkey hr)
  exact forall₂_congr fun n _ => Node.keepsWrittenOrders_transformRoot n

end Statement

variable {s : Statement} {c : Compiled}

theorem compile_statement_same_iff (hnan : s.IsNaNFree) (hkey : s.rows.HasPlainKey)
    (h : compile d catalog s = .ok c) :
    (∃ c', compile d catalog c.statement = .ok c' ∧ c'.sql = c.sql ∧ c'.binds = c.binds) ↔
      s.KeepsProbeOrders d.capabilities := by
  obtain ⟨hs, hw⟩ := of_compile_eq_ok h
  obtain ⟨hfaultless, htext⟩ := of_finish_eq_ok _ hw
  obtain ⟨hsql, hbinds⟩ := Prod.mk.inj htext
  have hagain := (Statement.isSettled_settle hnan hkey hs).settle
  have hshrinks : Shrinks d.placeholder _ _
      (d.writeStatement (c.statement.dropIdleOrders d.capabilities)) :=
    Statement.shrinks_write d d.placeholder (Dialect.rowsFit_of_isFaultless hfaultless)
  rw [← Statement.keepsWrittenOrders_settle hnan hkey hs]
  constructor
  · rintro ⟨c', hc', hsame, -⟩
    refine Classical.byContradiction fun hlost => ?_
    have hlt := hshrinks.lt_of_not hlost
    obtain ⟨hs', hw'⟩ := of_compile_eq_ok hc'
    obtain ⟨-, htext'⟩ := of_finish_eq_ok _ hw'
    rw [Except.ok.inj (hagain.symm.trans hs'), ← (Prod.mk.inj htext').1, ← hsql, hsame] at hlt
    exact Nat.lt_irrefl _ hlt
  · intro hkept
    have hc := compile_of_settle hagain
    rw [hshrinks.eq_of_kept hkept, hw] at hc
    exact ⟨_, hc, rfl, rfl⟩

def orderedProbe : Select :=
  { Select.ofTable (.table none "t" none) with
    distinct := true
    projections := [⟨.value (.int 1), some "one"⟩]
    orders := [⟨.column none "x", .asc, none⟩]
    limit := some (.value (.int 1)) }

def probingSelect : Statement :=
  .select
    { Select.ofTable (.table none "u" none) with
      projections := [⟨.column none "x", none⟩]
      wheres := [.exists orderedProbe false] }

theorem isNaNFree_probingSelect : probingSelect.IsNaNFree := by
  have hleaf {e : Expr} (h : e.parts = []) (he : e.isNaNFree = true) :
      (Node.expr e).Throughout Node.children Node.IsNaNFree :=
    Node.throughout_of_eq_nil h he
  have htable {t : TableRef} (h : t.parts = []) :
      (Node.table t).Throughout Node.children Node.IsNaNFree :=
    Node.throughout_of_eq_nil h trivial
  refine List.forall_mem_singleton.2 (.intro trivial (List.forall_mem_cons.2 ⟨hleaf rfl rfl,
    List.forall_mem_cons.2 ⟨htable rfl, List.forall_mem_singleton.2 (.intro rfl ?_)⟩⟩))
  refine List.forall_mem_singleton.2 (.intro trivial (List.forall_mem_cons.2 ⟨hleaf rfl rfl, ?_⟩))
  exact List.forall_mem_cons.2 ⟨htable rfl, List.forall_mem_cons.2 ⟨hleaf rfl rfl,
    List.forall_mem_singleton.2 (hleaf rfl rfl)⟩⟩

theorem not_keepsProbeOrders_probingSelect :
    ¬ probingSelect.KeepsProbeOrders SqlServer.capabilities := by
  intro h
  have hexists := h _ (List.mem_cons_self ..) (.expr (.exists orderedProbe false))
    (List.mem_of_getElem? (i := 2) rfl)
  have hprobe := (Node.throughout_iff.1 hexists).2 (.select orderedProbe) (List.mem_cons_self ..)
  exact (Node.throughout_iff.1 hprobe).1 rfl

theorem compile_statement_same_iff_probingSelect :
    let catalog : Catalog := ⟨fun _ => [], fun _ => []⟩
    ∃ c, compile SqlServer.dialect catalog probingSelect = .ok c ∧
      ¬ ∃ c', compile SqlServer.dialect catalog c.statement = .ok c' ∧ c'.sql = c.sql ∧
        c'.binds = c.binds := by
  intro catalog
  have hok : (compile SqlServer.dialect catalog probingSelect).isOk = true := by decide
  obtain ⟨c, hc⟩ := exists_eq_ok hok
  have hkey : probingSelect.rows.HasPlainKey := by rintro key ⟨⟩
  refine ⟨c, hc, fun h => not_keepsProbeOrders_probingSelect ?_⟩
  exact (compile_statement_same_iff isNaNFree_probingSelect hkey hc).1 h

end PolySql

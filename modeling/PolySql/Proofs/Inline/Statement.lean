import PolySql.Proofs.Inline.Write
import PolySql.Proofs.Settle.Statement

namespace PolySql

open Emission Select Text

variable {d : Dialect} {catalog : Catalog} {nested : Bool}

namespace Node

theorem inline_transform_of_isSealable {n : Node} (hn : d.SealsNames)
    (h : n.Throughout children (IsSealable d)) :
    (n.transform (settleStep d.capabilities catalog)).inline =
        n.inline.transform (settleStep d.capabilities catalog) ∧
      (n.transformRoot (settleStep d.capabilities catalog)).inline =
        n.inline.transformRoot (settleStep d.capabilities catalog) := by
  have hunprobed {m : Node} (hm : m.Throughout children (IsSealable d)) :
      m.Throughout children (IsUnprobed d.capabilities) :=
    hm.imp fun _ hs => IsSealable.isUnprobed hn hs
  have hnested : (n.transform (settleStep d.capabilities catalog)).inline = _ :=
    inline_transform (hunprobed h)
  refine ⟨hnested, ?_⟩
  cases n with
  | expr e => exact hnested
  | table t => exact hnested
  | select s =>
    obtain ⟨hs, hm⟩ := throughout_iff.1 (hunprobed h)
    refine congrArg select (inline_select_transform hs (fun m hmem => ?_) false)
    exact inline_transform (hm m (mem_children_of_mem_parts hmem))

end Node

namespace RowFilter

variable {f : RowFilter} {schema : Option String} {table : String} {key : Expr}

def IsSealable (d : Dialect) (f : RowFilter) : Prop :=
  ∀ n ∈ f.wheres.map .expr ++ f.limits, n.Throughout Node.children (Node.IsSealable d)

theorem inline_withNeededLimit (caps : Capabilities) :
    (f.withNeededLimit caps).inline = f.inline.withNeededLimit caps := by
  have hc : (!f.inline.orders.isEmpty && f.inline.limit.isNone && caps.updateOrderRequiresLimit) =
      (!f.orders.isEmpty && f.limit.isNone && caps.updateOrderRequiresLimit) := by
    simp only [inline, List.isEmpty_map, Option.isNone_map]
  unfold withNeededLimit
  rw [hc]
  split <;> rfl

theorem inline_keySelect :
    (f.keySelect schema table key).inline = f.inline.keySelect schema table key.inline := by
  rw [Select.inline_eq]
  rfl

theorem IsSealable.restrict_inline (hn : d.SealsNames) (h : f.IsSealable d)
    (hs : ∀ a ∈ schema, d.AcceptsName a) (ht : d.AcceptsName table) (statement : String) :
    f.inline.restrict d.capabilities catalog statement schema table =
      (f.restrict d.capabilities catalog statement schema table).map inline := by
  obtain ⟨hw, hl⟩ := List.forall_mem_append.1 h
  have hkeys (key : Expr) (hkey : (f.withNeededLimit d.capabilities).key = some key) :
      (Node.select ((f.withNeededLimit d.capabilities).keySelect schema table key)).Throughout
        Node.children (Node.IsSealable d) :=
    Node.allowsKeys_isSealable.keySelect ⟨hs, ht, by rintro a ⟨⟩⟩ (List.forall_mem_map.1 hw) hl
      (key_withNeededLimit.symm.trans hkey)
  unfold restrict
  rw [← inline_withNeededLimit]
  generalize f.withNeededLimit d.capabilities = f' at hkeys
  have hc : (f'.inline.limit.isNone && f'.inline.offset.isNone) =
      (f'.limit.isNone && f'.offset.isNone) := by
    simp only [inline, Option.isNone_map]
  dsimp only
  rw [hc]
  split
  · rfl
  · cases hk : f'.key with
    | none => simp only [inline, hk, Option.map_none, Except.map]
    | some key =>
      have hsettled : ((f'.keySelect schema table key).settle d.capabilities catalog false).inline =
          (f'.inline.keySelect schema table key.inline).settle d.capabilities catalog false := by
        rw [← inline_keySelect]
        exact Node.select.inj (Node.inline_transform_of_isSealable hn (hkeys key hk)).2
      have hkey : f'.inline.key = some key.inline := by rw [inline, hk, Option.map_some]
      rw [hkey]
      dsimp only
      rw [← hsettled]
      rfl

end RowFilter

namespace Statement

def AcceptsNames (d : Dialect) : Statement → Prop
  | select _ => True
  | insert s =>
    (∀ a ∈ s.schema, d.AcceptsName a) ∧ d.AcceptsName s.table ∧
      (∀ c ∈ s.columns, d.AcceptsName c) ∧ ∀ c ∈ s.returning, d.AcceptsName c
  | update s =>
    (∀ a ∈ s.schema, d.AcceptsName a) ∧ d.AcceptsName s.table ∧
      ∀ a ∈ s.assignments, d.AcceptsName a.column
  | delete s => (∀ a ∈ s.schema, d.AcceptsName a) ∧ d.AcceptsName s.table

structure IsInlinable (d : Dialect) (s : Statement) : Prop where
  trees : ∀ n ∈ s.trees, n.Throughout Node.children (Node.IsInlinable d)
  names : s.AcceptsNames d

variable {s t : Statement}

theorem inline_eq (s : Statement) :
    s.inline = (s.mapRoots Expr.inline Select.inline).withRows s.rows.inline := by
  cases s <;> rfl

theorem inline_mapRoots {f : Expr → Expr} {g : TableRef → TableRef} {h : Select → Select}
    (hm : ∀ n ∈ s.roots, (n.map f g h).inline = n.inline.map f g h) :
    (s.mapRoots f h).inline = s.inline.mapRoots f h := by
  have hroots : s.mapRoots (Expr.inline ∘ f) (Select.inline ∘ h) =
      s.mapRoots (f ∘ Expr.inline) (h ∘ Select.inline) := by
    refine mapRoots_congr (g := TableRef.inline ∘ g) (k := g ∘ TableRef.inline) fun n hn => ?_
    rw [← Node.map_map, ← Node.map_map]
    exact hm n hn
  have hwheres : (s.rows.mapWheres f).inline = s.rows.inline.mapWheres f := by
    obtain ⟨-, hw⟩ := List.forall_mem_append.1 hm
    have hw' := List.map_congr_left fun e he => Node.expr.inj (hw _ (List.mem_map_of_mem he))
    simp only [RowFilter.mapWheres, RowFilter.inline, List.map_map, Function.comp_def, hw']
  rw [inline_eq, inline_eq, mapRoots_mapRoots, hroots, rows_mapRoots, hwheres, ← mapRoots_mapRoots]
  cases s <;> rfl

theorem inline_withRows (r : RowFilter) : (s.withRows r).inline = s.inline.withRows r.inline := by
  cases s <;> rfl

theorem rows_inline : s.inline.rows = s.rows.inline := by
  cases s <;> rfl

theorem target_inline : s.inline.target = s.target := by
  cases s <;> rfl

theorem IsInlinable.isSealable_trees (hn : d.SealsNames) (h : s.IsInlinable d) :
    ∀ n ∈ s.trees, n.Throughout Node.children (Node.IsSealable d) :=
  fun n hm => (h.trees n hm).imp fun _ hi => Node.IsInlinable.isSealable hn hi

theorem IsInlinable.isSealable_rows (hn : d.SealsNames) (h : s.IsInlinable d) :
    s.rows.IsSealable d := by
  obtain ⟨hroots, hlimits⟩ := List.forall_mem_append.1 (h.isSealable_trees hn)
  exact List.forall_mem_append.2 ⟨(List.forall_mem_append.1 hroots).2, hlimits⟩

theorem IsInlinable.accepts_target (h : s.IsInlinable d) :
    (∀ a ∈ s.target.2.1, d.AcceptsName a) ∧ d.AcceptsName s.target.2.2 := by
  have hempty : d.AcceptsName "" := fun _ => by decide
  cases s with
  | select s => exact ⟨by rintro a ⟨⟩, hempty⟩
  | insert s => exact ⟨by rintro a ⟨⟩, hempty⟩
  | update s => exact ⟨h.names.1, h.names.2.1⟩
  | delete s => exact h.names

theorem IsInlinable.isSealable_mapWheres (hn : d.SealsNames) (hd : d.OrdersBySealedNames catalog)
    (h : s.IsInlinable d) :
    (s.rows.mapWheres (Expr.transform (settleStep d.capabilities catalog))).IsSealable d := by
  obtain ⟨hw, hl⟩ := List.forall_mem_append.1 (h.isSealable_rows hn)
  refine List.forall_mem_append.2 ⟨?_, hl⟩
  simp only [RowFilter.mapWheres, List.map_map, List.forall_mem_map] at hw ⊢
  exact fun e he => (Node.isKept_isSealable hn hd).transform (hw e he)

theorem IsInlinable.settle_inline (hn : d.SealsNames) (hd : d.OrdersBySealedNames catalog)
    (h : s.IsInlinable d) :
    s.inline.settle d.capabilities catalog =
      (s.settle d.capabilities catalog).map Statement.inline := by
  obtain ⟨hroots, -⟩ := List.forall_mem_append.1 (h.isSealable_trees hn)
  obtain ⟨hschema, htable⟩ := h.accepts_target
  have hmap : (s.mapRoots (Expr.transform (settleStep d.capabilities catalog))
      (Select.transform (settleStep d.capabilities catalog) false)).inline =
      s.inline.mapRoots (Expr.transform (settleStep d.capabilities catalog))
        (Select.transform (settleStep d.capabilities catalog) false) :=
    inline_mapRoots fun n hm => (Node.inline_transform_of_isSealable hn (hroots n hm)).2
  rw [settle_eq, settle_eq, target_inline]
  dsimp only
  rw [← hmap, rows_inline, rows_mapRoots,
    (h.isSealable_mapWheres hn hd).restrict_inline hn hschema htable]
  cases (s.rows.mapWheres _).restrict d.capabilities catalog _ _ _ with
  | error e => rfl
  | ok r => exact congrArg Except.ok (inline_withRows r).symm

theorem IsInlinable.isSealable_settle (hn : d.SealsNames) (hd : d.OrdersBySealedNames catalog)
    (h : s.IsInlinable d) (ht : s.settle d.capabilities catalog = .ok t) :
    ∀ n ∈ t.roots, n.Throughout Node.children (Node.IsSealable d) := by
  obtain ⟨hschema, htable⟩ := h.accepts_target
  exact (Node.isKept_isSealable hn hd).settle Node.allowsKeys_isSealable
    ⟨hschema, htable, by rintro a ⟨⟩⟩ (h.isSealable_trees hn) ht

theorem acceptsNames_iff (s : Statement) : s.AcceptsNames d ↔ ∀ n ∈ s.names, d.AcceptsName n := by
  cases s with
  | select s => exact iff_of_true trivial (by rintro n ⟨⟩)
  | _ => simp only [AcceptsNames, names, List.forall_mem_append, List.forall_mem_cons,
      List.forall_mem_map, Option.mem_toList, Option.mem_def, List.not_mem_nil, false_imp_iff,
      implies_true, and_true]

theorem AcceptsNames.namesIn (hn : d.SealsNames) (h : s.AcceptsNames d) :
    s.NamesIn d Text.IsSealed :=
  namesIn_of_names (fun hs => isSealed_of_isPlain (isPlain_of_isTame hs)) IsSealed.append
    hn.quoteColumn hn.quoteQualified ((acceptsNames_iff s).1 h)

theorem IsInlinable.inlinesTo_write (hn : d.SealsNames) (hd : d.OrdersBySealedNames catalog)
    (h : s.IsInlinable d) (ht : s.settle d.capabilities catalog = .ok t) (hfit : t.RowsFit) :
    InlinesTo d (d.writeStatement t) (d.writeStatement t.inline) := by
  have hnames : t.NamesIn d Text.IsSealed :=
    AcceptsNames.namesIn hn ((acceptsNames_iff t).2 (names_settle ht ▸ (acceptsNames_iff s).1 h.names))
  have hroots := h.isSealable_settle hn hd ht
  have hwrite := Dialect.writeStatement_mapRoots (c := fun _ => True) (InlinesTo.congruence d)
    (hn.texts.words (InlinesTo.congruence d)) Expr.keepsShape_inline hnames hfit
    fun n hm => Node.inlinesTo_write hn (hroots n hm)
  rw [inline_eq]
  cases t <;> exact hwrite

end Statement

end PolySql

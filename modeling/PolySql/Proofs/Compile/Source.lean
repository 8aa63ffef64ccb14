import PolySql.Proofs.Compile.Again
import PolySql.Proofs.Settle.Place

namespace PolySql

open Select

variable {caps : Capabilities} {catalog : Catalog}

def Expr.source? : Expr → Option Select
  | .subquery q | .inSubquery _ q _ => some q
  | _ => none

theorem Expr.source?_transform (e : Expr) :
    (e.transform (settleStep caps catalog)).source? = e.source?.map (Select.settle caps catalog true) := by
  rw [e.transform_eq]
  cases e <;> rfl

theorem Expr.source?_iterate_transform (e : Expr) (k : Nat) :
    ((Expr.transform (settleStep caps catalog))^[k] e).source? =
      e.source?.map (Select.settle caps catalog true)^[k] := by
  induction k with
  | zero => exact (Option.map_id' ..).symm
  | succ k ih =>
    rw [Function.iterate_succ_apply', source?_transform, ih, Option.map_map, Function.iterate_succ']

theorem Node.Settles.exists_source {m : Node} {e' : Expr} {q' : Select}
    (h : Settles caps catalog m (.expr e')) (hq : e'.source? = some q') :
    ∃ e q k, m = .expr e ∧ e.source? = some q ∧ q' = (Select.settle caps catalog true)^[k] q := by
  generalize hn : Node.expr e' = n at h
  cases h with
  | root s => cases hn
  | passes k m =>
    cases m with
    | expr e =>
      rw [iterate_transform_expr] at hn
      obtain rfl := Node.expr.inj hn
      rw [Expr.source?_iterate_transform] at hq
      obtain ⟨q, hsource, rfl⟩ := Option.map_eq_some_iff.1 hq
      exact ⟨e, q, k, rfl, hsource, rfl⟩
    | table t =>
      rw [iterate_transform_table] at hn
      cases hn
    | select s =>
      rw [iterate_transform_select] at hn
      cases hn

theorem Node.settles_transformRoot (n : Node) :
    Settles caps catalog n (n.transformRoot (settleStep caps catalog)) := by
  cases n with
  | select s => exact .root s
  | expr e => exact .passes 1 (.expr e)
  | table t => exact .passes 1 (.table t)

theorem Node.Settles.of_transform {e : Expr} {m : Node}
    (h : Settles caps catalog (.expr (e.transform (settleStep caps catalog))) m) :
    Settles caps catalog (.expr e) m := by
  generalize hn : Node.expr (e.transform (settleStep caps catalog)) = n at h
  cases h with
  | root s => cases hn
  | passes k n =>
    subst hn
    exact .passes (k + 1) (.expr e)

theorem Node.Settles.isLeaf {n n' : Node} (h : Settles caps catalog n n') (hn : n.IsLeaf) : n'.IsLeaf := by
  cases h with
  | root s => cases hn
  | passes k n => rwa [Function.iterate_fixed hn.transform]

namespace RowFilter

variable {schema : Option String} {statement table : String} {f f' : RowFilter} {p : Place} {m : Node}

def SelectsKeys (f : RowFilter) (q : Select) : Prop :=
  ∃ key, f.key = some key ∧ f.wheres = [.inSubquery key q false]

theorem width_settle_keySelect (hc : caps.distinctOrderProjections = true) (f : RowFilter)
    (schema : Option String) (table : String) (key : Expr) (nested : Bool) :
    ((f.keySelect schema table key).settle caps catalog nested).width = 1 := by
  have hprobe : (f.keySelect schema table key).isProbe = false := rfl
  rw [Select.settle_eq, Select.width_settleStep_of_not_isProbe hc
    (Select.isProbe_settleInside.trans hprobe), Select.width_settleInside]
  rfl

theorem exists_expr_of_at? (hm : f.at? p = some m) : ∃ e, m = .expr e := by
  obtain ⟨c, i⟩ := p
  have hmem : m ∈ f.slot c := List.mem_of_getElem? hm
  cases c with
  | projections | wheres | orders | limit | offset =>
    obtain ⟨_, -, rfl⟩ := List.mem_map.1 hmem
    exact ⟨_, rfl⟩
  | _ => cases hmem

theorem at?_withNeededLimit
    (hm : ((f.mapWheres (Expr.transform (settleStep caps catalog))).withNeededLimit caps).at? p = some m) :
    m.IsLeaf ∨ ∃ n, f.at? p = some n ∧ (m = n ∨ m = n.transform (settleStep caps catalog)) := by
  obtain ⟨c, i⟩ := p
  change (((f.mapWheres (Expr.transform (settleStep caps catalog))).withNeededLimit caps).slot c)[i]? = some m
    at hm
  cases c with
  | wheres =>
    rw [slot, wheres_withNeededLimit, mapWheres, List.map_map, List.getElem?_map,
      Option.map_eq_some_iff] at hm
    obtain ⟨e, he, rfl⟩ := hm
    refine .inr ⟨.expr e, ?_, .inr rfl⟩
    change (f.wheres.map Node.expr)[i]? = _
    rw [List.getElem?_map, he, Option.map_some]
  | projections =>
    rw [slot, key_withNeededLimit] at hm
    exact .inr ⟨m, hm, .inl rfl⟩
  | orders =>
    rw [slot, orders_withNeededLimit] at hm
    exact .inr ⟨m, hm, .inl rfl⟩
  | limit =>
    unfold withNeededLimit at hm
    split at hm
    · obtain rfl := List.mem_singleton.1 (List.mem_of_getElem? hm)
      exact .inl rfl
    · exact .inr ⟨m, hm, .inl rfl⟩
  | offset =>
    unfold withNeededLimit at hm
    split at hm
    · exact .inr ⟨m, hm, .inl rfl⟩
    · exact .inr ⟨m, hm, .inl rfl⟩
  | _ => cases hm

theorem at?_keySelect {key : Expr} (hk : f.key = some key)
    (hm : (Node.select (f.keySelect schema table key)).at? p = some m) : m.IsLeaf ∨ f.at? p = some m := by
  obtain ⟨c, i⟩ := p
  change ((f.keySelect schema table key).slot c)[i]? = some m at hm
  cases c with
  | projections =>
    refine .inr ?_
    change (f.key.toList.map Node.expr)[i]? = some m
    rw [hk]
    exact hm
  | source =>
    obtain rfl := List.mem_singleton.1 (List.mem_of_getElem? hm)
    exact .inl rfl
  | wheres | orders | limit | offset => exact .inr hm
  | _ => cases hm

end RowFilter

namespace Statement

inductive HasSource (s : Statement) : Address → Bool → Select → Prop
  | inserted {i : Insert} {q : Select} : s = .insert i → i.source = .query q →
    HasSource s ⟨.value 0, []⟩ false q
  | nested {a : Address} {e : Expr} {q : Select} : s.find? a = some (.expr e) → e.source? = some q →
    HasSource s a true q

theorem exists_hasSource {s : Statement} {n : Node} {e : Expr} {q : Select} (hn : n ∈ s.trees)
    (hm : n.Reaches Node.children (.expr e)) (hq : e.source? = some q) : ∃ a, s.HasSource a true q :=
  (exists_find? hn hm).imp fun _ ha => .nested ha hq

-- What restricts the rows of a statement may have become a part of the SELECT of their keys.
inductive Moves (s t : Statement) : Address → Address → Prop
  | tree {r : Root} {n : Node} {path path' : List Place} : s.root? r = some n → n.Shifts path path' →
    Moves s t ⟨r, path⟩ ⟨r, path'⟩
  | keys {p : Place} {n : Node} {path path' : List Place} {q : Select} : t.rows.SelectsKeys q →
    s.rows.at? p = some n → n.Shifts path path' →
      Moves s t ⟨.row p, path⟩ ⟨.row ⟨.wheres, 0⟩, ⟨.parts, 1⟩ :: p :: path'⟩
  | key {path : List Place} {q : Select} : t.rows.SelectsKeys q →
    Moves s t ⟨.row ⟨.projections, 0⟩, path⟩ ⟨.row ⟨.wheres, 0⟩, ⟨.parts, 0⟩ :: path⟩

variable {s t : Statement} {r : Root} {p : Place} {path' : List Place} {n n' m' : Node} {e' : Expr}

theorem query_of_settle {i : Insert} {q' : Select} (h : s.settle caps catalog = .ok (.insert i))
    (hi : i.source = .query q') :
    ∃ q, s.HasSource ⟨.value 0, []⟩ false q ∧ s.root? (.value 0) = some (.select q) ∧
      q' = q.settle caps catalog false := by
  obtain ⟨r, -, ht⟩ := exists_rows_of_settle h
  cases s with
  | insert j =>
    obtain rfl := Statement.insert.inj ht
    cases hj : j.source with
    | query q =>
      rw [hj] at hi
      have hroot : (Statement.insert j).root? (.value 0) = some (.select q) := by
        rw [root?, values, hj]
        rfl
      exact ⟨q, .inserted rfl hj, hroot, (InsertSource.query.inj hi).symm⟩
    | _ =>
      rw [hj] at hi
      cases hi
  | _ => cases ht

theorem find?_inSubquery {key : Expr} {q : Select}
    (hm : (Node.expr (.inSubquery key q false)).find? path' = some m') :
    m' = .expr (.inSubquery key q false) ∨
      (∃ path, path' = ⟨.parts, 0⟩ :: path ∧ (Node.expr key).find? path = some m') ∨
        ∃ path, path' = ⟨.parts, 1⟩ :: path ∧ (Node.select q).find? path = some m' := by
  cases path' with
  | nil => exact .inl (Option.some.inj hm).symm
  | cons p path =>
    obtain ⟨k, hk, hm⟩ := Option.bind_eq_some_iff.1 hm
    obtain ⟨c, i⟩ := p
    cases c with
    | parts =>
      match i with
      | 0 =>
        obtain rfl := Option.some.inj hk
        exact .inr (.inl ⟨path, rfl, hm⟩)
      | 1 =>
        obtain rfl := Option.some.inj hk
        exact .inr (.inr ⟨path, rfl, hm⟩)
      | i + 2 => cases hk
    | _ => cases hk

section Settle
variable (htop : caps.topExistsCheck = true) (hc : caps.distinctOrderProjections = true)
include htop hc

theorem moves_tree (hr : s.root? r = some n) (hn : n.Settles caps catalog n') (hm : n'.find? path' = some m') :
    m'.IsLeaf ∨ ∃ a m, s.find? a = some m ∧ s.Moves t a ⟨r, path'⟩ ∧ m.Settles caps catalog m' := by
  refine (hn.find? htop hc hm).imp_right ?_
  rintro ⟨path, m, hpath, hshifts, hsettles⟩
  exact ⟨⟨r, path⟩, m, Option.bind_eq_some_iff.2 ⟨n, hr, hpath⟩, .tree hr hshifts, hsettles⟩

theorem moves_keys {f : RowFilter} {schema : Option String} {table : String} {key : Expr} {q : Select}
    (hf : f = (s.rows.mapWheres (Expr.transform (settleStep caps catalog))).withNeededLimit caps)
    (hkey : f.key = some key) (hq : q = (f.keySelect schema table key).settle caps catalog false)
    (hkeys : t.rows.SelectsKeys q) (hm : (Node.select q).find? path' = some (.expr e')) :
    (Node.expr e').IsLeaf ∨ ∃ a m, s.find? a = some m ∧
      s.Moves t a ⟨.row ⟨.wheres, 0⟩, ⟨.parts, 1⟩ :: path'⟩ ∧ m.Settles caps catalog (.expr e') := by
  cases path' with
  | nil => cases hm
  | cons p' path' =>
    obtain ⟨k', hk', hm⟩ := Option.bind_eq_some_iff.1 hm
    have hleaf (h : k'.IsLeaf) : (Node.expr e').IsLeaf := h.eq_of_find? hm ▸ h
    rw [hq] at hk'
    obtain h | ⟨p, k, hk, hshift, hsettles⟩ := (Node.Settles.root _).at? htop hc hk'
    · exact .inl (hleaf h)
    cases hshift with
    | selected hn hd _ _ =>
      obtain rfl := Node.select.inj hn
      cases hd
    | stays =>
      obtain h | hk := RowFilter.at?_keySelect hkey hk
      · exact .inl (hleaf (hsettles.isLeaf h))
      rw [hf] at hk
      obtain h | ⟨n, hn, hk⟩ := RowFilter.at?_withNeededLimit hk
      · exact .inl (hleaf (hsettles.isLeaf h))
      have hsettles' : n.Settles caps catalog k' := by
        obtain rfl | rfl := hk
        · exact hsettles
        · obtain ⟨e, rfl⟩ := RowFilter.exists_expr_of_at? hn
          exact hsettles.of_transform
      refine (hsettles'.find? htop hc hm).imp_right ?_
      rintro ⟨path, m, hpath, hshifts, hsettled⟩
      exact ⟨⟨.row p', path⟩, m, Option.bind_eq_some_iff.2 ⟨n, hn, hpath⟩, .keys hkeys hn hshifts, hsettled⟩

theorem moves_row {statement table : String} {schema : Option String}
    (hr : (s.rows.mapWheres (Expr.transform (settleStep caps catalog))).restrict caps catalog statement schema
      table = .ok t.rows)
    (hn : t.rows.at? p = some n') (hm : n'.find? path' = some (.expr e')) :
    (Node.expr e').IsLeaf ∨
      (∃ a m, s.find? a = some m ∧ s.Moves t a ⟨.row p, path'⟩ ∧ m.Settles caps catalog (.expr e')) ∨
        ∃ key q, e' = .inSubquery key q false ∧ t.rows.SelectsKeys q ∧ q.width = 1 := by
  rcases RowFilter.restrict_cases hr with ⟨hrows, -⟩ | ⟨key, hkey, -, hrows⟩
  · have hn' : ((s.rows.mapWheres (Expr.transform (settleStep caps catalog))).withNeededLimit caps).at? p =
        some n' := by
      rw [hrows] at hn
      obtain ⟨c, i⟩ := p
      cases c with
      | orders => cases hn
      | _ => exact hn
    obtain hleaf | ⟨n, hn, hn'⟩ := RowFilter.at?_withNeededLimit hn'
    · exact .inl (hleaf.eq_of_find? hm ▸ hleaf)
    · have hsettles : n.Settles caps catalog n' := by
        obtain rfl | rfl := hn'
        · exact .passes 0 _
        · exact .passes 1 n
      exact (moves_tree htop hc (r := .row p) hn hsettles hm).imp_right .inl
  · obtain ⟨q, hq⟩ : ∃ q, q = (((s.rows.mapWheres (Expr.transform (settleStep caps catalog))).withNeededLimit
        caps).keySelect schema table key).settle caps catalog false :=
      ⟨_, rfl⟩
    rw [← hq] at hrows
    have hkeys : t.rows.SelectsKeys q := by
      rw [hrows]
      exact ⟨key, rfl, rfl⟩
    have hsame : s.root? (.row ⟨.projections, 0⟩) = some (.expr key) := by
      change (s.rows.key.toList.map Node.expr)[0]? = _
      rw [show s.rows.key = some key from hkey]
      rfl
    rw [hrows] at hn
    obtain ⟨c, i⟩ := p
    match c, i with
    | .projections, 0 =>
      obtain rfl := Option.some.inj hn
      exact (moves_tree htop hc hsame (.passes 0 _) hm).imp_right .inl
    | .wheres, 0 =>
      obtain rfl := Option.some.inj hn
      obtain h | ⟨path, rfl, hpath⟩ | ⟨path, rfl, hpath⟩ := find?_inSubquery hm
      · exact .inr (.inr ⟨key, q, Node.expr.inj h, hkeys, hq ▸ RowFilter.width_settle_keySelect hc ..⟩)
      · exact .inr (.inl ⟨_, _, Option.bind_eq_some_iff.2 ⟨_, hsame, hpath⟩, .key hkeys, .passes 0 _⟩)
      · exact (moves_keys htop hc rfl (RowFilter.key_withNeededLimit.trans hkey) hq hkeys hpath).imp_right
          .inl

theorem moves_of_settle {a' : Address} (h : s.settle caps catalog = .ok t) (hm : t.find? a' = some (.expr e')) :
    (Node.expr e').IsLeaf ∨
      (∃ a m, s.find? a = some m ∧ s.Moves t a a' ∧ m.Settles caps catalog (.expr e')) ∨
        ∃ key q, e' = .inSubquery key q false ∧ t.rows.SelectsKeys q ∧ q.width = 1 := by
  obtain ⟨hv, hr⟩ := of_settle_eq_ok h
  obtain ⟨r, path'⟩ := a'
  obtain ⟨n', hn', hm⟩ := Option.bind_eq_some_iff.1 hm
  cases r with
  | row p => exact moves_row htop hc hr hn' hm
  | value i =>
    change t.values[i]? = some n' at hn'
    rw [hv, List.getElem?_map, Option.map_eq_some_iff] at hn'
    obtain ⟨n, hn, rfl⟩ := hn'
    exact (moves_tree htop hc (r := .value i) hn n.settles_transformRoot hm).imp_right .inl

end Settle

end Statement

theorem SqlServer.width_of_compile {zone : Calendar.Timezone} {collation : String} {s : Statement}
    {c : Compiled} (h : compile (SqlServer.dialectWith zone collation) catalog s = .ok c) :
    (∀ n ∈ c.statement.trees, ∀ e q', n.Reaches Node.children (.expr e) → e.source? = some q' →
      ∃ a', c.statement.HasSource a' true q') ∧
    ∀ a' nested q', c.statement.HasSource a' nested q' →
      (∃ a q k, s.HasSource a nested q ∧ s.Moves c.statement a a' ∧
        q' = (Select.settle SqlServer.capabilities catalog nested)^[k] q ∧
        (q'.width = q.width ↔ ∀ i < k,
          (((Select.settle SqlServer.capabilities catalog nested)^[i] q).settleInside
            SqlServer.capabilities catalog).KeepsWidth SqlServer.capabilities catalog nested)) ∨
        c.statement.rows.SelectsKeys q' ∧ q'.width = 1 := by
  obtain ⟨hsettle, -⟩ := of_compile_eq_ok h
  have hwidth (nested : Bool) (q : Select) (k : Nat) :=
    @Select.width_iterate_settle_iff SqlServer.capabilities catalog nested q rfl rfl k
  refine ⟨fun n hn e q' => Statement.exists_hasSource hn, fun a' nested q' hq => ?_⟩
  cases hq with
  | inserted hi hquery =>
    rw [hi] at hsettle ⊢
    obtain ⟨q, hq, hroot, rfl⟩ := Statement.query_of_settle hsettle hquery
    exact .inl ⟨_, q, 1, hq, .tree hroot (.nil _), rfl, hwidth false q 1⟩
  | @nested _ e' _ hm hsource =>
    obtain hleaf | ⟨a, m, ha, hmoves, hsettles⟩ | ⟨key, q, rfl, hkeys⟩ :=
      Statement.moves_of_settle rfl rfl hsettle hm
    · cases e' with
      | subquery q | inSubquery e q n => cases hleaf
      | _ => cases hsource
    · obtain ⟨e, q, k, rfl, hq, rfl⟩ := hsettles.exists_source hsource
      exact .inl ⟨a, q, k, .nested ha hq, hmoves, rfl, hwidth true q k⟩
    · obtain rfl := Option.some.inj hsource
      exact .inr hkeys

def orderedSource : Select :=
  { Select.ofTable (.table none "u" none) with
    distinct := true
    projections := [⟨.column none "a", none⟩]
    orders := [⟨.column none "b", .asc, none⟩] }

def widenedSource : Select :=
  { orderedSource with
    projections := [⟨.column none "b", some "alias_0"⟩, ⟨.column none "a", none⟩] }

theorem settle_orderedSource :
    orderedSource.settle SqlServer.capabilities catalog false = widenedSource := by
  have hsame : (Expr.column none "a" == Expr.column none "b") = false := by
    show Expr.same _ _ = false
    simp [Expr.same]
  have hmissing : orderedSource.missingOrders = [.column none "b"] := by
    simp [Select.missingOrders, orderedSource, Select.orderedBy, hsame, Select.unique]
  have hsettle : orderedSource.settle SqlServer.capabilities catalog false =
      orderedSource.projectOrders := rfl
  rw [hsettle, Select.projectOrders, hmissing]
  rfl

def insertFrom (q : Select) : Statement :=
  .insert ⟨none, "t", ["a"], .query q, []⟩

theorem eq_of_hasSource_insertFrom {a : Address} {q q' : Select}
    (h : (insertFrom q).HasSource a false q') : q' = q := by
  cases h with
  | inserted hi hq =>
    obtain rfl := Statement.insert.inj hi
    exact (InsertSource.query.inj hq).symm

theorem hasSource_insertFrom (q : Select) : (insertFrom q).HasSource ⟨.value 0, []⟩ false q :=
  .inserted rfl rfl

theorem SqlServer.width_of_compile_orderedSource :
    let catalog : Catalog := ⟨fun _ => [], fun _ => []⟩
    ∃ c a' q', compile SqlServer.dialect catalog (insertFrom orderedSource) = .ok c ∧
      c.statement.HasSource a' false q' ∧ ∃ a q k, (insertFrom orderedSource).HasSource a false q ∧
        (insertFrom orderedSource).Moves c.statement a a' ∧ q'.width ≠ q.width ∧ ∃ i < k,
          ¬ (((Select.settle SqlServer.capabilities catalog false)^[i] q).settleInside
            SqlServer.capabilities catalog).KeepsWidth SqlServer.capabilities catalog false := by
  intro catalog
  have hsettle : (insertFrom orderedSource).settle SqlServer.dialect.capabilities catalog =
      .ok (insertFrom widenedSource) :=
    congrArg (Except.ok ∘ insertFrom) settle_orderedSource
  have hcompile := (compile_of_settle hsettle).trans rfl
  have hsource := hasSource_insertFrom widenedSource
  refine ⟨_, _, _, hcompile, hsource, ?_⟩
  rcases (SqlServer.width_of_compile hcompile).2 _ _ _ hsource with ⟨a, q, k, hq, hmoves, -, hiff⟩ | ⟨-, hkeys⟩
  · have hne : widenedSource.width ≠ q.width := by
      rw [eq_of_hasSource_insertFrom hq]
      decide
    refine ⟨a, q, k, hq, hmoves, hne, ?_⟩
    simpa using mt hiff.2 hne
  · cases hkeys

end PolySql

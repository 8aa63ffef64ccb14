import PolySql.Proofs.Compile.Again
import PolySql.Proofs.Settle.Lookup

namespace PolySql

structure Catalog.Knows (catalog : Catalog) (table : String) (info : Option TableInfo) : Prop where
  primaryKeys_eq : catalog.primaryKeys table = (info.map (·.primaryKeys)).getD []
  columns_eq : catalog.columns table = (info.map (·.columns)).getD []

theorem Catalog.Knows.agreeAt {catalog catalog' : Catalog} {table : String} {info : Option TableInfo}
    (h : catalog.Knows table info) (h' : catalog'.Knows table info) :
    catalog.AgreeAt catalog' table :=
  ⟨h.primaryKeys_eq.trans h'.primaryKeys_eq.symm, h.columns_eq.trans h'.columns_eq.symm⟩

inductive StoreChange where
  | add (table : String) (primaryKeys : List String) (columns : List Column)
  | invalidate (table : String)
  | clear

namespace StoreChange

def IsAbout (table : String) : StoreChange → Prop
  | add name _ _ | invalidate name => name = table
  | clear => True

def info? : StoreChange → Option TableInfo
  | add name primaryKeys columns =>
    some ⟨primaryKeys, columns.map fun c => { c with table := some (c.table.getD name) }⟩
  | invalidate _ | clear => none

def IsLatest (table : String) (history : List StoreChange) (change : StoreChange) : Prop :=
  ∃ earlier rest, history = earlier ++ change :: rest ∧ change.IsAbout table ∧
    ∀ c ∈ rest, ¬ c.IsAbout table

end StoreChange

namespace TableStore

def apply (store : TableStore) : StoreChange → TableStore
  | .add table primaryKeys columns => store.addTable table primaryKeys columns
  | .invalidate table => store.invalidate table
  | .clear => store.clear

def after (store : TableStore) (history : List StoreChange) : TableStore :=
  history.foldl apply store

variable {store store' : TableStore} {table : String} {change : StoreChange}

theorem after_append (history rest : List StoreChange) :
    store.after (history ++ rest) = (store.after history).after rest :=
  List.foldl_append

theorem get?_invalidate_self : (store.invalidate table).get? table = none := by
  simp [invalidate, get?]

theorem get?_invalidate_of_ne {name : String} (h : name ≠ table) :
    (store.invalidate name).get? table = store.get? table := by
  simp only [invalidate, get?, List.find?_filter]
  congr 2
  funext e
  by_cases he : e.1 = table <;> simp [he, Ne.symm h]

theorem get?_apply_of_isAbout (h : change.IsAbout table) :
    (store.apply change).get? table = change.info? := by
  cases change with
  | add name primaryKeys columns =>
    obtain rfl : name = table := h
    simp [apply, addTable, get?, StoreChange.info?]
  | invalidate name =>
    obtain rfl : name = table := h
    exact get?_invalidate_self
  | clear => rfl

theorem get?_apply_of_not_isAbout (h : ¬ change.IsAbout table) :
    (store.apply change).get? table = store.get? table := by
  cases change with
  | add name primaryKeys columns =>
    have hne : (name == table) = false := beq_false_of_ne h
    have hold : (store.invalidate name).get? table = store.get? table := get?_invalidate_of_ne h
    simpa [apply, addTable, get?, hne] using hold
  | invalidate name => exact get?_invalidate_of_ne h
  | clear => exact absurd trivial h

theorem get?_after_of_not_isAbout {history : List StoreChange}
    (h : ∀ c ∈ history, ¬ c.IsAbout table) :
    (store.after history).get? table = store.get? table := by
  induction history generalizing store with
  | nil => rfl
  | cons change history ih =>
    obtain ⟨hchange, hrest⟩ := List.forall_mem_cons.1 h
    exact (ih hrest).trans (get?_apply_of_not_isAbout hchange)

theorem get?_after_congr (h : store.get? table = store'.get? table) (history : List StoreChange) :
    (store.after history).get? table = (store'.after history).get? table := by
  induction history generalizing store store' with
  | nil => exact h
  | cons change history ih =>
    refine ih ?_
    by_cases hc : change.IsAbout table
    · rw [get?_apply_of_isAbout hc, get?_apply_of_isAbout hc]
    · rw [get?_apply_of_not_isAbout hc, get?_apply_of_not_isAbout hc, h]

theorem get?_after_of_isLatest {history : List StoreChange}
    (h : StoreChange.IsLatest table history change) :
    (store.after history).get? table = change.info? := by
  obtain ⟨earlier, rest, rfl, habout, hrest⟩ := h
  rw [after_append]
  exact (get?_after_of_not_isAbout hrest).trans (get?_apply_of_isAbout habout)

theorem knows_catalog (table : String) : store.catalog.Knows table (store.get? table) :=
  ⟨rfl, rfl⟩

end TableStore

variable {d : Dialect} {s : Statement}

theorem compile_congr {catalog catalog' : Catalog} (h : s.AgreeOn catalog catalog') :
    compile d catalog s = compile d catalog' s := by
  rw [compile, compile, Statement.settle_congr h]

theorem compile_store_congr {store : TableStore} {catalog : Catalog}
    (h : ∀ table, s.Asks table → catalog.Knows table (store.get? table)) :
    compile d store.catalog s = compile d catalog s :=
  compile_congr fun table ht => (TableStore.knows_catalog table).agreeAt (h table ht)

variable (d s)

theorem compile_reads_asked :
    (∀ catalog catalog' : Catalog, s.AgreeOn catalog catalog' →
      compile d catalog s = compile d catalog' s) ∧
    (∀ (store : TableStore) (before others rest : List StoreChange),
      (∀ change ∈ others, ∀ table, s.Asks table → ¬ change.IsAbout table) →
      compile d (store.after (before ++ others ++ rest)).catalog s =
        compile d (store.after (before ++ rest)).catalog s) ∧
    ∀ (store : TableStore) (history : List StoreChange) (catalog : Catalog),
      (∀ table, s.Asks table →
        (∃ change, StoreChange.IsLatest table history change ∧ catalog.Knows table change.info?) ∨
        (∀ change ∈ history, ¬ change.IsAbout table) ∧ catalog.Knows table (store.get? table)) →
      compile d (store.after history).catalog s = compile d catalog s := by
  refine ⟨fun _ _ => compile_congr, fun store before others rest h => ?_,
    fun store history catalog h => ?_⟩
  · refine compile_store_congr fun table ht => ?_
    have hothers : ∀ c ∈ others, ¬ c.IsAbout table := fun c hc => h c hc table ht
    have hsame : (store.after (before ++ others ++ rest)).get? table =
        (store.after (before ++ rest)).get? table := by
      rw [TableStore.after_append (before ++ others), TableStore.after_append before others,
        TableStore.after_append before rest]
      exact TableStore.get?_after_congr (TableStore.get?_after_of_not_isAbout hothers) rest
    rw [hsame]
    exact TableStore.knows_catalog table
  · refine compile_store_congr fun table ht => ?_
    rcases h table ht with ⟨change, hlatest, hknows⟩ | ⟨hnone, hknows⟩
    · rwa [TableStore.get?_after_of_isLatest hlatest]
    · rwa [TableStore.get?_after_of_not_isAbout hnone]

def firstUser : Statement :=
  .select
    { Select.ofTable (.table none "users" none) with
      projections := [⟨.wildcard none, none⟩]
      limit := some (.value (.int 1)) }

theorem asks_firstUser {table : String} (h : firstUser.Asks table) : table = "users" := by
  cases h with
  | source hn hq ht hname =>
    obtain rfl := List.mem_singleton.1 hn
    rcases Relation.ReflTransGen.cases_head hq with hq | ⟨m, hm, hq⟩
    · obtain rfl := Node.select.inj hq
      cases ht
      cases hname
      rfl
    · have hleaf : m.children = [] ∧ ∀ q, m ≠ .select q := by
        have hm : m = .expr (.wildcard none) ∨ m = .table (.table none "users" none) ∨
            m = .expr (.value (.int 1)) := by
          simpa [Node.children, Select.parts, Select.orderParts, Select.bounds, Select.ofTable,
            Select.empty] using hm
        rcases hm with rfl | rfl | rfl <;> exact ⟨rfl, by simp⟩
      rcases Relation.ReflTransGen.cases_head hq with hq | ⟨k, hk, -⟩
      · exact absurd hq (hleaf.2 _)
      · rw [hleaf.1] at hk
        cases hk
  | updated h => cases h
  | deleted h => cases h

theorem compile_reads_asked_firstUser :
    let users : StoreChange := .add "users" ["id"] []
    let others : List StoreChange := [.add "posts" ["key"] [], .invalidate "accounts"]
    (compile SqlServer.dialect (TableStore.empty.after ([users] ++ others ++ [])).catalog
      firstUser).toOption.map (·.sql) =
      some "SELECT * FROM [users] ORDER BY [users].[id] ASC OFFSET 0 ROWS FETCH NEXT 1 ROWS ONLY" := by
  intro users others
  have hothers : ∀ change ∈ others, ∀ table, firstUser.Asks table → ¬ change.IsAbout table := by
    intro change hc table ht
    obtain rfl := asks_firstUser ht
    simp only [others, List.mem_cons, List.not_mem_nil, or_false] at hc
    rcases hc with rfl | rfl <;> simp [StoreChange.IsAbout]
  rw [(compile_reads_asked SqlServer.dialect firstUser).2.1 .empty [users] others [] hothers]
  decide +kernel

end PolySql

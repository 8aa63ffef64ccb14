import PolySql.Dialect.Generic
import PolySql.Dialect.Postgres
import PolySql.Dialect.Sqlite
import PolySql.Proofs.Compile.Again
import PolySql.Proofs.Write.Marks

namespace PolySql

structure Capabilities.SettlesLike (caps caps' : Capabilities) : Prop where
  paging : caps.paging = caps'.paging
  deterministicPaging : caps.deterministicPaging = caps'.deterministicPaging
  orderedSubqueries : caps.orderedSubqueries = caps'.orderedSubqueries
  topExistsCheck : caps.topExistsCheck = caps'.topExistsCheck
  distinctOrderProjections : caps.distinctOrderProjections = caps'.distinctOrderProjections
  updateOrderRequiresLimit : caps.updateOrderRequiresLimit = caps'.updateOrderRequiresLimit
  maxRowLimit : caps.maxRowLimit = caps'.maxRowLimit

namespace Capabilities.SettlesLike

variable {caps caps' : Capabilities} (h : caps.SettlesLike caps') (catalog : Catalog)
include h

theorem dropIdleOrder_eq (nested : Bool) (s : Select) :
    s.dropIdleOrder caps nested = s.dropIdleOrder caps' nested := by
  rw [Select.dropIdleOrder, Select.dropIdleOrder, h.orderedSubqueries]

theorem probeWithTop_eq (s : Select) : s.probeWithTop caps = s.probeWithTop caps' := by
  rw [Select.probeWithTop, Select.probeWithTop, h.topExistsCheck]

theorem orderPaging_eq (s : Select) : s.orderPaging caps catalog = s.orderPaging caps' catalog := by
  rw [Select.orderPaging, Select.orderPaging, h.deterministicPaging]

theorem completeOffset_eq (s : Select) : s.completeOffset caps = s.completeOffset caps' := by
  rw [Select.completeOffset, Select.completeOffset, h.paging]

theorem projectDistinctOrders_eq (s : Select) :
    s.projectDistinctOrders caps = s.projectDistinctOrders caps' := by
  rw [Select.projectDistinctOrders, Select.projectDistinctOrders, h.distinctOrderProjections]

theorem settleStep_eq : Select.settleStep caps catalog = Select.settleStep caps' catalog := by
  funext nested s
  rw [Select.settleStep, Select.settleStep, h.dropIdleOrder_eq, h.probeWithTop_eq, h.orderPaging_eq,
    h.completeOffset_eq, h.projectDistinctOrders_eq]

theorem settleSelect_eq (nested : Bool) (s : Select) :
    s.settle caps catalog nested = s.settle caps' catalog nested := by
  rw [Select.settle, Select.settle, h.settleStep_eq catalog]

theorem withNeededLimit_eq (f : RowFilter) : f.withNeededLimit caps = f.withNeededLimit caps' := by
  rw [RowFilter.withNeededLimit, RowFilter.withNeededLimit, h.updateOrderRequiresLimit, h.maxRowLimit]

theorem restrict_eq (statement : String) (schema : Option String) (table : String) (f : RowFilter) :
    f.restrict caps catalog statement schema table = f.restrict caps' catalog statement schema table := by
  simp only [RowFilter.restrict, h.withNeededLimit_eq, h.settleSelect_eq catalog]

theorem settle_eq (s : Statement) : s.settle caps catalog = s.settle caps' catalog := by
  cases s with
  | select s => simp only [Statement.settle, h.settleSelect_eq catalog]
  | insert s => simp only [Statement.settle, h.settleStep_eq catalog, h.settleSelect_eq catalog]
  | update s => simp only [Statement.settle, h.settleStep_eq catalog, h.restrict_eq catalog]
  | delete s => simp only [Statement.settle, h.settleStep_eq catalog, h.restrict_eq catalog]

end Capabilities.SettlesLike

theorem map_compile_congr {d d' : Dialect} (hd : d.capabilities.paging = .limitOffset)
    (h : d.capabilities.SettlesLike d'.capabilities) (catalog : Catalog) (s : Statement) :
    (compile d catalog s).map (fun c => (c.binds, c.statement)) =
      (compile d' catalog s).map fun c => (c.binds, c.statement) := by
  have hwrite := Node.marks_write_congr hd (h.paging.symm.trans hd)
  cases hs : s.settle d'.capabilities catalog with
  | error e =>
    unfold compile
    rw [h.settle_eq catalog s, hs]
    rfl
  | ok t =>
    have hfinish : ((d.writeStatement t).finish d.placeholder).map Prod.snd =
        ((d'.writeStatement t).finish d'.placeholder).map Prod.snd :=
      Emission.map_finish_congr (Dialect.marks_writeStatement_congr hwrite t)
    rw [compile_of_settle hs, compile_of_settle ((h.settle_eq catalog s).trans hs)]
    calc (((d.writeStatement t).finish d.placeholder).map fun w => (⟨w.1, w.2, t⟩ : Compiled)).map
          (fun c => (c.binds, c.statement))
        = (((d.writeStatement t).finish d.placeholder).map Prod.snd).map fun binds => (binds, t) := by
          cases (d.writeStatement t).finish d.placeholder <;> rfl
      _ = (((d'.writeStatement t).finish d'.placeholder).map Prod.snd).map fun binds => (binds, t) := by
          rw [hfinish]
      _ = _ := by cases (d'.writeStatement t).finish d'.placeholder <;> rfl

theorem postgres_settlesLike : Postgres.dialect.capabilities.SettlesLike Generic.dialect.capabilities :=
  ⟨rfl, rfl, rfl, rfl, rfl, rfl, rfl⟩

theorem sqlite_settlesLike : Sqlite.dialect.capabilities.SettlesLike Generic.dialect.capabilities :=
  ⟨rfl, rfl, rfl, rfl, rfl, rfl, rfl⟩

theorem compile_limitOffset (catalog : Catalog) (s : Statement) :
    (compile Postgres.dialect catalog s).map (fun c => (c.binds, c.statement)) =
        (compile Generic.dialect catalog s).map (fun c => (c.binds, c.statement)) ∧
      (compile Sqlite.dialect catalog s).map (fun c => (c.binds, c.statement)) =
        (compile Generic.dialect catalog s).map fun c => (c.binds, c.statement) :=
  ⟨map_compile_congr rfl postgres_settlesLike catalog s, map_compile_congr rfl sqlite_settlesLike catalog s⟩

end PolySql

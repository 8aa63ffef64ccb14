import PolySql.Compiler.Compile
import PolySql.Proofs.Settle.Idle
import PolySql.SqlServer.Dialect

namespace PolySql

variable {d : Dialect} {catalog : Catalog} {s : Statement} {c : Compiled}

theorem exists_eq_ok {ε α : Type} {x : Except ε α} (h : x.isOk = true) : ∃ a, x = .ok a := by
  cases x with
  | error e => cases h
  | ok a => exact ⟨a, rfl⟩

theorem compile_of_settle {t : Statement} (h : s.settle d.capabilities catalog = .ok t) :
    compile d catalog s =
      ((d.writeStatement t).finish d.placeholder).map fun w => ⟨w.1, w.2, t⟩ := by
  unfold compile
  rw [h]
  show Except.bind ((d.writeStatement t).finish d.placeholder) _ = _
  cases (d.writeStatement t).finish d.placeholder <;> rfl

theorem of_compile_eq_ok (h : compile d catalog s = .ok c) :
    s.settle d.capabilities catalog = .ok c.statement ∧
      (d.writeStatement c.statement).finish d.placeholder = .ok (c.sql, c.binds) := by
  cases ht : s.settle d.capabilities catalog with
  | error e =>
    unfold compile at h
    rw [ht] at h
    cases h
  | ok t =>
    rw [compile_of_settle ht] at h
    cases hw : (d.writeStatement t).finish d.placeholder with
    | error e =>
      rw [hw] at h
      cases h
    | ok w =>
      rw [hw] at h
      obtain rfl := Except.ok.inj h
      exact ⟨rfl, hw⟩

theorem compile_statement_of_compile (htop : d.capabilities.topExistsCheck = false)
    (hnan : s.IsNaNFree) (hkey : s.rows.HasPlainKey) (h : compile d catalog s = .ok c) :
    compile d catalog c.statement = .ok c := by
  obtain ⟨hs, hw⟩ := of_compile_eq_ok h
  have hagain := (Statement.isSettled_settle hnan hkey hs).settle
  -- All that could still be dropped are orders, and the settled tree has no idle ones.
  rw [(Statement.keepsOrders_settle htop hkey hs).dropIdleOrders] at hagain
  rw [compile_of_settle hagain, hw]
  rfl

def limitedDelete : Statement :=
  .delete
    { schema := none
      table := "t"
      rows :=
        { RowFilter.empty with
          wheres :=
            [.exists
              { Select.ofTable (.table none "u" none) with
                projections := [⟨.column none "x", none⟩]
                orders := [⟨.column none "x", .asc, none⟩] }
              false]
          limit := some (.bind (.int 3))
          key := some (.column none "id") } }

theorem isNaNFree_limitedDelete : limitedDelete.IsNaNFree := by
  have hleaf {e : Expr} (h : e.parts = []) (he : e.isNaNFree = true) :
      (Node.expr e).Throughout Node.children Node.IsNaNFree :=
    Node.throughout_of_eq_nil h he
  refine List.forall_mem_cons.2 ⟨?_, List.forall_mem_cons.2 ⟨hleaf rfl rfl, ?_⟩⟩
  · refine .intro rfl (List.forall_mem_singleton.2 (.intro trivial ?_))
    refine List.forall_mem_cons.2 ⟨hleaf rfl rfl, List.forall_mem_cons.2 ⟨?_, ?_⟩⟩
    · exact Node.throughout_of_eq_nil rfl trivial
    · exact List.forall_mem_singleton.2 (hleaf rfl rfl)
  · exact List.forall_mem_singleton.2 (hleaf rfl rfl)

theorem hasPlainKey_limitedDelete : limitedDelete.rows.HasPlainKey := by
  rintro key ⟨⟩
  exact Node.throughout_of_eq_nil rfl trivial

theorem compile_statement_of_compile_limitedDelete :
    let d : Dialect := { SqlServer.dialect with
      capabilities := { SqlServer.capabilities with topExistsCheck := false } }
    let catalog : Catalog := ⟨fun _ => ["id"], fun _ => []⟩
    ∃ c, compile d catalog limitedDelete = .ok c ∧ compile d catalog c.statement = .ok c :=
  ⟨_, rfl, compile_statement_of_compile rfl isNaNFree_limitedDelete hasPlainKey_limitedDelete rfl⟩

end PolySql

import PolySql.Proofs.Compile.Again
import PolySql.Proofs.Paging.Select
import PolySql.Proofs.Settle.Unbound
import PolySql.SqlServer.ClauseBinds

namespace PolySql

open Emission

inductive IsPlainBound : Option Expr → Prop
  | absent : IsPlainBound none
  | value (v : Value) : IsPlainBound (some (.value v))
  | bind (v : Value) : IsPlainBound (some (.bind v))

def boundValue? : Option Expr → Option Value
  | some (.bind v) => some v
  | _ => none

def limitValue? (limit : Option Expr) : Option Value := do
  let v ← boundValue? limit
  if v.asInt? = some 0 then none else some v

namespace SqlServer

def ClauseBinds.collect (d : Dialect) (asked settled : Select) : ClauseBinds where
  source := settled.source.elim [] fun t => (d.writeTable t).binds
  joins := settled.joins.flatMap d.joinBinds
  wheres := settled.wheres.flatMap fun e => (d.writeExpr e).binds
  havings := settled.havings.flatMap fun e => (d.writeExpr e).binds
  limit := limitValue? asked.limit
  offset := boundValue? asked.offset

end SqlServer

variable {d : Dialect} {catalog : Catalog} {s : Select}

theorem binds_writeOffsetFetch {limit offset : Option Expr} (hl : IsPlainBound limit)
    (ho : IsPlainBound offset) :
    (Dialect.writeOffsetFetch (d.writeBound limit) (d.writeBound offset)).binds =
      (boundValue? offset).toList ++ (limitValue? limit).toList := by
  unfold Dialect.writeOffsetFetch
  rw [binds_append]
  congr 1
  · cases ho <;> rfl
  · cases hl with
    | absent => rfl
    | value v =>
      simp only [Dialect.writeBound]
      split <;> rfl
    | bind v =>
      have hbind : (d.writeExpr (.bind v)).binds = [v] := rfl
      by_cases hzero : v.asInt? = some 0
      · simp [Dialect.writeBound, Expr.intValue?, limitValue?, boundValue?, hzero, binds_lit]
      · simp [Dialect.writeBound, Expr.intValue?, limitValue?, boundValue?, hzero, binds_append,
          binds_lit, hbind]

theorem boundValue?_offset_settle {caps : Capabilities} (h : s.isProbe = false)
    (ho : IsPlainBound s.offset) :
    IsPlainBound (s.settle caps catalog false).offset ∧
      boundValue? (s.settle caps catalog false).offset = boundValue? s.offset := by
  rw [Select.offset_settle h]
  split
  · rename_i hc
    simp only [Bool.and_eq_true, Option.isNone_iff_eq_none] at hc
    rw [hc.2]
    exact ⟨.value _, rfl⟩
  · exact ⟨ho, rfl⟩

theorem binds_writeBody_of_isUnbound {q : Select} (hp : ∀ p ∈ q.projections, p.expr.IsUnbound)
    (hg : ∀ e ∈ q.groups, e.IsUnbound) :
    (d.writeBody q).binds =
      (q.source.elim [] fun t => (d.writeTable t).binds) ++ q.joins.flatMap d.joinBinds ++
        (q.wheres.flatMap fun e => (d.writeExpr e).binds) ++
        q.havings.flatMap fun e => (d.writeExpr e).binds := by
  have hprojections : (q.projections.flatMap fun p => (d.writeExpr p.expr).binds) = [] :=
    List.flatMap_eq_nil_iff.2 fun p hmem => Node.binds_write_eq_nil (hp p hmem)
  have hgroups : (q.groups.flatMap fun e => (d.writeExpr e).binds) = [] :=
    List.flatMap_eq_nil_iff.2 fun e hmem => Node.binds_write_eq_nil (hg e hmem)
  rw [Dialect.binds_writeBody, hprojections, hgroups, List.nil_append, List.append_nil]

namespace SqlServer

theorem binds_compile_eq_combine (zone : Calendar.Timezone) (collation : String) (catalog : Catalog)
    {q : Select} (hprobe : q.isProbe = false) (hclear : q.BindsRowsOnly)
    (hlimit : IsPlainBound q.limit) (hoffset : IsPlainBound q.offset) {c : Compiled}
    (hc : compile (dialectWith zone collation) catalog (.select q) = .ok c) :
    ∃ settled, c.statement = .select settled ∧
      c.binds = (ClauseBinds.collect (dialectWith zone collation) q settled).combine := by
  let d := dialectWith zone collation
  let settled := q.settle d.capabilities catalog false
  obtain ⟨hsettle, hfinish⟩ := of_compile_eq_ok hc
  have hstatement : c.statement = .select settled := (Except.ok.inj hsettle).symm
  refine ⟨settled, hstatement, ?_⟩
  have hbinds : c.binds = (d.writeSelect settled).binds := by
    have hw := (of_finish_eq_ok _ hfinish).2
    rw [hstatement] at hw
    exact congrArg Prod.snd hw
  obtain ⟨hprojections, hgroups, horders⟩ :
      (∀ p ∈ settled.projections, p.expr.IsUnbound) ∧ (∀ e ∈ settled.groups, e.IsUnbound) ∧
        ∀ o ∈ settled.orders, o.expr.IsUnbound :=
    hclear.settle hprobe
  have horder : (d.writeOrderBy settled).binds = [] := by
    rw [Dialect.binds_writeOrderBy]
    exact List.flatMap_eq_nil_iff.2 fun o hmem => Node.binds_write_eq_nil (horders o hmem)
  obtain ⟨hplain, hsame⟩ := boundValue?_offset_settle hprobe hoffset
  have hpage : (Dialect.writeOffsetFetch (d.writeBound settled.limit) (d.writeBound settled.offset)).binds =
      (boundValue? q.offset).toList ++ (limitValue? q.limit).toList := by
    rw [show settled.limit = q.limit from Select.limit_settle hprobe, ← hsame]
    exact binds_writeOffsetFetch hlimit hplain
  rw [hbinds, d.binds_writeSelect_of_offsetFetch rfl,
    binds_writeBody_of_isUnbound hprojections hgroups, horder, List.append_nil, hpage,
    ← List.append_assoc]
  rfl

theorem isClear_column (table : Option String) (name : String) : (Expr.column table name).IsClear :=
  ⟨Node.throughout_of_eq_nil rfl trivial, Node.throughout_of_eq_nil rfl trivial⟩

def pagedJoin : Select :=
  { Select.ofTable (.derived
      { Select.ofTable (.table none "t" none) with
        projections := [⟨.column none "x", none⟩]
        wheres := [.binary (.column none "x") .gt (.bind (.int 1))] } "s") with
    projections := [⟨.column (some "s") "x", none⟩]
    joins := [⟨.inner, .table none "u" none,
      some (.binary (.column (some "u") "x") .eq (.bind (.int 2)))⟩]
    wheres := [.binary (.column (some "u") "y") .eq (.bind (.int 3))]
    limit := some (.bind (.int 10))
    offset := some (.bind (.int 30)) }

theorem binds_compile_eq_combine_pagedJoin :
    ∃ c, compile dialect TableStore.empty.catalog (.select pagedJoin) = .ok c ∧
      c.binds = [.int 1, .int 2, .int 3, .int 30, .int 10] ∧
      ∃ settled, c.statement = .select settled ∧
        c.binds = (ClauseBinds.collect dialect pagedJoin settled).combine := by
  have hclear : pagedJoin.BindsRowsOnly :=
    ⟨List.forall_mem_singleton.2 (isClear_column _ _), List.forall_mem_nil _, List.forall_mem_nil _⟩
  obtain ⟨c, hc, hbinds⟩ : ∃ c, compile dialect TableStore.empty.catalog (.select pagedJoin) = .ok c ∧
      c.binds = [.int 1, .int 2, .int 3, .int 30, .int 10] :=
    ⟨_, rfl, rfl⟩
  exact ⟨c, hc, hbinds,
    binds_compile_eq_combine .utc caseSensitiveCollation _ rfl hclear (.bind _) (.bind _) hc⟩

def probeColumn : Select :=
  { Select.ofTable (.table none "u" none) with
    projections :=
      [⟨.case none
        [⟨.exists
          { Select.ofTable (.table none "t" none) with
            distinct := true
            projections := [⟨.value (.int 1), some "one"⟩] } false,
          .value (.int 1)⟩]
        (some (.value (.int 0))), none⟩] }

theorem isUnbound_probeColumn : ∀ p ∈ probeColumn.projections, p.expr.IsUnbound := by
  have hleaf {n : Node} (hn : n.children = []) (h : n.IsUnbound) :
      n.Throughout Node.children Node.IsUnbound :=
    Node.throughout_of_eq_nil hn h
  refine List.forall_mem_singleton.2 (.intro trivial (List.forall_mem_cons.2 ⟨?_, List.forall_mem_cons.2
    ⟨hleaf rfl trivial, List.forall_mem_singleton.2 (hleaf rfl trivial)⟩⟩))
  refine .intro trivial (List.forall_mem_singleton.2 (.intro trivial (List.forall_mem_cons.2
    ⟨hleaf rfl trivial, List.forall_mem_singleton.2 (hleaf rfl trivial)⟩)))

theorem binds_compile_ne_combine_probeColumn :
    probeColumn.isProbe = false ∧ (∀ p ∈ probeColumn.projections, p.expr.IsUnbound) ∧
      probeColumn.groups = [] ∧ probeColumn.orders = [] ∧ probeColumn.limit = none ∧
      probeColumn.offset = none ∧
      ∃ c settled, compile dialect TableStore.empty.catalog (.select probeColumn) = .ok c ∧
        c.statement = .select settled ∧ c.binds = [.int 1] ∧
        (ClauseBinds.collect dialect probeColumn settled).combine = [] := by
  obtain ⟨c, hc, hbinds⟩ : ∃ c, compile dialect TableStore.empty.catalog (.select probeColumn) = .ok c ∧
      c.binds = [.int 1] :=
    ⟨_, rfl, rfl⟩
  have hsettle := Except.ok.inj (of_compile_eq_ok hc).1
  exact ⟨rfl, isUnbound_probeColumn, rfl, rfl, rfl, rfl, c, _, hc, hsettle.symm, hbinds, rfl⟩

end SqlServer

end PolySql

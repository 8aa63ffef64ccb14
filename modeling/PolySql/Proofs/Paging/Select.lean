import PolySql.Proofs.Paging.Write
import PolySql.Proofs.Write.Binds

namespace PolySql

open Emission Dialect

variable {d : Dialect} {caps : Capabilities} {catalog : Catalog} {nested : Bool} {s : Select}
  {L O : Option Int64}

namespace Select

theorem limit_settle (h : s.isProbe = false) : (s.settle caps catalog nested).limit = s.limit := by
  rw [settle_eq, settleStep_eq, prepared,
    probeWithTop_of_not_isProbe (isProbe_dropIdleOrder.trans (isProbe_settleInside.trans h)),
    projectDistinctOrders_eq, completeOffset_eq, orderPaging_eq, dropIdleOrder_eq]
  rfl

theorem offset_settle (h : s.isProbe = false) :
    (s.settle caps catalog nested).offset =
      if caps.paging = .offsetFetch && s.limit.isSome && s.offset.isNone then some zero
      else s.offset := by
  rw [settle_eq, settleStep_eq, prepared,
    probeWithTop_of_not_isProbe (isProbe_dropIdleOrder.trans (isProbe_settleInside.trans h)),
    projectDistinctOrders_eq, completeOffset_eq, orderPaging_eq, dropIdleOrder_eq]
  rfl

end Select

theorem HasCount.offset_settle (h : s.isProbe = false) (hl : HasCount L s.limit)
    (ho : HasCount O s.offset) :
    ∃ O', HasCount O' (s.settle d.capabilities catalog nested).offset ∧
      (O' = O ∨ O' = some 0 ∧ O = none) ∧
      (d.capabilities.paging = .offsetFetch → O' = none → L = none) ∧
      boundBinds (d.writeBound (s.settle d.capabilities catalog nested).offset) =
        boundBinds (d.writeBound s.offset) := by
  rw [Select.offset_settle h]
  generalize s.limit = limit at hl
  generalize s.offset = offset at ho
  cases ho with
  | value n =>
    simp only [Option.isNone_some, Bool.and_false, Bool.false_eq_true, if_false]
    exact ⟨some n, .value n, .inl rfl, by simp, trivial⟩
  | bind n =>
    simp only [Option.isNone_some, Bool.and_false, Bool.false_eq_true, if_false]
    exact ⟨some n, .bind n, .inl rfl, by simp, trivial⟩
  | absent =>
    by_cases hc : (d.capabilities.paging = .offsetFetch && limit.isSome) = true
    · simp only [hc, Option.isNone_none, Bool.and_true, if_true]
      exact ⟨some 0, .value 0, .inr (by simp), by simp, rfl⟩
    · simp only [hc, Option.isNone_none, Bool.and_true]
      refine ⟨none, .absent, .inl rfl, fun hp _ => ?_, rfl⟩
      cases hl with
      | absent => rfl
      | _ => simp [hp] at hc

theorem Dialect.writeSelect_unpaged (q : Select) :
    d.writeSelect q.unpaged = d.writeBody q ++ d.writeOrderBy q ++ d.writeTrailingLock q.lock := by
  have hw : ∀ core lock : Emission, d.writePaged core lock none none = core ++ lock := by
    intro core lock
    cases hp : d.capabilities.paging <;>
      simp [writePaged, writePaging, writeLimitOffset, writeOffsetFetch, writeFetchFirst, hp]
  rw [writeSelect_eq]
  exact hw _ _

theorem Dialect.IsBuiltIn.pagesBy_writeSelect (hd : d.IsBuiltIn) (hprobe : s.isProbe = false)
    (hl : HasCount L s.limit) (ho : HasCount O s.offset) (hL : ∀ l ∈ L, 0 ≤ l.toInt)
    (hO : ∀ o ∈ O, 0 ≤ o.toInt) (catalog : Catalog) (nested : Bool) :
    let q := s.settle d.capabilities catalog nested
    ∃ core page binds, d.writeSelect q.unpaged = core ++ d.writeTrailingLock q.lock ∧
      PagesBy d.placeholder (d.writeSelect q) page core (d.writeTrailingLock q.lock) binds ∧
      (∀ (α : Type) (rows : List α), page.select rows = pageRows L O rows) ∧
      (d.capabilities.paging ≠ .limitOffset → L = some 0 →
        binds.Sublist (s.offset.elim [] fun e => (d.writeExpr e).binds)) := by
  intro q
  obtain ⟨O', ho', hsame, hmissing, hbinds⟩ :=
    @HasCount.offset_settle d catalog nested s L O hprobe hl ho
  have hl' : HasCount L q.limit := by rwa [Select.limit_settle hprobe]
  have hO' : ∀ o ∈ O', 0 ≤ o.toInt := by
    rcases hsame with rfl | ⟨rfl, -⟩
    · exact hO
    · simp
  obtain ⟨page, binds, hpages, hkeeps, hzero⟩ :=
    pagesBy_writePaged (d := d) (hl'.countBound hd.sealsNames.literals)
      (ho'.countBound hd.sealsNames.literals) hL hO'
      (binds_writeTrailingLock q.lock) hmissing
  refine ⟨_, page, binds, writeSelect_unpaged q, ?_, ?_, ?_⟩
  · rw [writeSelect_eq, hd.sealsNames.placeholder_eq]
    exact hpages
  · intro α rows
    rw [hkeeps α rows]
    rcases hsame with rfl | ⟨rfl, rfl⟩ <;> rfl
  · intro hp hzero'
    have hsub := hzero hp hzero'
    rw [hbinds] at hsub
    cases hs : s.offset <;> rwa [hs] at hsub

def farPage : Select :=
  { Select.ofTable (.table none "t" none) with
    projections := [⟨.column none "a", none⟩]
    limit := some (.bind (.int Int64.maxValue))
    offset := some (.value (.int 5)) }

theorem Dialect.IsBuiltIn.pagesBy_writeSelect_farPage :
    let catalog : Catalog := ⟨fun _ => [], fun _ => []⟩
    let q := farPage.settle Db2.dialect.capabilities catalog false
    ∃ core page binds, Db2.dialect.writeSelect q.unpaged = core ++ [] ∧
      PagesBy "?" (Db2.dialect.writeSelect q) page core [] binds ∧
      ∀ (α : Type) (rows : List α), page.select rows =
        (rows.drop 5).take Int64.maxValue.toInt.toNat := by
  intro catalog q
  obtain ⟨core, page, binds, hunpaged, hpages, hrows, -⟩ :=
    Dialect.IsBuiltIn.pagesBy_writeSelect .db2 (s := farPage) rfl (.bind Int64.maxValue) (.value 5)
      (by rintro l ⟨⟩; decide) (by simp) catalog false
  exact ⟨core, page, binds, hunpaged, hpages, hrows⟩

end PolySql

import Mathlib.Logic.Function.Iterate
import PolySql.Proofs.Settle.Twice

namespace PolySql.Select

variable {caps : Capabilities} {catalog : Catalog} {nested : Bool} {s : Select}

def width (s : Select) : Nat :=
  s.projections.length

def settleInside (caps : Capabilities) (catalog : Catalog) (s : Select) : Select :=
  s.mapParts (Expr.transform (settleStep caps catalog)) (TableRef.transform (settleStep caps catalog))

theorem settle_eq :
    s.settle caps catalog nested = settleStep caps catalog nested (s.settleInside caps catalog) :=
  s.transform_eq _ nested

theorem width_settleInside : (s.settleInside caps catalog).width = s.width := by
  simp [width, settleInside, mapParts]

theorem isProbe_settleInside : (s.settleInside caps catalog).isProbe = s.isProbe :=
  isProbe_mapParts

theorem hasTopOne_settleInside : (s.settleInside caps catalog).hasTopOne = s.hasTopOne :=
  hasTopOne_mapParts

def settledOrders (caps : Capabilities) (catalog : Catalog) (nested : Bool) (s : Select) : List Order :=
  ((s.dropIdleOrder caps nested).orderPaging caps catalog).orders

structure KeepsWidth (caps : Capabilities) (catalog : Catalog) (nested : Bool) (s : Select) : Prop where
  probe : s.isProbe = true → s.width = 1
  orders_selected : s.isProbe = false → s.distinct = true → s.hasTopOne = false → s.selectsAll = false →
    ∀ o ∈ s.settledOrders caps catalog nested, s.selects (orderedBy o.expr) = true

theorem length_numbered (es : List Expr) (start : Nat) : (numbered start es).length = es.length := by
  rw [← List.length_map (fun p : Projection => p.expr), numbered_exprs]

theorem remember_ne_nil (seen : List Expr) (e : Expr) : remember seen e ≠ [] := by
  unfold remember
  split
  · rintro rfl
    simp at *
  · simp

theorem unique_eq_nil {es : List Expr} : unique es = [] ↔ es = [] := by
  constructor
  · suffices H : ∀ seen, es.foldl remember seen = [] → es = [] from H []
    intro seen h
    induction es generalizing seen with
    | nil => rfl
    | cons e es ih =>
      obtain rfl := ih _ h
      exact absurd h (remember_ne_nil seen e)
  · rintro rfl
    rfl

theorem missingOrders_eq_nil_iff :
    s.missingOrders = [] ↔ ∀ o ∈ s.orders, s.selects (orderedBy o.expr) = true := by
  refine ⟨fun h o ho => ?_, missingOrders_eq_nil s⟩
  have hf := unique_eq_nil.1 h
  simp only [List.filter_eq_nil_iff, List.forall_mem_map] at hf
  simpa [selects] using hf o ho

theorem width_projectDistinctOrders (hc : caps.distinctOrderProjections = true) :
    (s.projectDistinctOrders caps).width =
      (if s.distinct && !s.hasTopOne && !s.selectsAll then s.missingOrders.length else 0) + s.width := by
  rw [projectDistinctOrders_eq, hc, Bool.true_and]
  unfold width
  split
  · rw [List.length_append, length_numbered]
  · simp

def prepared (caps : Capabilities) (catalog : Catalog) (nested : Bool) (s : Select) : Select :=
  (((s.dropIdleOrder caps nested).probeWithTop caps).orderPaging caps catalog).completeOffset caps

theorem settleStep_eq :
    settleStep caps catalog nested s = (s.prepared caps catalog nested).projectDistinctOrders caps :=
  rfl

theorem isProbe_dropIdleOrder : (s.dropIdleOrder caps nested).isProbe = s.isProbe := by
  rw [dropIdleOrder_eq]
  rfl

theorem projections_prepared :
    (s.prepared caps catalog nested).projections = (s.probeWithTop caps).projections := by
  rw [prepared, completeOffset_eq, orderPaging_eq, probeWithTop_eq, isProbe_dropIdleOrder,
    probeWithTop_eq, dropIdleOrder_eq]

theorem forall_labels_settleStep {P : String → Prop} (hprobe : P probeAlias)
    (hnumbered : ∀ n, P (aliasStem ++ Number.natText n))
    (h : ∀ p ∈ s.projections, ∀ a ∈ p.label, P a) :
    ∀ p ∈ (settleStep caps catalog nested s).projections, ∀ a ∈ p.label, P a := by
  have hprepared : ∀ p ∈ (s.prepared caps catalog nested).projections, ∀ a ∈ p.label, P a := by
    rw [projections_prepared, probeWithTop_eq]
    dsimp only
    split
    · exact List.forall_mem_singleton.2 (by rintro a ⟨⟩; exact hprobe)
    · exact h
  rw [settleStep_eq, projectDistinctOrders_eq]
  dsimp only
  split
  · refine List.forall_mem_append.2 ⟨fun p hp a ha => ?_, hprepared⟩
    obtain ⟨n, hlabel⟩ := label_of_mem_numbered hp
    rw [hlabel] at ha
    cases ha
    exact hnumbered n
  · exact hprepared

theorem distinct_prepared : (s.prepared caps catalog nested).distinct = s.distinct := by
  rw [prepared, completeOffset_eq, orderPaging_eq, probeWithTop_eq, dropIdleOrder_eq]

theorem probeWithTop_of_not_isProbe (h : s.isProbe = false) : s.probeWithTop caps = s := by
  simp [probeWithTop, h]

theorem orders_prepared (h : s.isProbe = false) :
    (s.prepared caps catalog nested).orders = s.settledOrders caps catalog nested := by
  rw [prepared, probeWithTop_of_not_isProbe (isProbe_dropIdleOrder.trans h), completeOffset_eq,
    settledOrders]

section Projections
variable {s' : Select} (h : s.projections = s'.projections)
include h

theorem hasTopOne_congr : s.hasTopOne = s'.hasTopOne := by
  rw [hasTopOne, h, hasTopOne]

theorem selectsAll_congr : s.selectsAll = s'.selectsAll := by
  rw [selectsAll, h, selectsAll]

theorem selects_congr (e : Expr) : s.selects e = s'.selects e := by
  rw [selects, h, selects]

theorem width_congr : s.width = s'.width := by
  rw [width, h, width]

end Projections

theorem width_probeWithTop (hc : caps.topExistsCheck = true) (hp : s.isProbe = true) :
    (s.probeWithTop caps).width = 1 := by
  simp [probeWithTop, hc, hp, width]

theorem hasTopOne_probeWithTop (hc : caps.topExistsCheck = true) (hp : s.isProbe = true) :
    (s.probeWithTop caps).hasTopOne = true := by
  simp [probeWithTop, hc, hp, hasTopOne, isTopOne]

theorem isProbe_of_hasTopOne (h : s.hasTopOne = true) : s.isProbe = false := by
  obtain ⟨p, hp, htop⟩ := List.any_eq_true.1 h
  rw [← Bool.not_eq_true, isProbe_iff]
  rintro ⟨-, -, hall, -⟩
  have hone := hall p hp
  cases he : p.expr with
  | raw text binds =>
    obtain rfl : text = topOne := by simpa [he, isTopOne] using htop
    simp only [isProbeProjection, he, isOne, Bool.and_eq_true] at hone
    exact absurd hone.1.2 (by decide)
  | _ => simp [he, isTopOne] at htop

theorem projectDistinctOrders_of_hasTopOne (h : s.hasTopOne = true) :
    s.projectDistinctOrders caps = s := by
  simp [projectDistinctOrders, h]

theorem projections_settleStep_of_hasTopOne (h : s.hasTopOne = true) :
    (settleStep caps catalog nested s).projections = s.projections := by
  have hp : (s.prepared caps catalog nested).projections = s.projections := by
    rw [projections_prepared, probeWithTop_of_not_isProbe (isProbe_of_hasTopOne h)]
  rw [settleStep_eq, projectDistinctOrders_of_hasTopOne ((hasTopOne_congr hp).trans h), hp]

theorem projections_settleStep_of_isProbe (hc : caps.topExistsCheck = true) (h : s.isProbe = true) :
    (settleStep caps catalog nested s).projections = (s.probeWithTop caps).projections := by
  have hp : (s.prepared caps catalog nested).projections = (s.probeWithTop caps).projections :=
    projections_prepared
  rw [settleStep_eq, projectDistinctOrders_of_hasTopOne, hp]
  exact (hasTopOne_congr hp).trans (hasTopOne_probeWithTop hc h)

theorem hasTopOne_settleStep (hc : caps.topExistsCheck = true) (h : s.isProbe = true) :
    (settleStep caps catalog nested s).hasTopOne = true :=
  (hasTopOne_congr (projections_settleStep_of_isProbe hc h)).trans (hasTopOne_probeWithTop hc h)

theorem width_settleStep_of_not_isProbe (hc : caps.distinctOrderProjections = true)
    (h : s.isProbe = false) :
    (settleStep caps catalog nested s).width =
      (if s.distinct && !s.hasTopOne && !s.selectsAll then
        (s.prepared caps catalog nested).missingOrders.length else 0) + s.width := by
  have hp : (s.prepared caps catalog nested).projections = s.projections := by
    rw [projections_prepared, probeWithTop_of_not_isProbe h]
  rw [settleStep_eq, width_projectDistinctOrders hc, distinct_prepared, hasTopOne_congr hp,
    selectsAll_congr hp, width_congr hp]

theorem keepsWidth_of_isProbe (h : s.isProbe = true) :
    s.KeepsWidth caps catalog nested ↔ s.width = 1 := by
  constructor
  · exact fun hw => hw.probe h
  · exact fun hw => ⟨fun _ => hw, fun hn => by simp [h] at hn⟩

theorem keepsWidth_of_not_isProbe (h : s.isProbe = false) :
    s.KeepsWidth caps catalog nested ↔
      (s.distinct = true → s.hasTopOne = false → s.selectsAll = false →
        ∀ o ∈ s.settledOrders caps catalog nested, s.selects (orderedBy o.expr) = true) := by
  constructor
  · exact fun hw => hw.orders_selected h
  · exact fun hw => ⟨fun hn => by simp [h] at hn, fun _ => hw⟩

theorem width_settleStep_iff (htop : caps.topExistsCheck = true)
    (hc : caps.distinctOrderProjections = true) :
    (settleStep caps catalog nested s).width = s.width ↔ s.KeepsWidth caps catalog nested := by
  cases h : s.isProbe with
  | true =>
    rw [width_congr (projections_settleStep_of_isProbe htop h), width_probeWithTop htop h,
      keepsWidth_of_isProbe h]
    exact eq_comm
  | false =>
    have hp : (s.prepared caps catalog nested).projections = s.projections := by
      rw [projections_prepared, probeWithTop_of_not_isProbe h]
    have hm : (s.prepared caps catalog nested).missingOrders.length = 0 ↔
        ∀ o ∈ s.settledOrders caps catalog nested, s.selects (orderedBy o.expr) = true := by
      rw [List.length_eq_zero_iff, missingOrders_eq_nil_iff, orders_prepared h]
      simp only [selects_congr hp]
    rw [width_settleStep_of_not_isProbe hc h, Nat.add_eq_right, keepsWidth_of_not_isProbe h, ← hm]
    cases s.distinct <;> cases s.hasTopOne <;> cases s.selectsAll <;> simp

theorem width_settle_iff (htop : caps.topExistsCheck = true)
    (hc : caps.distinctOrderProjections = true) :
    (s.settle caps catalog nested).width = s.width ↔
      (s.settleInside caps catalog).KeepsWidth caps catalog nested := by
  rw [settle_eq, ← width_settleStep_iff htop hc, width_settleInside]

theorem width_settle_of_hasTopOne (h : s.hasTopOne = true) :
    (s.settle caps catalog nested).width = s.width := by
  rw [settle_eq, width_congr (projections_settleStep_of_hasTopOne (hasTopOne_settleInside.trans h)),
    width_settleInside]

theorem hasTopOne_settle (h : s.hasTopOne = true) :
    (s.settle caps catalog nested).hasTopOne = true := by
  rw [settle_eq, hasTopOne_congr (projections_settleStep_of_hasTopOne
    (hasTopOne_settleInside.trans h)), hasTopOne_settleInside, h]

theorem width_le_settle (hc : caps.distinctOrderProjections = true) (h : s.isProbe = false) :
    s.width ≤ (s.settle caps catalog nested).width := by
  rw [settle_eq, width_settleStep_of_not_isProbe hc (isProbe_settleInside.trans h),
    width_settleInside]
  exact Nat.le_add_left _ _

theorem isProbe_settle (htop : caps.topExistsCheck = true) :
    (s.settle caps catalog nested).isProbe = false := by
  rw [settle_eq, settleStep_eq, ← Bool.not_eq_true]
  intro h
  have h := isProbe_of_completeOffset (isProbe_of_projectDistinctOrders h)
  rw [isProbe_orderPaging, isProbe_probeWithTop htop] at h
  cases h

section Passes
variable (htop : caps.topExistsCheck = true) (hc : caps.distinctOrderProjections = true) {k : Nat}
include htop

theorem hasTopOne_iterate_settle (h : s.isProbe = true) :
    ((settle caps catalog nested)^[k + 1] s).hasTopOne = true := by
  induction k with
  | zero =>
    rw [Nat.zero_add, Function.iterate_one, settle_eq]
    exact hasTopOne_settleStep htop (isProbe_settleInside.trans h)
  | succ k ih =>
    rw [Function.iterate_succ_apply']
    exact hasTopOne_settle ih

theorem isProbe_iterate_settle (h : s.isProbe = false) :
    ((settle caps catalog nested)^[k] s).isProbe = false := by
  cases k with
  | zero => exact h
  | succ k =>
    rw [Function.iterate_succ_apply']
    exact isProbe_settle htop

include hc

theorem width_le_iterate_settle (h : s.isProbe = false) :
    s.width ≤ ((settle caps catalog nested)^[k] s).width := by
  induction k with
  | zero => exact Nat.le_refl _
  | succ k ih =>
    rw [Function.iterate_succ_apply']
    exact Nat.le_trans ih (width_le_settle hc (isProbe_iterate_settle htop h))

-- No pass takes back what an earlier one has added.
theorem width_iterate_settle_succ_iff :
    ((settle caps catalog nested)^[k + 1] s).width = s.width ↔
      ((settle caps catalog nested)^[k] s).width = s.width ∧
        (((settle caps catalog nested)^[k] s).settle caps catalog nested).width =
          ((settle caps catalog nested)^[k] s).width := by
  rw [Function.iterate_succ_apply']
  cases h : s.isProbe with
  | true =>
    cases k with
    | zero => simp
    | succ k => rw [width_settle_of_hasTopOne (hasTopOne_iterate_settle htop h), and_iff_left rfl]
  | false =>
    have hpasses : s.width ≤ ((settle caps catalog nested)^[k] s).width :=
      width_le_iterate_settle htop hc h
    have hpass : ((settle caps catalog nested)^[k] s).width ≤
        (((settle caps catalog nested)^[k] s).settle caps catalog nested).width :=
      width_le_settle hc (isProbe_iterate_settle htop h)
    omega

theorem width_iterate_settle_iff :
    ((settle caps catalog nested)^[k] s).width = s.width ↔
      ∀ i < k, (((settle caps catalog nested)^[i] s).settleInside caps catalog).KeepsWidth caps catalog
        nested := by
  induction k with
  | zero => simp
  | succ k ih =>
    rw [width_iterate_settle_succ_iff htop hc, ih, width_settle_iff htop hc, Nat.forall_lt_succ_right]

end Passes

end PolySql.Select

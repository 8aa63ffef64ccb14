import Mathlib.Data.List.Nodup
import Mathlib.Data.List.Range
import PolySql.Proofs.Number.Integer
import PolySql.Proofs.Settle.Width
import PolySql.SqlServer.Dialect

namespace PolySql.Select

open Number

variable {caps : Capabilities} {catalog : Catalog} {nested : Bool} {s : Select}

def labels (s : Select) : List String :=
  s.projections.filterMap (·.label)

def orderLabel (n : Nat) : String :=
  aliasStem ++ natText n

theorem orderLabel_injective : Function.Injective orderLabel := by
  intro m n h
  have htext : intText m = intText n := (String.append_right_inj aliasStem).1 h
  exact Int.ofNat_inj.1 (intText_injective htext)

theorem filterMap_label_numbered (es : List Expr) (start : Nat) :
    (numbered start es).filterMap (·.label) = (List.range' start es.length).map orderLabel := by
  induction es generalizing start with
  | nil => rfl
  | cons e es ih =>
    rw [numbered, List.length_cons, List.range'_succ, List.map_cons, ← ih]
    rfl

theorem nodup_numbered_append_iff {labels : List String} (h : labels.Nodup) (start k : Nat) :
    ((List.range' start k).map orderLabel ++ labels).Nodup ↔
      ∀ n < k, orderLabel (start + n) ∉ labels := by
  have hnumbers : ((List.range' start k).map orderLabel).Nodup :=
    (List.nodup_range' 1).map orderLabel_injective
  rw [List.nodup_append']
  simp only [hnumbers, h, true_and, List.disjoint_left, List.forall_mem_map, List.mem_range'_1]
  constructor
  · intro hfree n hn
    exact hfree (start + n) (by omega)
  · intro hfree n hn
    have hlabel := hfree (n - start) (by omega)
    rwa [Nat.add_sub_cancel' hn.1] at hlabel

theorem labels_congr {s' : Select} (h : s.projections = s'.projections) : s.labels = s'.labels := by
  rw [labels, h, labels]

theorem stemCount_congr {s' : Select} (h : s.projections = s'.projections) :
    s.stemCount = s'.stemCount := by
  rw [stemCount, h, stemCount]

theorem labels_settleInside : (s.settleInside caps catalog).labels = s.labels := by
  simp [labels, settleInside, mapParts, List.filterMap_map, Function.comp_def, Projection.map]

theorem stemCount_settleInside : (s.settleInside caps catalog).stemCount = s.stemCount := by
  simp [stemCount, settleInside, mapParts, List.countP_map, Function.comp_def, Projection.map]

theorem exists_labels_settleStep (h : (caps.topExistsCheck && s.isProbe) = false) :
    ∃ k, (settleStep caps catalog nested s).labels =
        (List.range' s.stemCount k).map orderLabel ++ s.labels ∧
      (settleStep caps catalog nested s).width = k + s.width := by
  have hp : (s.prepared caps catalog nested).projections = s.projections := by
    rw [projections_prepared, probeWithTop, h]
    rfl
  rw [settleStep_eq, projectDistinctOrders_eq]
  split
  · refine ⟨(s.prepared caps catalog nested).missingOrders.length, ?_, ?_⟩
    · rw [labels, List.filterMap_append, filterMap_label_numbered, stemCount_congr hp, hp]
      rfl
    · rw [width, List.length_append, length_numbered, hp]
      rfl
  · refine ⟨0, labels_congr hp, ?_⟩
    rw [Nat.zero_add]
    exact width_congr hp

theorem labels_settleStep_of_isProbe (htop : caps.topExistsCheck = true) (h : s.isProbe = true) :
    (settleStep caps catalog nested s).labels = [probeAlias] := by
  rw [labels_congr (projections_settleStep_of_isProbe htop h)]
  simp [probeWithTop, htop, h, labels]

theorem width_settleStep_of_isProbe (htop : caps.topExistsCheck = true) (h : s.isProbe = true) :
    (settleStep caps catalog nested s).width ≤ s.width := by
  rw [width_congr (projections_settleStep_of_isProbe htop h), width_probeWithTop htop h]
  exact List.length_pos_iff.2 (isProbe_iff.1 h).2.1

theorem nodup_labels_settle_iff (h : s.labels.Nodup) :
    (s.settle caps catalog nested).labels.Nodup ↔
      ∀ n < (s.settle caps catalog nested).width - s.width, orderLabel (s.stemCount + n) ∉ s.labels := by
  rw [settle_eq]
  cases hprobe : caps.topExistsCheck && (s.settleInside caps catalog).isProbe with
  | true =>
    obtain ⟨htop, hprobe⟩ := Bool.and_eq_true_iff.1 hprobe
    have hwidth : (settleStep caps catalog nested (s.settleInside caps catalog)).width ≤ _ :=
      width_settleStep_of_isProbe htop hprobe
    rw [width_settleInside] at hwidth
    rw [labels_settleStep_of_isProbe htop hprobe, Nat.sub_eq_zero_of_le hwidth]
    simp
  | false =>
    obtain ⟨k, hlabels, hwidth⟩ :
        ∃ k, (settleStep caps catalog nested (s.settleInside caps catalog)).labels = _ ∧ _ :=
      exists_labels_settleStep hprobe
    rw [stemCount_settleInside, labels_settleInside] at hlabels
    rw [width_settleInside] at hwidth
    rw [hlabels, hwidth, Nat.add_sub_cancel]
    exact nodup_numbered_append_iff h s.stemCount k

def labelledSource : Select :=
  { Select.ofTable (.table none "u" none) with
    distinct := true
    projections := [⟨.column none "a", some "alias_1"⟩]
    orders := [⟨.column none "b", .asc, none⟩] }

theorem width_settle_labelledSource :
    (labelledSource.settle SqlServer.capabilities catalog false).width = 2 := by
  have hsame : (Expr.column none "a" == Expr.column none "b") = false := by
    show Expr.same _ _ = false
    simp [Expr.same]
  have hmissing : labelledSource.missingOrders = [.column none "b"] := by
    simp [missingOrders, labelledSource, orderedBy, hsame, unique]
  have hsettle : labelledSource.settle SqlServer.capabilities catalog false =
      labelledSource.projectOrders := rfl
  rw [hsettle, projectOrders, hmissing]
  rfl

theorem nodup_labels_settle_iff_takenNumber :
    labelledSource.labels.Nodup ∧
      ¬ (labelledSource.settle SqlServer.capabilities ⟨fun _ => [], fun _ => []⟩ false).labels.Nodup := by
  have hlabels : labelledSource.labels.Nodup := by decide
  refine ⟨hlabels, fun h => ?_⟩
  have hfree := (nodup_labels_settle_iff hlabels).1 h 0
  rw [width_settle_labelledSource] at hfree
  exact hfree (by decide) (by decide)

end PolySql.Select

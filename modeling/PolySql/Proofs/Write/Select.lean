import PolySql.Compiler.Settle.Select
import PolySql.Proofs.Write.Congruence

namespace PolySql

open Emission Text

namespace Dialect

variable {d : Dialect} {T : String → Prop} {R : Prop → Emission → Emission → Prop}
  (hR : Congruence T R) (hT : d.Words T R) {f : Expr → Expr} {g : TableRef → TableRef}
  {h : Select → Select} {c : Node → Prop}
include hR hT

section Body
variable (hf : Expr.KeepsShape f)
include hf

theorem writeConjunction_congr {keyword : String} (hk : isTame keyword = true) {es : List Expr}
    (hm : ∀ e ∈ es, R (c (.expr e)) (d.writeExpr e) (d.writeExpr (f e))) :
    R (∀ e ∈ es, c (.expr e)) (d.writeConjunction keyword es)
      (d.writeConjunction keyword (es.map f)) := by
  cases es with
  | nil => exact Congruence.congr (by simp) hR.nil
  | cons e es =>
    unfold writeConjunction conjunction
    simp only [List.map_map, List.length_map]
    refine hR.true_append (lit_congr hR hT hk) (hR.separated (hT.word rfl) fun x hx => ?_)
    refine parens_congr hR hT ?_ (hm x hx)
    simp only [Function.comp_apply, hf.isOr]

theorem writeBody_mapParts {s : Select} (hn : (Node.select s).NamesIn d T)
    (hm : ∀ m ∈ s.parts, R (c m) (m.write d) ((m.map f g h).write d)) :
    R (∀ m ∈ s.clearOrders.parts, c m) (d.writeBody s) (d.writeBody (s.mapParts f g)) := by
  obtain ⟨hp, ht, hj, hw, hg, hh, -⟩ := Select.forall_parts.1 hm
  have hfault : R True (if s.projections.isEmpty then [.fault .noProjection] else [])
      (if (s.mapParts f g).projections.isEmpty then [.fault .noProjection] else []) := by
    rw [show (s.mapParts f g).projections.isEmpty = s.projections.isEmpty from List.isEmpty_map]
    split
    · exact hR.fault
    · exact hR.nil
  have hselect : isTame (if s.distinct then "SELECT DISTINCT " else "SELECT ") = true := by
    cases s.distinct <;> rfl
  have hprojections := hR.true_append (hR.true_append hfault (lit_congr hR hT hselect))
    (writeProjections_congr hR hT hn.1 hp)
  have hsources := hR.append (hR.append hprojections (writeSource_congr hR hT hn.2 ht))
    (writeJoins_congr hR hT hn.2 hj)
  have hgroups : R (∀ e ∈ s.groups, c (.expr e)) (clause " GROUP BY " (s.groups.map d.writeExpr))
      (clause " GROUP BY " ((s.groups.map f).map d.writeExpr)) := by
    rw [List.map_map]
    exact clause_congr hR hT rfl hg
  refine Congruence.congr ?_ (hR.append (hR.append (hR.append hsources
    (writeConjunction_congr hR hT hf rfl hw)) hgroups) (writeConjunction_congr hR hT hf rfl hh))
  rw [Select.forall_parts]
  simp only [Select.clearOrders, List.not_mem_nil, false_imp_iff, implies_true, and_true, and_assoc]

theorem writeCore_mapParts {s : Select} (hn : (Node.select s).NamesIn d T)
    (hm : ∀ m ∈ s.parts, R (c m) (m.write d) ((m.map f g h).write d)) :
    R (∀ m ∈ s.parts, c m) (d.writeBody s ++ d.writeOrderBy s)
      (d.writeBody (s.mapParts f g) ++ d.writeOrderBy (s.mapParts f g)) := by
  have ho := (Select.forall_parts.1 hm).2.2.2.2.2.2
  refine Congruence.congr ?_ (hR.append (writeBody_mapParts hR hT hf hn hm)
    (writeOrderBy_mapParts hR hT ho))
  rw [Select.forall_parts, Select.forall_parts]
  simp only [Select.clearOrders, List.not_mem_nil, false_imp_iff, implies_true, and_true, and_assoc]

end Body

section Paging

inductive BoundsRelated (R : Prop → Emission → Emission → Prop) :
    Prop → Option PageBound → Option PageBound → Prop
  | none : BoundsRelated R True none none
  | some {p : Prop} {x y : PageBound} : y.value = x.value → (∀ n ∈ x.value, p) →
    R p x.plain y.plain → R p x.operand y.operand → BoundsRelated R p (some x) (some y)

theorem boundsRelated_writeBound (hf : Expr.KeepsShape f)
    (hvalue : ∀ e, (f e).intValue? = e.intValue?) {o : Option Expr}
    (hnumber : ∀ e ∈ o, ∀ n ∈ e.intValue?, c (.expr e))
    (hm : ∀ e ∈ o, R (c (.expr e)) (d.writeExpr e) (d.writeExpr (f e))) :
    BoundsRelated R (∀ e ∈ o, c (.expr e)) (d.writeBound o) (d.writeBound (o.map f)) := by
  cases o with
  | none =>
    have htrue : (∀ e ∈ (none : Option Expr), c (.expr e)) = True := by simp
    rw [htrue]
    exact .none
  | some e =>
    have hcondition : (∀ e' ∈ some e, c (.expr e')) = c (.expr e) := by simp
    rw [hcondition]
    exact .some (hvalue e) (hnumber e rfl) (hm e rfl)
      (parens_congr hR hT (hf.isBinary e) (hm e rfl))

variable {l l' o o' : Option PageBound} {pl po : Prop} (hl : BoundsRelated R pl l l')
  (ho : BoundsRelated R po o o')

section
include hl

theorem writeFetchFirst_congr : R pl (writeFetchFirst l) (writeFetchFirst l') := by
  have hlit {s : String} (hs : isTame s = true) : R True (lit s) (lit s) := lit_congr hR hT hs
  cases hl with
  | none => exact hR.nil
  | @some p x y hvalue hnumber hplain =>
    unfold writeFetchFirst
    dsimp only
    rw [hvalue]
    cases hx : x.value with
    | none => exact hR.append_true (hR.true_append (hlit rfl) hplain) (hlit rfl)
    | some n =>
      refine Congruence.congr (iff_of_true trivial (hnumber n hx)) ?_
      dsimp only
      split
      · exact hlit rfl
      · exact hR.lit (hT.firstRows _)

include ho

theorem writeLimitOffset_congr :
    R (pl ∧ po) (d.writeLimitOffset l o) (d.writeLimitOffset l' o') := by
  have hlit {s : String} (hs : isTame s = true) : R True (lit s) (lit s) := lit_congr hR hT hs
  have hoffset : o'.isSome = o.isSome := by cases ho <;> rfl
  refine hR.append ?_ ?_
  · cases hl with
    | none =>
      rw [hoffset]
      dsimp only
      split
      · exact hR.lit hT.unlimited
      · exact hR.nil
    | some _ _ hplain => exact hR.true_append (hlit rfl) hplain
  · cases ho with
    | none => exact hR.nil
    | some _ _ hplain => exact hR.true_append (hlit rfl) hplain

theorem writeOffsetFetch_congr : R (pl ∧ po) (writeOffsetFetch l o) (writeOffsetFetch l' o') := by
  have hlit {s : String} (hs : isTame s = true) : R True (lit s) (lit s) := lit_congr hR hT hs
  refine Congruence.congr and_comm (hR.append ?_ ?_)
  · cases ho with
    | none => exact hR.nil
    | some _ _ hplain => exact hR.append_true (hR.true_append (hlit rfl) hplain) (hlit rfl)
  · cases hl with
    | none => exact hR.nil
    | some hvalue hnumber hplain =>
      dsimp only
      rw [hvalue]
      split
      · rename_i hzero
        exact Congruence.congr (iff_of_true trivial (hnumber 0 hzero)) (hlit rfl)
      · exact hR.append_true (hR.true_append (hlit rfl) hplain) (hlit rfl)

omit ho hl in
theorem number_congr (n : Int64) :
    R True (lit (Number.intText n.toInt)) (lit (Number.intText n.toInt)) :=
  hR.lit (hT.number _)

omit ho in
theorem writeRowWindow_congr {x y : PageBound} {p : Prop} {a b : Emission} (hab : R p a b)
    (hvalue : y.value = x.value) (hnumber : ∀ n ∈ x.value, po)
    (hoperand : R po x.operand y.operand) :
    R (p ∧ pl ∧ po) (writeRowWindow a l x) (writeRowWindow b l' y) := by
  have hlit {s : String} (hs : isTame s = true) : R True (lit s) (lit s) := lit_congr hR hT hs
  have hafter : R po (x.value.elim x.operand fun n => lit (Number.intText n.toInt))
      (y.value.elim y.operand fun n => lit (Number.intText n.toInt)) := by
    rw [hvalue]
    cases hx : x.value with
    | none => exact hoperand
    | some n => exact Congruence.congr (iff_of_true trivial (hnumber n hx)) (number_congr hR hT n)
  rw [writeRowWindow_elim, writeRowWindow_elim]
  cases hl with
  | none =>
    exact Congruence.congr (by simp) (hR.append_true (hR.append (hR.append_true
      (hR.true_append (hlit rfl) hab) (hlit rfl)) hafter) hR.nil)
  | @some _ z w hlimit hcount _ hlast =>
    have hlastRow : R (pl ∧ po) (writeLastRow z x) (writeLastRow w y) := by
      have hsum := hR.append (hR.append_true hlast (hlit (s := " + ") rfl)) hoperand
      unfold writeLastRow
      rw [hlimit, hvalue]
      split
      · rename_i n hn
        obtain ⟨m, hm, hn⟩ := Option.bind_eq_some_iff.1 hn
        obtain ⟨k, hk, -⟩ := Option.bind_eq_some_iff.1 hn
        exact Congruence.congr (iff_of_true trivial ⟨hcount m hm, hnumber k hk⟩) (number_congr hR hT n)
      · exact hsum
    refine Congruence.congr ?_ (hR.append (hR.append (hR.append_true
      (hR.true_append (hlit rfl) hab) (hlit rfl)) hafter) (hR.true_append (hlit rfl) hlastRow))
    exact ⟨fun ⟨⟨h, h'⟩, h'', _⟩ => ⟨h, h'', h'⟩, fun ⟨h, h'', h'⟩ => ⟨⟨h, h'⟩, h'', h'⟩⟩

theorem writePaged_congr {p : Prop} {a b lock : Emission} (hlock : R True lock lock)
    (hab : R p a b) : R (p ∧ pl ∧ po) (d.writePaged a lock l o) (d.writePaged b lock l' o') := by
  have hlit {s : String} (hs : isTame s = true) : R True (lit s) (lit s) := lit_congr hR hT hs
  have hbehind {q : Prop} {x y : Emission} (hxy : R q x y) :
      R (p ∧ q) (a ++ x ++ lock) (b ++ y ++ lock) :=
    hR.append_true (hR.append hab hxy) hlock
  unfold writePaged writePaging
  cases hp : d.capabilities.paging with
  | limitOffset => exact hbehind (writeLimitOffset_congr hR hT hl ho)
  | offsetFetch => exact hbehind (writeOffsetFetch_congr hR hT hl ho)
  | fetchFirst =>
    cases ho with
    | some hvalue hnumber _ hoperand =>
      exact writeRowWindow_congr hR hT hl (hR.append_true hab hlock) hvalue hnumber hoperand
    | none =>
      have hfirst := hbehind (writeFetchFirst_congr hR hT hl)
      cases hl with
      | none => exact Congruence.congr (by simp) hfirst
      | some hvalue hnumber =>
        dsimp only
        rw [hvalue]
        split
        · rename_i hzero
          have hcount : pl := hnumber 0 hzero
          exact Congruence.congr (by simp [hcount]) (hR.append_true (hR.append_true
            (hR.true_append (hlit rfl) hab) hlock) (hlit rfl))
        · exact Congruence.congr (by simp) hfirst

end

end Paging

end Dialect

end PolySql

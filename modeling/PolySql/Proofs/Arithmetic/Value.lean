import PolySql.Proofs.Arithmetic.Column
import PolySql.Proofs.Arithmetic.Differing

namespace PolySql

open Formula

namespace Formula

variable {α β : Type} {g : α → β}

theorem graft_map (l r : Formula α) (o : ArithOp) :
    (l.map g).graft o (r.map g) = (l.graft o r).map g := by
  induction r with
  | leaf x => rfl
  | node a p b iha _ =>
    rw [map, graft, graft]
    split
    · rw [iha]
      rfl
    · rfl

theorem reading_map (e : Formula α) : (e.map g).reading = e.reading.map g := by
  induction e with
  | leaf x => rfl
  | node a o b iha ihb =>
    rw [map, reading, reading, Dialect.needsParens_map, iha, ihb]
    split
    · rfl
    · exact graft_map ..

theorem leaves_map {P : β → Prop} (h : ∀ x, P (g x)) (e : Formula α) : (e.map g).Leaves P := by
  induction e with
  | leaf x => exact h x
  | node a o b iha ihb => exact ⟨iha, ihb⟩

end Formula

def Dialect.ReadsValues (d : Dialect) (s : Formula Unit) : Prop :=
  ∀ e : Formula Operand, e.shape = s → e.Leaves (Operand.IsLegible d) →
    ∀ columns v, e.value? (Operand.value d columns) = some v →
      d.readValue? columns ((d.writeExpr e.toExpr).sql d.placeholder) = some v

namespace Dialect

variable {d : Dialect}

theorem readValue?_numbered (hd : d.IsBuiltIn) {columns : String → Int}
    (hcolumns : ∀ n, (Operand.numbered n).value d columns = n) (g : Formula Int)
    (placeholder : String) :
    d.readValue? columns ((d.writeExpr (g.map Operand.numbered).toExpr).sql placeholder) =
      g.reading.eval := by
  have hlegible (n : Int) : (Operand.numbered n).IsLegible d := Operand.isLegible_numbered hd n
  have hvalues : (wordValue columns ∘ Operand.text d) ∘ Operand.numbered = id := by
    funext n
    exact (wordValue_text (hlegible n)).trans (hcolumns n)
  rw [readValue?_writeExpr hd.quotesNames.readsFormulas (leaves_map hlegible g), reading_map,
    reading_map, value?_map, value?_map, hvalues]
  rfl

theorem readsValues_iff (hd : d.IsBuiltIn) (s : Formula Unit) :
    d.ReadsValues s ↔ s.keepsValue = true := by
  constructor
  · intro h
    refine Bool.not_eq_false _ ▸ fun hs => ?_
    obtain ⟨g, hshape, hg⟩ := exists_differs s hs 0
    obtain ⟨v, hv, -, hne⟩ := hg.exists_eval
    obtain ⟨columns, hcolumns⟩ := Operand.exists_value_numbered hd
    have hread := h (g.map Operand.numbered) ((shape_map g).trans hshape)
      (leaves_map (Operand.isLegible_numbered hd) g) columns v ?_
    · rw [readValue?_numbered hd hcolumns] at hread
      exact hne v hread rfl
    · rw [value?_map, show Operand.value d columns ∘ Operand.numbered = id from funext hcolumns]
      exact hv
  · rintro hs e rfl he columns v hv
    rw [readValue?_of_keepsValue hd.quotesNames.readsFormulas he ((keepsValue_map e).symm.trans hs),
      hv]

theorem readsValues_iff_quotient :
    let x : Formula Unit := leaf ()
    Generic.dialect.ReadsValues (.node (.node x .mul x) .div x) ∧
      ¬ Generic.dialect.ReadsValues (.node x .mul (.node x .div x)) := by
  intro x
  exact ⟨(readsValues_iff .generic _).2 rfl,
    fun h => Bool.false_ne_true ((readsValues_iff .generic _).1 h)⟩

example : Generic.dialect.readValue? (fun _ => 0) "2 * 3 / 2" = some 3 := by
  decide

end Dialect

end PolySql

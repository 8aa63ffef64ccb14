import PolySql.Number.Decimal
import PolySql.Proofs.Text.Cut

namespace PolySql.Number

open Text

structure IsRun (digit : Char → Bool) (t : List Char) : Prop where
  ne_nil : t ≠ []
  all : ∀ c ∈ t, digit c = true

theorem isDigitRun_iff {t : List Char} : isDigitRun t = true ↔ IsRun isDecimalDigit t := by
  rw [isDigitRun, Bool.and_eq_true, bne_iff_ne, List.all_eq_true]
  exact ⟨fun h => ⟨h.1, h.2⟩, fun h => ⟨h.1, h.2⟩⟩

theorem isRun_takeWhile {t : List Char} (h : t.takeWhile isDecimalDigit ≠ []) :
    IsRun isDecimalDigit (t.takeWhile isDecimalDigit) :=
  ⟨h, List.all_eq_true.1 List.all_takeWhile⟩

theorem IsRun.imp {digit other : Char → Bool} {t : List Char} (h : IsRun digit t)
    (himp : ∀ c ∈ t, digit c = true → other c = true) : IsRun other t :=
  ⟨h.ne_nil, fun c hc => himp c hc (h.all c hc)⟩

inductive IsUnsignedNumeral (digit : Char → Bool) : List Char → Prop
  | whole {w : List Char} : IsRun digit w → IsUnsignedNumeral digit w
  | point {w f : List Char} : IsRun digit w → IsRun digit f → IsUnsignedNumeral digit (w ++ '.' :: f)

def IsNumeral (digit : Char → Bool) (s : String) : Prop :=
  ∃ t, IsUnsignedNumeral digit t ∧ (s.toList = t ∨ s.toList = '-' :: t)

section Kinds
variable {digit other P : Char → Bool} {t : List Char} {s : String}

theorem IsUnsignedNumeral.imp (h : IsUnsignedNumeral digit t)
    (himp : ∀ c ∈ t, digit c = true → other c = true) : IsUnsignedNumeral other t := by
  cases h with
  | whole hw => exact .whole (hw.imp himp)
  | point hw hf =>
    simp only [List.mem_append, List.mem_cons] at himp
    exact .point (hw.imp fun c hc => himp c (.inl hc)) (hf.imp fun c hc => himp c (.inr (.inr hc)))

theorem IsUnsignedNumeral.all (h : IsUnsignedNumeral digit t)
    (hdigit : ∀ c, digit c = true → P c = true) (hpoint : P '.' = true) : ∀ c ∈ t, P c = true := by
  cases h with
  | whole hw => exact fun c hc => hdigit c (hw.all c hc)
  | point hw hf =>
    intro c hc
    simp only [List.mem_append, List.mem_cons] at hc
    rcases hc with hc | rfl | hc
    · exact hdigit c (hw.all c hc)
    · exact hpoint
    · exact hdigit c (hf.all c hc)

theorem IsUnsignedNumeral.exists_cons (h : IsUnsignedNumeral digit t) :
    ∃ c r, t = c :: r ∧ digit c = true := by
  have hcons {w : List Char} (hw : IsRun digit w) : ∃ c r, w = c :: r ∧ digit c = true := by
    obtain ⟨c, r, rfl⟩ := List.exists_cons_of_ne_nil hw.ne_nil
    exact ⟨c, r, rfl, hw.all c (List.mem_cons_self ..)⟩
  cases h with
  | whole hw => exact hcons hw
  | point hw hf =>
    obtain ⟨c, r, rfl, hc⟩ := hcons hw
    exact ⟨c, _, rfl, hc⟩

theorem IsNumeral.imp (h : IsNumeral digit s)
    (himp : ∀ c ∈ s.toList, digit c = true → other c = true) : IsNumeral other s := by
  obtain ⟨t, ht, hs⟩ := h
  refine ⟨t, ht.imp fun c hc => himp c ?_, hs⟩
  rcases hs with hs | hs <;> simp [hs, hc]

theorem IsNumeral.all (h : IsNumeral digit s) (hdigit : ∀ c, digit c = true → P c = true)
    (hpoint : P '.' = true) (hminus : P '-' = true) : ∀ c ∈ s.toList, P c = true := by
  obtain ⟨t, ht, hs | hs⟩ := h <;> rw [hs]
  · exact ht.all hdigit hpoint
  · exact List.forall_mem_cons.2 ⟨hminus, ht.all hdigit hpoint⟩

end Kinds

theorem isUnsignedDecimal_iff {t : List Char} :
    isUnsignedDecimal t = true ↔ IsUnsignedNumeral isDecimalDigit t := by
  constructor
  · intro h
    rw [← List.takeWhile_append_dropWhile (p := isDecimalDigit) (l := t)]
    unfold isUnsignedDecimal at h
    dsimp only at h
    split at h
    · rename_i hrest
      rw [hrest, List.append_nil]
      exact .whole (isRun_takeWhile (bne_iff_ne.1 h))
    · rename_i c f hrest
      simp only [Bool.and_eq_true, bne_iff_ne, beq_iff_eq] at h
      obtain ⟨⟨hwhole, rfl⟩, hfraction⟩ := h
      rw [hrest]
      exact .point (isRun_takeWhile hwhole) (isDigitRun_iff.1 hfraction)
  · intro h
    unfold isUnsignedDecimal
    cases h with
    | whole hw =>
      obtain ⟨htake, hdrop⟩ := span_append (r := []) hw.all (by rintro c ⟨⟩)
      rw [List.append_nil] at htake hdrop
      rw [htake, hdrop]
      exact bne_iff_ne.2 hw.ne_nil
    | @point w f hw hf =>
      obtain ⟨htake, hdrop⟩ := span_append (r := '.' :: f) hw.all (by rintro c ⟨⟩; decide)
      rw [htake, hdrop]
      simp [hw.ne_nil, isDigitRun_iff.2 hf]

theorem isDecimalLiteral_iff {s : String} : isDecimalLiteral s = true ↔ IsNumeral isDecimalDigit s := by
  constructor
  · intro h
    unfold isDecimalLiteral at h
    split at h
    · rename_i t ht
      exact ⟨t, isUnsignedDecimal_iff.1 h, .inr ht⟩
    · exact ⟨_, isUnsignedDecimal_iff.1 h, .inl rfl⟩
  · rintro ⟨t, ht, hs⟩
    unfold isDecimalLiteral
    rcases hs with hs | hs
    · obtain ⟨c, r, rfl, hc⟩ := ht.exists_cons
      split
      · rename_i hminus
        rw [hs] at hminus
        obtain rfl := (List.cons.inj hminus).1
        cases hc
      · rw [hs]
        exact isUnsignedDecimal_iff.2 ht
    · rw [hs]
      exact isUnsignedDecimal_iff.2 ht

theorem isNumeral_isDigit_iff {s : String} :
    IsNumeral Char.isDigit s ↔ IsNumeral isDecimalDigit s ∧ ∀ c ∈ s.toList, c.toNat < 128 := by
  constructor
  · intro h
    refine ⟨h.imp fun c _ => isDecimalDigit_of_isDigit, fun c hc => ?_⟩
    have hascii : decide (c.toNat < 128) = true := by
      refine h.all (P := fun c => decide (c.toNat < 128)) (fun c hdigit => ?_) rfl rfl c hc
      have hnine : '9'.toNat = 57 := rfl
      have hbound := (Char.isDigit_iff_toNat.1 hdigit).2
      exact decide_eq_true (by omega)
    exact of_decide_eq_true hascii
  · rintro ⟨h, hascii⟩
    refine h.imp fun c hc hdigit => ?_
    rwa [isDecimalDigit, if_pos (hascii c hc)] at hdigit

end PolySql.Number

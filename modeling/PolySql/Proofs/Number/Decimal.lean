import Mathlib.Algebra.Group.Nat.Defs
import Mathlib.Data.List.Basic
import PolySql.Number.Double.Reader
import PolySql.Proofs.Number.Integer
import PolySql.Proofs.Number.Numeral

namespace PolySql.Number

open Text

theorem of_isDigit {P : Char → Bool} (h : ∀ n < 10, P (Char.ofNat (48 + n)) = true) {c : Char}
    (hc : c.isDigit = true) : P c = true := by
  obtain ⟨hlow, hhigh⟩ := Char.isDigit_iff_toNat.1 hc
  have hzero : '0'.toNat = 48 := rfl
  have hnine : '9'.toNat = 57 := rfl
  have hdigit := h (c.toNat - 48) (by omega)
  rwa [Nat.add_sub_cancel' (by omega), Char.ofNat_toNat] at hdigit

theorem not_isBlank_of_isDigit {c : Char} (h : c.isDigit = true) : isBlank c = false := by
  simpa using of_isDigit (P := fun c => !isBlank c) (by decide) h

structure IsDigits (t : List Char) : Prop where
  ne_nil : t ≠ []
  all : t.all Char.isDigit = true

theorem isDigits_toDigits (n : Nat) : IsDigits (Nat.toDigits 10 n) :=
  ⟨Nat.toDigits_ne_nil, List.all_eq_true.2 fun _ hc =>
    Nat.isDigit_of_mem_toDigits (by decide) (by decide) hc⟩

theorem isDigits_padded (width n : Nat) : IsDigits (padded width n).toList := by
  rw [padded, String.toList_ofList]
  refine ⟨List.append_ne_nil_of_right_ne_nil _ Nat.toDigits_ne_nil, ?_⟩
  rw [List.all_append, List.all_replicate, (isDigits_toDigits n).all]
  simp

theorem all_padded {P : Char → Bool} (hdigit : ∀ c : Char, c.isDigit = true → P c = true)
    (width n : Nat) : (padded width n).toList.all P = true :=
  List.all_eq_true.2 fun c hc => hdigit c (List.all_eq_true.1 (isDigits_padded width n).all c hc)

theorem length_padded {width n : Nat} (hwidth : 0 < width) (h : n < 10 ^ width) :
    (padded width n).toList.length = width := by
  have hdigits := (Nat.length_toDigits_le_iff (by decide : 1 < 10) hwidth).2 h
  rw [padded, String.toList_ofList, List.length_append, List.length_replicate]
  omega

theorem digitsValue_padded (width n : Nat) : digitsValue (padded width n).toList = n := by
  rw [padded, String.toList_ofList]
  show Nat.ofDigitChars 10 _ 0 = n
  rw [Nat.ofDigitChars_append, Nat.ofDigitChars_replicate_zero, Nat.mul_zero,
    Nat.ofDigitChars_ten_toDigits]

section Span
variable {P : Char → Bool} {w r : List Char}

theorem IsDigits.isDigit_head (hw : IsDigits w) : ∀ c ∈ (w ++ r).head?, c.isDigit = true := by
  intro c hc
  rw [List.head?_append_of_ne_nil _ hw.ne_nil] at hc
  exact List.all_eq_true.1 hw.all c (List.mem_of_head? hc)

theorem IsDigits.takeWhile_append (hw : IsDigits w) (hP : ∀ c : Char, c.isDigit = true → P c = true)
    (hr : ∀ c ∈ r.head?, P c = false) :
    (w ++ r).takeWhile P = w ∧ (w ++ r).dropWhile P = r :=
  span_append (fun c hc => hP c (List.all_eq_true.1 hw.all c hc)) hr

end Span

inductive IsMagnitude : List Char → Prop
  | whole {w : List Char} : IsDigits w → IsMagnitude w
  | point {w f : List Char} : IsDigits w → IsDigits f → IsMagnitude (w ++ '.' :: f)

def IsAsciiDecimal (s : String) : Prop :=
  ∃ t, IsMagnitude t ∧ (s.toList = t ∨ s.toList = '-' :: t)

theorem isRun_isDigit_iff {t : List Char} : IsRun Char.isDigit t ↔ IsDigits t :=
  ⟨fun h => ⟨h.ne_nil, List.all_eq_true.2 h.all⟩, fun h => ⟨h.ne_nil, List.all_eq_true.1 h.all⟩⟩

theorem isMagnitude_iff {t : List Char} : IsMagnitude t ↔ IsUnsignedNumeral Char.isDigit t := by
  constructor <;> intro h
  · cases h with
    | whole hw => exact .whole (isRun_isDigit_iff.2 hw)
    | point hw hf => exact .point (isRun_isDigit_iff.2 hw) (isRun_isDigit_iff.2 hf)
  · cases h with
    | whole hw => exact .whole (isRun_isDigit_iff.1 hw)
    | point hw hf => exact .point (isRun_isDigit_iff.1 hw) (isRun_isDigit_iff.1 hf)

theorem isAsciiDecimal_iff {s : String} : IsAsciiDecimal s ↔ IsNumeral Char.isDigit s :=
  exists_congr fun _ => and_congr_left' isMagnitude_iff

namespace IsMagnitude

variable {t : List Char}

theorem exists_cons (h : IsMagnitude t) : ∃ c r, t = c :: r ∧ c.isDigit = true :=
  (isMagnitude_iff.1 h).exists_cons

end IsMagnitude

namespace IsAsciiDecimal

variable {s : String}

theorem all {P : Char → Bool} (h : IsAsciiDecimal s)
    (hP : ∀ c : Char, c.isDigit = true → P c = true) (hpoint : P '.' = true) (hminus : P '-' = true) :
    s.toList.all P = true :=
  List.all_eq_true.2 ((isAsciiDecimal_iff.1 h).all hP hpoint hminus)

theorem trimmed_eq (h : IsAsciiDecimal s) : trimmed s = s := by
  have hbare : s.toList.all (fun c => !isBlank c) = true :=
    h.all (fun c => of_isDigit (P := fun c => !isBlank c) (by decide)) rfl rfl
  rw [trimmed, trim_of_all hbare, String.ofList_toList]

theorem isDecimalLiteral (h : IsAsciiDecimal s) : isDecimalLiteral s = true :=
  isDecimalLiteral_iff.2 ((isAsciiDecimal_iff.1 h).imp fun _ _ => isDecimalDigit_of_isDigit)

end IsAsciiDecimal

section Quotes
variable {t : List Char}

theorem not_mem_of_dropWhile (h : '\'' ∉ t.dropWhile Char.isDigit) : '\'' ∉ t := by
  rw [← List.takeWhile_append_dropWhile (p := Char.isDigit) (l := t), List.mem_append, not_or]
  refine ⟨fun hmem => ?_, h⟩
  have hdigit := List.all_eq_true.1 List.all_takeWhile _ hmem
  cases hdigit

theorem not_mem_of_readNat? (h : (readNat? t).isSome = true) : '\'' ∉ t := by
  unfold readNat? at h
  split at h
  · rename_i hdigits
    intro hmem
    have hdigit := List.all_eq_true.1 hdigits.2 _ hmem
    cases hdigit
  · cases h

theorem not_mem_of_readInt? (h : (readInt? t).isSome = true) : '\'' ∉ t := by
  unfold readInt? at h
  split at h
  · rename_i r
    cases hread : readNat? r with
    | none =>
      rw [hread] at h
      cases h
    | some n =>
      have hrest := not_mem_of_readNat? (Option.isSome_iff_exists.2 ⟨n, hread⟩)
      simpa using hrest
  · rw [Option.isSome_map] at h
    simpa using not_mem_of_readNat? h
  · rw [Option.isSome_map] at h
    exact not_mem_of_readNat? h

theorem not_mem_of_readExponent? (h : (Double.readExponent? t).isSome = true) : '\'' ∉ t := by
  unfold Double.readExponent? at h
  split at h
  · exact List.not_mem_nil
  · split at h
    · rename_i hmark
      have hrest := not_mem_of_readInt? h
      rcases hmark with rfl | rfl <;> simpa using hrest
    · cases h

theorem not_mem_of_readMagnitude? (h : (Double.readMagnitude? t).isSome = true) : '\'' ∉ t := by
  refine not_mem_of_dropWhile ?_
  have hmap {digits : List Char} {f : Int → Nat} {tail : List Char}
      (h : (if digits = [] then none else (Double.readExponent? tail).map f).isSome = true) :
      '\'' ∉ tail := by
    split at h
    · cases h
    · rw [Option.isSome_map] at h
      exact not_mem_of_readExponent? h
  unfold Double.readMagnitude? at h
  dsimp only at h
  split at h
  · rename_i r hpoint
    have hfraction := not_mem_of_dropWhile (hmap h)
    rw [hpoint]
    simpa using hfraction
  · exact hmap h

theorem not_mem_of_readWord? {negative : Bool} (h : (Double.readWord? negative t).isSome = true) :
    '\'' ∉ t := by
  intro hmem
  have hlower : '\'' ∈ t.map Char.toLower := List.mem_map.2 ⟨'\'', hmem, rfl⟩
  have hne {word : String} (hword : '\'' ∉ word.toList) :
      (String.ofList (t.map Char.toLower) == word) = false := by
    refine beq_eq_false_iff_ne.2 fun heq => hword ?_
    rwa [← heq, String.toList_ofList]
  unfold Double.readWord? at h
  dsimp only at h
  rw [hne (by decide), hne (by decide), hne (by decide)] at h
  cases h

theorem not_mem_of_read? {s : String} (h : (Double.read? s).isSome = true) : '\'' ∉ s.toList := by
  have hunsigned {negative : Bool} {t : List Char}
      (ht : (Double.readUnsigned? negative t).isSome = true) : '\'' ∉ t := by
    unfold Double.readUnsigned? at ht
    split at ht
    · rename_i m hm
      exact not_mem_of_readMagnitude? (Option.isSome_iff_exists.2 ⟨m, hm⟩)
    · exact not_mem_of_readWord? ht
  unfold Double.read? at h
  split at h
  · rename_i t ht
    rw [ht]
    simpa using hunsigned h
  · rename_i t ht
    rw [ht]
    simpa using hunsigned h
  · exact hunsigned h

end Quotes

end PolySql.Number

import PolySql.Proofs.Number.Decimal

namespace PolySql.Text

open Number

theorem apply_toLower {α : Type} {f : Char → α}
    (h : ∀ n < 26, f (Char.ofNat (97 + n)) = f (Char.ofNat (65 + n))) (c : Char) :
    f c.toLower = f c := by
  by_cases hupper : c.val ≥ 'A'.val ∧ c.val ≤ 'Z'.val
  · have hfrom : 65 ≤ c.toNat := UInt32.le_iff_toNat_le.1 hupper.1
    have hto : c.toNat ≤ 90 := UInt32.le_iff_toNat_le.1 hupper.2
    have hletters : ∀ n < 26, (Char.ofNat (65 + n)).toLower = Char.ofNat (97 + n) := by decide
    have hletter := h (c.toNat - 65) (by omega)
    rw [← hletters _ (by omega), Nat.add_sub_cancel' hfrom, Char.ofNat_toNat] at hletter
    exact hletter
  · have hsame : c.toLower = c := dif_neg hupper
    rw [hsame]

theorem toLower_eq_iff {sep : Char}
    (h : ∀ n < 26, Char.ofNat (97 + n) ≠ sep ∧ Char.ofNat (65 + n) ≠ sep) (c : Char) :
    c.toLower = sep ↔ c = sep := by
  have hsame := apply_toLower (f := (· == sep)) (fun n hn => by simp [h n hn]) c
  simpa using hsame

theorem isBlank_toLower (c : Char) : isBlank c.toLower = isBlank c :=
  apply_toLower (by decide) c

theorem isDigit_toLower (c : Char) : c.toLower.isDigit = c.isDigit :=
  apply_toLower (by decide) c

theorem toLower_toLower (c : Char) : c.toLower.toLower = c.toLower :=
  apply_toLower (by decide) c

theorem toLower_of_isDigit {c : Char} (h : c.isDigit = true) : c.toLower = c := by
  simpa using of_isDigit (P := fun c => c.toLower == c) (by decide) h

theorem toList_lower (s : String) : (lower s).toList = s.toList.map Char.toLower :=
  String.toList_ofList

theorem lower_append (s s' : String) : lower (s ++ s') = lower s ++ lower s' := by
  rw [← String.toList_inj, toList_lower, String.toList_append, List.map_append, String.toList_append,
    toList_lower, toList_lower]

theorem lower_lower (s : String) : lower (lower s) = lower s := by
  rw [lower, toList_lower, List.map_map, lower]
  congr 2
  exact funext toLower_toLower

theorem trim_map_toLower (t : List Char) : trim (t.map Char.toLower) = (trim t).map Char.toLower := by
  have hblank : isBlank ∘ Char.toLower = isBlank := funext isBlank_toLower
  simp only [trim, trimEnd, trimStart, List.dropWhile_map, ← List.map_reverse, hblank]

theorem trimmed_lower (s : String) : trimmed (lower s) = lower (trimmed s) := by
  rw [trimmed, toList_lower, trim_map_toLower, lower, trimmed, String.toList_ofList]

theorem trim_trim (t : List Char) : trim (trim t) = trim t := by
  by_cases h : trim t = []
  · rw [h]
    rfl
  · exact (hasBareEnds_trim h).trim_eq

theorem trimmed_trimmed (s : String) : trimmed (trimmed s) = trimmed s := by
  rw [trimmed, trimmed, String.toList_ofList, trim_trim]

end PolySql.Text

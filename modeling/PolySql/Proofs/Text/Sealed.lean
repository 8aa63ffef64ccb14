import PolySql.Dialect.Basic
import PolySql.Proofs.Text.Pieces
import PolySql.Proofs.Text.Plain
import PolySql.Text.Quoted

namespace PolySql.Text

def hasPlaceholder (state : Option Char) : List Char → Bool
  | [] => false
  | c :: cs => (state.isNone && c == '?') || hasPlaceholder (scanChar state c) cs

section Append
variable (state : Option Char) (t u : List Char)

@[simp] theorem scan_nil : scan state [] = state := rfl

@[simp] theorem scan_cons (c : Char) : scan state (c :: t) = scan (scanChar state c) t := rfl

theorem scan_append : scan state (t ++ u) = scan (scan state t) u :=
  List.foldl_append

theorem hasPlaceholder_append :
    hasPlaceholder state (t ++ u) =
      (hasPlaceholder state t || hasPlaceholder (scan state t) u) := by
  induction t generalizing state with
  | nil => rfl
  | cons c t ih => simp [hasPlaceholder, ih, Bool.or_assoc]

end Append

structure IsSealed (s : String) : Prop where
  hasPlaceholder_eq : hasPlaceholder none s.toList = false
  scan_eq : scan none s.toList = none

variable {s t : String}

theorem IsSealed.append (hs : IsSealed s) (ht : IsSealed t) : IsSealed (s ++ t) where
  hasPlaceholder_eq := by
    rw [String.toList_append, hasPlaceholder_append, hs.scan_eq, hs.hasPlaceholder_eq,
      ht.hasPlaceholder_eq]
    rfl
  scan_eq := by rw [String.toList_append, scan_append, hs.scan_eq, ht.scan_eq]

theorem isSealed_of_isPlain (h : isPlain s = true) : IsSealed s := by
  suffices H : ∀ t : List Char, t.all isPlainChar = true →
      hasPlaceholder none t = false ∧ scan none t = none from ⟨(H _ h).1, (H _ h).2⟩
  intro t ht
  induction t with
  | nil => exact ⟨rfl, rfl⟩
  | cons c t ih =>
    rw [List.all_cons, Bool.and_eq_true] at ht
    have hc : c ≠ '?' ∧ regionEnd? c = none := by
      simpa [isPlainChar] using ht.1
    have hstate : scanChar none c = none := hc.2
    rw [hasPlaceholder, scan_cons, hstate]
    simpa [hc.1] using ih ht.2

theorem isSealed_joined {ss : List String} {sep : String} (hsep : IsSealed sep)
    (h : ∀ s ∈ ss, IsSealed s) : IsSealed (joined sep ss) :=
  joined_of_append (isSealed_of_isPlain rfl) IsSealed.append hsep h

section Quoted
variable {close : Char}

theorem scan_inside {t : List Char} (h : close ∉ t) :
    scan (some close) t = some close ∧ hasPlaceholder (some close) t = false := by
  induction t with
  | nil => exact ⟨rfl, rfl⟩
  | cons c t ih =>
    simp only [List.mem_cons, not_or] at h
    have hc : scanChar (some close) c = some close := by
      simp [scanChar, Ne.symm h.1]
    rw [scan_cons, hasPlaceholder, hc]
    simpa using ih h.2

theorem scan_region {opening : Char} {inner t : List Char} (hopen : regionEnd? opening = some close)
    (hinner : close ∉ inner) : scan none (opening :: (inner ++ close :: t)) = scan none t := by
  have hin : scanChar none opening = some close := hopen
  have hout : scanChar (some close) close = none := if_pos rfl
  rw [scan_cons, hin, scan_append, (scan_inside hinner).1, scan_cons, hout]

theorem scan_double (hclose : regionEnd? close = some close) (t : List Char) :
    scan (some close) (double close t) = some close ∧
      hasPlaceholder (some close) (double close t) = false := by
  have hne : close ≠ '?' := by
    rintro rfl
    exact absurd hclose (by decide)
  induction t with
  | nil => exact ⟨rfl, rfl⟩
  | cons c t ih =>
    unfold double
    split
    · have hout : scanChar (some close) close = none := by simp [scanChar]
      have hin : scanChar none close = some close := hclose
      simpa [hasPlaceholder, hout, hin, hne] using ih
    · rename_i hc
      have hstay : scanChar (some close) c = some close := by simp [scanChar, hc]
      simpa [hasPlaceholder, hstay] using ih

theorem isSealed_between {opening : Char} {t : List Char} (hopen : regionEnd? opening = some close)
    (ht : scan (some close) t = some close ∧ hasPlaceholder (some close) t = false) :
    IsSealed (String.ofList (opening :: (t ++ [close]))) := by
  have hne : opening ≠ '?' := by
    rintro rfl
    exact absurd hopen (by simp [regionEnd?])
  have hin : scanChar none opening = some close := hopen
  have hout : scanChar (some close) close = none := by simp [scanChar]
  constructor
  · rw [String.toList_ofList, hasPlaceholder, hin, hasPlaceholder_append, ht.1, ht.2]
    simp [hasPlaceholder, hne]
  · rw [String.toList_ofList, scan_cons, hin, scan_append, ht.1, scan_cons, hout, scan_nil]

theorem isSealed_quoteString (s : String) : IsSealed (quoteString s) :=
  isSealed_between rfl (scan_double rfl _)

theorem isSealed_quoteBetween_double (s : String) : IsSealed (quoteBetween '"' '"' s) :=
  isSealed_between rfl (scan_double rfl _)

theorem double_of_not_mem {c : Char} {t : List Char} (h : c ∉ t) : double c t = t := by
  induction t with
  | nil => rfl
  | cons x t ih =>
    simp only [List.mem_cons, not_or] at h
    rw [double, if_neg (Ne.symm h.1), ih h.2]

theorem isSealed_quoteBetween_brackets (h : ']' ∉ s.toList) :
    IsSealed (quoteBetween '[' ']' s) := by
  unfold quoteBetween
  rw [double_of_not_mem h]
  exact isSealed_between rfl (scan_inside h)

end Quoted

theorem isSealed_quoteParts {quote : String → String}
    (h : ∀ p ∈ pieces '.' s.toList, IsSealed (quote (String.ofList p))) :
    IsSealed (quoteParts quote s) :=
  isSealed_joined (isSealed_of_isPlain rfl) (List.forall_mem_map.2 h)

end PolySql.Text

import PolySql.Number.Integer
import PolySql.Text.Placeholder

namespace PolySql.Text

def isPlainChar (c : Char) : Bool :=
  c ≠ '?' && (regionEnd? c).isNone

def isPlain (s : String) : Bool :=
  s.toList.all isPlainChar

@[simp] theorem isPlain_append (s t : String) : isPlain (s ++ t) = (isPlain s && isPlain t) := by
  simp [isPlain, String.toList_append]

def isTameChar (c : Char) : Bool :=
  isPlainChar c && c != '-' && c != ']'

def isTame (s : String) : Bool :=
  s.toList.all isTameChar

theorem isTameChar_iff {c : Char} :
    isTameChar c = true ↔ isPlainChar c = true ∧ c ≠ '-' ∧ c ≠ ']' := by
  simp [isTameChar, and_assoc]

theorem isPlain_of_isTame {s : String} (h : isTame s = true) : isPlain s = true :=
  List.all_eq_true.2 fun c hc => (isTameChar_iff.1 (List.all_eq_true.1 h c hc)).1

theorem isTameChar_of_apply {P : Char → Bool} {c : Char} (hc : P c = true)
    (h : ['?', '\'', '"', '[', '-', ']'].all (fun k => !P k) = true) : isTameChar c = true := by
  have hne : c ∉ ['?', '\'', '"', '[', '-', ']'] := by
    intro hmem
    have hno := List.all_eq_true.1 h c hmem
    rw [hc] at hno
    cases hno
  simp only [List.mem_cons, List.not_mem_nil, or_false, not_or] at hne
  simp [isTameChar, isPlainChar, regionEnd?, hne]

theorem isTameChar_of_isDigit {c : Char} (h : c.isDigit = true) : isTameChar c = true :=
  isTameChar_of_apply h rfl

theorem isPlainChar_of_isDigit {c : Char} (h : c.isDigit = true) : isPlainChar c = true :=
  (isTameChar_iff.1 (isTameChar_of_isDigit h)).1

open Number

theorem isTame_natText (n : Nat) : isTame (natText n) = true := by
  rw [isTame, natText, String.toList_ofList, List.all_eq_true]
  intro c hc
  exact isTameChar_of_isDigit (Nat.isDigit_of_mem_toDigits (by decide) (by decide) hc)

theorem isPlain_natText (n : Nat) : isPlain (natText n) = true :=
  isPlain_of_isTame (isTame_natText n)

theorem isPlain_intText (n : Int) : isPlain (intText n) = true := by
  cases n with
  | ofNat n => exact isPlain_natText n
  | negSucc n =>
    rw [intText, isPlain_append, isPlain_natText]
    rfl

end PolySql.Text

import PolySql.Number.Integer

namespace PolySql.Number

theorem readNat?_toDigits (n : Nat) : readNat? (Nat.toDigits 10 n) = some n := by
  have hdigits : (Nat.toDigits 10 n).all Char.isDigit = true :=
    List.all_eq_true.2 fun c hc => Nat.isDigit_of_mem_toDigits (by decide) (by decide) hc
  rw [readNat?, if_pos ⟨Nat.toDigits_ne_nil, hdigits⟩]
  exact congrArg some Nat.ofDigitChars_ten_toDigits

theorem readInt?_toDigits (n : Nat) : readInt? (Nat.toDigits 10 n) = some (n : Int) := by
  have hne {k : Char} {t : List Char} (hk : k.isDigit = false) : Nat.toDigits 10 n ≠ k :: t := by
    intro h
    have hdigit : k.isDigit = true :=
      Nat.isDigit_of_mem_toDigits (n := n) (b := 10) (by decide) (by decide) (h ▸ List.mem_cons_self ..)
    rw [hdigit] at hk
    cases hk
  unfold readInt?
  split
  · rename_i h
    exact absurd h (hne rfl)
  · rename_i h
    exact absurd h (hne rfl)
  · rw [readNat?_toDigits]
    rfl

theorem readInt?_intText (n : Int) : readInt? (intText n).toList = some n := by
  cases n with
  | ofNat n =>
    rw [intText, natText, String.toList_ofList]
    exact readInt?_toDigits n
  | negSucc n =>
    simp only [intText, natText, String.toList_append, String.toList_ofList]
    show readInt? ('-' :: Nat.toDigits 10 (n + 1)) = _
    rw [readInt?, readNat?_toDigits]
    rfl

theorem intText_injective {m n : Int} (h : intText m = intText n) : m = n := by
  have hread := congrArg (fun s : String => readInt? s.toList) h
  simpa [readInt?_intText] using hread

theorem natText_injective {m n : Nat} (h : natText m = natText n) : m = n :=
  Int.ofNat.inj (intText_injective (m := .ofNat m) (n := .ofNat n) h)

theorem isDigit_of_mem_natText {n : Nat} {c : Char} (h : c ∈ (natText n).toList) :
    c.isDigit = true := by
  rw [natText, String.toList_ofList] at h
  exact Nat.isDigit_of_mem_toDigits (by decide) (by decide) h

theorem not_mem_natText {c : Char} (hc : c.isDigit = false) (n : Nat) : c ∉ (natText n).toList := by
  intro hmem
  rw [isDigit_of_mem_natText hmem] at hc
  cases hc

theorem isDigit_or_of_mem_intText {n : Int} {c : Char} (h : c ∈ (intText n).toList) :
    c.isDigit = true ∨ c = '-' := by
  cases n with
  | ofNat n => exact .inl (isDigit_of_mem_natText h)
  | negSucc n =>
    rw [intText, String.toList_append] at h
    rcases List.mem_append.1 h with h | h
    · exact .inr (List.mem_singleton.1 h)
    · exact .inl (isDigit_of_mem_natText h)

theorem toInt_of_int64? {n : Int} {m : Int64} (h : int64? n = some m) : m.toInt = n := by
  unfold int64? fitsInt64 at h
  split at h
  · rename_i hfits
    obtain rfl := Option.some.inj h
    simp only [Bool.and_eq_true, decide_eq_true_eq] at hfits
    have hmax : Int64.maxValue.toInt = 2 ^ 63 - 1 := rfl
    exact Int64.toInt_ofInt_of_le hfits.1 (by omega)
  · cases h

theorem int64?_toInt (n : Int64) : int64? n.toInt = some n := by
  have hfits : fitsInt64 n.toInt = true := by
    have hmin := n.le_toInt
    have hmax := n.toInt_lt
    have hmaxValue : Int64.maxValue.toInt = 2 ^ 63 - 1 := rfl
    simp only [fitsInt64, Bool.and_eq_true, decide_eq_true_eq]
    exact ⟨hmin, by omega⟩
  rw [int64?, if_pos hfits, Int64.ofInt_toInt]

theorem add?_zero (n : Int64) : add? 0 n = some n := by
  show int64? (0 + n.toInt) = some n
  rw [Int.zero_add, int64?_toInt]

end PolySql.Number

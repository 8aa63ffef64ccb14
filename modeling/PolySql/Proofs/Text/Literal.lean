import PolySql.Dialect.Basic
import PolySql.Proofs.Calendar.Printer
import PolySql.Proofs.Number.Numeral
import PolySql.Proofs.Text.Sealed

namespace PolySql

open Text Number Calendar

theorem all_toDigits {P : Char → Bool} (hdigit : ∀ c : Char, c.isDigit = true → P c = true)
    (n : Nat) : (Nat.toDigits 10 n).all P = true := by
  rw [List.all_eq_true]
  intro c hc
  exact hdigit c (Nat.isDigit_of_mem_toDigits (by decide) (by decide) hc)

section Digits
variable {P : Char → Bool}

theorem all_positional (hdigit : ∀ c : Char, c.isDigit = true → P c = true) (hpoint : P '.' = true)
    (s : Scientific) : s.positional.toList.all P = true := by
  have hd := all_toDigits hdigit s.digits
  have hdigit0 : P '0' = true := hdigit '0' rfl
  have hzero (n : Nat) : (List.replicate n '0').all P = true := by
    rw [List.all_replicate, hdigit0, ite_self]
  have hsub {t : List Char} (h : ∀ c ∈ t, c ∈ Nat.toDigits 10 s.digits) : t.all P = true :=
    List.all_eq_true.2 fun c hc => List.all_eq_true.1 hd c (h c hc)
  unfold Scientific.positional
  dsimp only
  split
  · rw [String.toList_ofList, List.all_append, hd, hzero]
    rfl
  · split
    · rw [String.toList_ofList, List.all_append, List.all_cons, hpoint,
        hsub fun c => List.mem_of_mem_take, hsub fun c => List.mem_of_mem_drop]
      rfl
    · rw [String.toList_ofList, List.all_cons, List.all_cons, List.all_append, hpoint, hdigit0, hd,
        hzero]
      rfl

def IsSigned (P : Char → Bool) (s : String) : Prop :=
  ∃ m : String, m ≠ "" ∧ m.toList.all P = true ∧ (s = m ∨ s = "-" ++ m)

theorem IsSigned.all (hminus : P '-' = true) {s : String} (h : IsSigned P s) :
    s.toList.all P = true := by
  obtain ⟨m, -, hm, rfl | rfl⟩ := h
  · exact hm
  · rw [String.toList_append, List.all_append, hm]
    simpa using hminus

theorem IsSigned.ne_empty {s : String} (h : IsSigned P s) : s ≠ "" := by
  obtain ⟨m, hne, -, rfl | rfl⟩ := h
  · exact hne
  · simp

theorem positional_ne_empty (s : Scientific) : s.positional ≠ "" := by
  unfold Scientific.positional
  dsimp only
  split
  · simp [Nat.toDigits_ne_nil]
  · split <;> simp

theorem isSigned_text_of_isFinite (hdigit : ∀ c : Char, c.isDigit = true → P c = true)
    (hpoint : P '.' = true) {x : Double} (h : x.isFinite = true) : IsSigned P x.text := by
  have hnan : x.isNaN = false := by rw [Double.isNaN, h]; rfl
  unfold Double.text
  simp only [hnan, h, Bool.not_true, Bool.false_eq_true, if_false]
  refine ⟨if x.isZero then "0" else x.shortest.positional, ?_, ?_, ?_⟩
  · split
    · decide
    · exact positional_ne_empty _
  · split
    · simpa using hdigit '0' rfl
    · exact all_positional hdigit hpoint _
  · split
    · exact .inr rfl
    · exact .inl rfl

end Digits

section Decimals
variable {P : Char → Bool}

theorem isSigned_of_isDecimalLiteral (hdigit : ∀ c : Char, isDecimalDigit c = true → P c = true)
    (hpoint : P '.' = true) {s : String} (h : isDecimalLiteral s = true) : IsSigned P s := by
  obtain ⟨t, ht, hs⟩ := isDecimalLiteral_iff.1 h
  have hne : String.ofList t ≠ "" := by
    obtain ⟨c, r, rfl, -⟩ := ht.exists_cons
    exact mt String.ofList_eq_empty_iff.1 (List.cons_ne_nil c r)
  refine ⟨String.ofList t, hne, ?_, hs.imp (fun hs => ?_) fun hs => ?_⟩
  · rw [String.toList_ofList, List.all_eq_true]
    exact ht.all hdigit hpoint
  · rw [← hs, String.ofList_toList]
  · rw [← String.toList_inj, hs]
    simp

end Decimals

theorem isSigned_intText {P : Char → Bool} (hdigit : ∀ c : Char, c.isDigit = true → P c = true)
    (n : Int) : IsSigned P (intText n) := by
  have hne (n : Nat) : natText n ≠ "" := by simp [natText, Nat.toDigits_ne_nil]
  have hall (n : Nat) : (natText n).toList.all P = true := by
    rw [natText, String.toList_ofList]
    exact all_toDigits hdigit n
  cases n with
  | ofNat n => exact ⟨natText n, hne n, hall n, .inl rfl⟩
  | negSucc n => exact ⟨natText (n + 1), hne _, hall _, .inr rfl⟩

theorem isPlain_date (d : Date) : isPlain d.text = true :=
  d.all_text (fun _ => isPlainChar_of_isDigit) rfl rfl

theorem isPlain_formatTime (c : Clock) (digits : Nat) : isPlain (formatTime c digits) = true :=
  all_formatTime (fun _ => isPlainChar_of_isDigit) rfl rfl c digits

theorem isPlain_formatTimestamp (t : Timestamp) (digits : Nat) :
    isPlain (formatTimestamp t digits) = true := by
  rw [formatTimestamp, isPlain_append, isPlain_append, isPlain_date, isPlain_formatTime]
  rfl

theorem isTameChar_hexDigit {n : Nat} (h : n < 16) :
    isTameChar (hexDigit n) = true ∧ isTameChar (hexDigit n).toLower = true := by
  revert n
  decide

theorem isTame_hexUpper (bytes : List UInt8) :
    isTame (hexUpper bytes) = true ∧ isTame (lower (hexUpper bytes)) = true := by
  have hbyte (b : UInt8) : b.toNat / 16 < 16 ∧ b.toNat % 16 < 16 := by
    have hb := b.toNat_lt
    omega
  rw [hexUpper, lower, isTame, isTame, String.toList_ofList, String.toList_ofList]
  induction bytes with
  | nil => exact ⟨rfl, rfl⟩
  | cons b bytes ih =>
    obtain ⟨hhigh, hlow⟩ := hbyte b
    simp only [List.flatMap_cons, hexByte, List.all_append, List.map_append, List.all_cons,
      List.map_cons, List.all_nil, List.map_nil, isTameChar_hexDigit hhigh, isTameChar_hexDigit hlow,
      ih]
    exact ⟨rfl, rfl⟩

theorem isPlain_hexUpper (bytes : List UInt8) :
    isPlain (hexUpper bytes) = true ∧ isPlain (lower (hexUpper bytes)) = true :=
  ⟨isPlain_of_isTame (isTame_hexUpper bytes).1, isPlain_of_isTame (isTame_hexUpper bytes).2⟩

inductive IsLiteral : String → Prop
  | number {s : String} : IsSigned isTameChar s → IsLiteral s
  | string {before after : String} (s : String) : isTame before = true → isTame after = true →
    IsLiteral (before ++ quoteString s ++ after)

theorem IsLiteral.isSealed {s : String} (h : IsLiteral s) : IsSealed s := by
  cases h with
  | number h =>
    obtain ⟨m, hne, hm, heq⟩ := h
    exact isSealed_of_isPlain (IsSigned.all rfl ⟨m, hne, isPlain_of_isTame hm, heq⟩)
  | string s hbefore hafter =>
    exact ((isSealed_of_isPlain (isPlain_of_isTame hbefore)).append (isSealed_quoteString s)).append
      (isSealed_of_isPlain (isPlain_of_isTame hafter))

theorem IsLiteral.ne_empty {s : String} (h : IsLiteral s) : s ≠ "" := by
  cases h with
  | number h => exact h.ne_empty
  | string s => simp [quoteString, quoteChars]

theorem isLiteral_word {s : String} (hne : s ≠ "") (h : isTame s = true) : IsLiteral s :=
  .number ⟨s, hne, h, .inl rfl⟩

theorem quoteString_of_isPlain {s : String} (h : isPlain s = true) :
    quoteString s = "'" ++ s ++ "'" := by
  have hmem : '\'' ∉ s.toList := fun hmem => absurd (List.all_eq_true.1 h _ hmem) (by decide)
  rw [← String.toList_inj]
  simp [quoteString, quoteChars, double_of_not_mem hmem]

theorem isLiteral_quoteString (s : String) : IsLiteral (quoteString s) := by
  have h : IsLiteral ("" ++ quoteString s ++ "") := .string s rfl rfl
  rwa [String.empty_append, String.append_empty] at h

theorem isLiteral_between_apostrophes {s : String} (h : isPlain s = true) :
    IsLiteral ("'" ++ s ++ "'") := by
  rw [← quoteString_of_isPlain h]
  exact isLiteral_quoteString s

theorem isLiteral_binaryLiteral (style : BinaryLiteral) (bytes : List UInt8) :
    IsLiteral (style.write bytes) := by
  obtain ⟨hupper, hlower⟩ := isPlain_hexUpper bytes
  have hquoted := quoteString_of_isPlain hupper
  cases style with
  | hexString =>
    have heq : "X'" ++ hexUpper bytes ++ "'" = "X" ++ quoteString (hexUpper bytes) ++ "" := by
      rw [hquoted, ← String.toList_inj]
      simp [String.toList_append]
    rw [BinaryLiteral.write, heq]
    exact .string _ rfl rfl
  | hexNumber =>
    refine isLiteral_word (by simp [BinaryLiteral.write]) ?_
    rw [BinaryLiteral.write, isTame, String.toList_append, List.all_append]
    exact Bool.and_eq_true_iff.2 ⟨rfl, (isTame_hexUpper bytes).1⟩
  | escapedBytea =>
    have hescaped : isPlain ("\\x" ++ lower (hexUpper bytes)) = true := by
      rw [isPlain_append, hlower]
      rfl
    have heq : "'\\x" ++ lower (hexUpper bytes) ++ "'" =
        "'" ++ ("\\x" ++ lower (hexUpper bytes)) ++ "'" := by
      rw [← String.toList_inj]
      simp [String.toList_append]
    rw [BinaryLiteral.write, heq]
    exact isLiteral_between_apostrophes hescaped
  | blobFunction =>
    have heq : "BLOB(X'" ++ hexUpper bytes ++ "')" =
        "BLOB(X" ++ quoteString (hexUpper bytes) ++ ")" := by
      rw [hquoted, ← String.toList_inj]
      simp [String.toList_append]
    rw [BinaryLiteral.write, heq]
    exact .string _ rfl rfl

theorem isLiteral_quoteValue (caps : Capabilities) (zone : Timezone) (v : Value) :
    IsLiteral (caps.quoteValue zone caps.quoteString v) := by
  cases v with
  | null => exact isLiteral_word (s := "NULL") (by decide) rfl
  | bool b =>
    show IsLiteral (caps.boolean.write b)
    cases caps.boolean <;> cases b <;>
      exact isLiteral_word (by simp [BooleanLiteral.write]) rfl
  | int n => exact .number (isSigned_intText (fun _ => isTameChar_of_isDigit) _)
  | float x =>
    unfold Capabilities.quoteValue
    dsimp only
    split
    · rename_i h
      exact .number (isSigned_text_of_isFinite (fun _ => isTameChar_of_isDigit) rfl h)
    · exact isLiteral_quoteString _
  | decimal s =>
    unfold Capabilities.quoteValue
    dsimp only
    split
    · rename_i h
      refine .number (isSigned_of_isDecimalLiteral (fun c hc => ?_) rfl h)
      exact isTameChar_of_apply hc (by decide)
    · exact isLiteral_quoteString _
  | text s =>
    show IsLiteral (caps.quoteString s)
    unfold Capabilities.quoteString
    split
    · have h : IsLiteral ("N" ++ Text.quoteString s ++ "") := .string s rfl rfl
      rwa [String.append_empty] at h
    · exact isLiteral_quoteString s
  | blob bytes => exact isLiteral_binaryLiteral _ _
  | date t => exact isLiteral_between_apostrophes (isPlain_date t)
  | time t => exact isLiteral_between_apostrophes (isPlain_formatTime t _)
  | timestamp t => exact isLiteral_between_apostrophes (isPlain_formatTimestamp t _)
  | zoned z => exact isLiteral_between_apostrophes (isPlain_formatTimestamp _ _)

structure Dialect.HasStandardLiterals (d : Dialect) : Prop where
  quoteString : d.quoteString = d.capabilities.quoteString
  quote : d.quote = d.capabilities.quoteValue d.timezone d.quoteString

namespace Dialect.HasStandardLiterals

variable {d : Dialect} (hd : d.HasStandardLiterals)
include hd

theorem quote_eq : d.quote = d.capabilities.quoteValue d.timezone d.capabilities.quoteString := by
  rw [hd.quote, hd.quoteString]

theorem isLiteral_quote (v : Value) : IsLiteral (d.quote v) := by
  rw [hd.quote_eq]
  exact isLiteral_quoteValue _ _ v

theorem isSealed_quote (v : Value) : IsSealed (d.quote v) :=
  (hd.isLiteral_quote v).isSealed

end Dialect.HasStandardLiterals

end PolySql

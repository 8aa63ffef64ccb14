import PolySql.Column.Cast
import PolySql.Dialect.Generic
import PolySql.Dialect.Basic
import PolySql.Proofs.Text.Literal

namespace PolySql

open Text Number

namespace Text

theorem quoteString_ne (s : String) : quoteString s ≠ s := by
  intro h
  have hlength := congrArg (fun r : String => r.toList.length) h
  simp only [quoteString, String.toList_ofList, quoteChars, List.length_cons, List.length_append,
    length_double] at hlength
  omega

end Text

structure Dialect.TellsNumbers (d : Dialect) (IsNumber : String → Prop) (s : String) : Prop where
  bare : d.quote (.decimal s) = s ↔ IsNumber s
  quoted : ¬ IsNumber s → d.quote (.decimal s) = Text.quoteString s
  cast : ∀ (type : ColumnType) (raw : String), type.kind = .decimal ∨ type.kind = .money →
    trimmed raw = s → ∀ v, type.cast raw = some v ↔ v = .decimal s ∧ IsNumber s

theorem Dialect.HasStandardLiterals.quote_decimal {d : Dialect} (hd : d.HasStandardLiterals)
    (s : String) : d.quote (.decimal s) = if isDecimalLiteral s then s else Text.quoteString s := by
  rw [hd.quote]
  rfl

theorem ColumnType.cast_of_isDecimal {type : ColumnType} (h : type.kind = .decimal ∨ type.kind = .money)
    (raw : String) : type.cast raw = readDecimal? (trimmed raw) := by
  unfold ColumnType.cast TypeKind.cast
  rcases h with h | h <;> rw [h]

theorem readDecimal?_eq_some_iff {s : String} {v : Value} :
    readDecimal? s = some v ↔ v = .decimal s ∧ isDecimalLiteral s = true := by
  unfold readDecimal?
  split
  · rename_i h
    simp [h, eq_comm]
  · rename_i h
    simp [h]

theorem Dialect.HasStandardLiterals.tellsNumbers_isNumeral {d : Dialect}
    (hd : d.HasStandardLiterals) (s : String) : d.TellsNumbers (IsNumeral isDecimalDigit) s where
  bare := by
    rw [hd.quote_decimal, ← isDecimalLiteral_iff]
    split
    · rename_i h
      exact iff_of_true rfl h
    · rename_i h
      exact iff_of_false (quoteString_ne s) h
  quoted := by
    rw [← isDecimalLiteral_iff]
    exact fun h => (hd.quote_decimal s).trans (if_neg h)
  cast := by
    rintro type raw htype rfl v
    rw [type.cast_of_isDecimal htype, readDecimal?_eq_some_iff, isDecimalLiteral_iff]

theorem Dialect.HasStandardLiterals.tellsNumbers_iff {d : Dialect} (hd : d.HasStandardLiterals)
    {IsNumber : String → Prop} {s : String} :
    d.TellsNumbers IsNumber s ↔ (IsNumber s ↔ IsNumeral isDecimalDigit s) := by
  have hall := hd.tellsNumbers_isNumeral s
  constructor
  · intro h
    rw [← h.bare, hall.bare]
  · intro h
    refine ⟨hall.bare.trans h.symm, fun hno => hall.quoted (mt h.2 hno), fun type raw htype hraw v => ?_⟩
    rw [hall.cast type raw htype hraw, h]

theorem Dialect.tellsNumbers_isAsciiDecimal_iff {d : Dialect} (hd : d.HasStandardLiterals) (s : String) :
    d.TellsNumbers (IsNumeral isDecimalDigit) s ∧
      (d.TellsNumbers IsAsciiDecimal s ↔
        (IsNumeral isDecimalDigit s → ∀ c ∈ s.toList, c.toNat < 128)) := by
  refine ⟨hd.tellsNumbers_isNumeral s, ?_⟩
  rw [hd.tellsNumbers_iff, isAsciiDecimal_iff, isNumeral_isDigit_iff]
  exact and_iff_left_iff_imp

theorem Dialect.tellsNumbers_isAsciiDecimal_iff_fullWidth :
    Generic.dialect.quote (.decimal "-１.５") = "-１.５" ∧
      ¬ Generic.dialect.TellsNumbers IsAsciiDecimal "-１.５" := by
  obtain ⟨htells, hiff⟩ := tellsNumbers_isAsciiDecimal_iff (d := Generic.dialect) ⟨rfl, rfl⟩ "-１.５"
  have hnumeral : IsNumeral isDecimalDigit "-１.５" := isDecimalLiteral_iff.1 (by decide)
  exact ⟨htells.bare.2 hnumeral, fun h => absurd (hiff.1 h hnumeral '１' (by decide)) (by decide)⟩

end PolySql

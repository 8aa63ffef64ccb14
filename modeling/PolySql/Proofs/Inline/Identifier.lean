import PolySql.Proofs.Inline.Names
import PolySql.Proofs.Text.Cut
import PolySql.Proofs.Text.Thinned

namespace PolySql

open Text

namespace Text

theorem placeholdersFrom_append (state : Option Char) (t u : List Char) :
    placeholdersFrom state (t ++ u) = placeholdersFrom state t + placeholdersFrom (scan state t) u := by
  induction t generalizing state with
  | nil => simp [placeholdersFrom]
  | cons c t ih => simp [placeholdersFrom, ih, Nat.add_assoc]

theorem placeholdersFrom_eq_zero_iff {state : Option Char} {t : List Char} :
    placeholdersFrom state t = 0 ↔ hasPlaceholder state t = false := by
  induction t generalizing state with
  | nil => exact iff_of_true rfl rfl
  | cons c t ih =>
    rw [placeholdersFrom, hasPlaceholder, Nat.add_eq_zero_iff, ih, Bool.or_eq_false_iff]
    simp

theorem length_splitPlaceholders (s : String) :
    (splitPlaceholders s).length = placeholdersFrom none s.toList + 1 := by
  rw [splitPlaceholders, List.length_map, segments, length_segmentsFrom]

theorem isSealed_ofList_iff {t : List Char} :
    IsSealed (String.ofList t) ↔ hasPlaceholder none t = false ∧ scan none t = none := by
  constructor
  · rintro ⟨hplaceholder, hscan⟩
    rw [String.toList_ofList] at hplaceholder hscan
    exact ⟨hplaceholder, hscan⟩
  · rintro ⟨hplaceholder, hscan⟩
    refine ⟨?_, ?_⟩ <;> rwa [String.toList_ofList]

theorem isSealed_iff_length {s : String} :
    IsSealed s ↔ (splitPlaceholders s).length = 1 ∧ scan none s.toList = none := by
  rw [length_splitPlaceholders, Nat.add_eq_right, placeholdersFrom_eq_zero_iff]
  exact ⟨fun h => ⟨h.hasPlaceholder_eq, h.scan_eq⟩, fun h => ⟨h.1, h.2⟩⟩

def ScansLike (state : Option Char) (t u : List Char) : Prop :=
  scan state t = scan state u ∧ hasPlaceholder state t = hasPlaceholder state u

namespace ScansLike

variable {state : Option Char} {t u v w : List Char}

theorem append (htu : ScansLike state t u) (hvw : ScansLike (scan state u) v w) :
    ScansLike state (t ++ v) (u ++ w) := by
  unfold ScansLike
  rw [scan_append, scan_append, hasPlaceholder_append, hasPlaceholder_append, htu.1, htu.2, hvw.1,
    hvw.2]
  exact ⟨rfl, rfl⟩

theorem refl (state : Option Char) (t : List Char) : ScansLike state t t :=
  ⟨rfl, rfl⟩

theorem isSealed_iff (h : ScansLike none t u) :
    IsSealed (String.ofList t) ↔ IsSealed (String.ofList u) := by
  rw [isSealed_ofList_iff, isSealed_ofList_iff, h.1, h.2]

end ScansLike

section Brackets
variable {state : Option Char} {t front rest : List Char}

theorem scansLike_closing_twice (state : Option Char) : ScansLike state [']', ']'] [']'] := by
  constructor
  · cases state with
    | none => rfl
    | some close =>
      by_cases hc : ']' = close
      · subst hc
        rfl
      · simp [scanChar, hc]
  · simp [hasPlaceholder]

theorem scansLike_double (state : Option Char) (t : List Char) :
    ScansLike state (double ']' t) t := by
  induction t generalizing state with
  | nil => exact .refl state []
  | cons c t ih =>
    unfold double
    split
    · rename_i hc
      subst hc
      exact (scansLike_closing_twice state).append (ih _)
    · exact (ScansLike.refl state [c]).append (ih _)

theorem scansLike_behind_closing (hfront : ']' ∉ front) (rest : List Char) :
    ScansLike none ('[' :: (front ++ ']' :: rest)) rest := by
  obtain ⟨hscan, hplaceholder⟩ := scan_inside hfront
  have hin : scanChar none '[' = some ']' := rfl
  have hout : scanChar (some ']') ']' = none := rfl
  constructor
  · exact scan_region rfl hfront
  · rw [hasPlaceholder, hin, hasPlaceholder_append, hplaceholder, hscan, hasPlaceholder, hout]
    rfl

theorem isSealed_brackets_iff :
    IsSealed (String.ofList ('[' :: (t ++ [']']))) ↔
      ∀ front rest, t = front ++ ']' :: rest → ']' ∉ front →
        IsSealed (String.ofList (rest ++ [']'])) := by
  have hbehind {front rest : List Char} (ht : t = front ++ ']' :: rest) (hfront : ']' ∉ front) :
      IsSealed (String.ofList ('[' :: (t ++ [']']))) ↔ IsSealed (String.ofList (rest ++ [']'])) := by
    rw [ht, List.append_assoc, List.cons_append]
    exact (scansLike_behind_closing hfront _).isSealed_iff
  refine ⟨fun h front rest ht hfront => (hbehind ht hfront).1 h, fun h => ?_⟩
  by_cases hmem : ']' ∈ t
  · obtain ⟨front, rest, ht, hfront⟩ := List.eq_append_cons_of_mem hmem
    exact (hbehind ht hfront).2 (h front rest ht hfront)
  · exact isSealed_between rfl (scan_inside hmem)

end Brackets

end Text

namespace SqlServer

theorem isSealed_quoteIdentifier_iff {name : String} :
    IsSealed (quoteIdentifier name) ↔ IsSealed (String.ofList ('[' :: (name.toList ++ [']']))) := by
  unfold quoteIdentifier
  split
  · rename_i hname
    unfold isBracketed at hname
    split at hname
    · rename_i u hu
      have hchars : name.toList = '[' :: (u ++ [']']) := between?_eq_some_iff.1 hu
      have houter : ScansLike none ('[' :: (name.toList ++ [']'])) name.toList := by
        rw [hchars]
        show ScansLike none (['[', '['] ++ (u ++ [']'] ++ [']'])) (['['] ++ (u ++ [']']))
        refine ScansLike.append ⟨rfl, rfl⟩ ?_
        rw [List.append_assoc]
        exact (ScansLike.refl _ u).append (scansLike_closing_twice _)
      rw [houter.isSealed_iff, String.ofList_toList]
    · cases hname
  · have hinner : ScansLike none ('[' :: (double ']' name.toList ++ [']']))
        ('[' :: (name.toList ++ [']'])) :=
      (ScansLike.refl none ['[']).append ((scansLike_double _ _).append (.refl _ _))
    exact hinner.isSealed_iff

end SqlServer

namespace Dialect

variable {d : Dialect}

theorem IsBuiltIn.isSealed_quoteIdentifier_iff (hd : d.IsBuiltIn) (name : String) :
    IsSealed (d.quoteIdentifier name) ↔
      (d.name = "mssql" → ∀ front rest, name.toList = front ++ ']' :: rest → ']' ∉ front →
        IsSealed (String.ofList (rest ++ [']']))) := by
  have hquotes : IsSealed (quoteBetween '"' '"' name) := isSealed_quoteBetween_double name
  cases hd with
  | generic => exact iff_of_true hquotes fun h => absurd h (by decide)
  | postgres => exact iff_of_true hquotes fun h => absurd h (by decide)
  | sqlite => exact iff_of_true hquotes fun h => absurd h (by decide)
  | db2 => exact iff_of_true hquotes fun h => absurd h (by decide)
  | sqlServer zone =>
    have hbrackets := SqlServer.isSealed_quoteIdentifier_iff.trans (isSealed_brackets_iff (t := name.toList))
    exact hbrackets.trans ⟨fun h _ => h, fun h => h rfl⟩

theorem IsBuiltIn.splitPlaceholders_quoteIdentifier_iff (hd : d.IsBuiltIn) (name : String) :
    ((splitPlaceholders (d.quoteIdentifier name)).length = 1 ∧
        scan none (d.quoteIdentifier name).toList = none ∧
        (splitPlaceholders (d.quoteIdentifier name ++ " = ?")).length = 2) ↔
      (d.name = "mssql" → ∀ front rest, name.toList = front ++ ']' :: rest → ']' ∉ front →
        IsSealed (String.ofList (rest ++ [']']))) := by
  rw [← hd.isSealed_quoteIdentifier_iff, isSealed_iff_length]
  refine ⟨fun ⟨hlength, hscan, _⟩ => ⟨hlength, hscan⟩, fun ⟨hlength, hscan⟩ => ⟨hlength, hscan, ?_⟩⟩
  rw [length_splitPlaceholders] at hlength ⊢
  rw [String.toList_append, placeholdersFrom_append, hscan]
  have hbehind : placeholdersFrom none " = ?".toList = 1 := by decide
  omega

theorem IsBuiltIn.splitPlaceholders_quoteIdentifier_iff_closing :
    splitPlaceholders (SqlServer.dialect.quoteIdentifier "a]?" ++ " = ?") = ["[a]]", "] = ", ""] ∧
      (¬ ∀ front rest, "a]?".toList = front ++ ']' :: rest → ']' ∉ front →
        IsSealed (String.ofList (rest ++ [']']))) ∧
      (splitPlaceholders (Generic.dialect.quoteIdentifier "a\"?" ++ " = ?")).length = 2 := by
  have hsplit : splitPlaceholders (SqlServer.dialect.quoteIdentifier "a]?" ++ " = ?") =
      ["[a]]", "] = ", ""] := by decide
  refine ⟨hsplit, fun hrest => ?_, ?_⟩
  · have hiff := (IsBuiltIn.sqlServer .utc).splitPlaceholders_quoteIdentifier_iff "a]?"
    have hlength : (splitPlaceholders (SqlServer.dialect.quoteIdentifier "a]?" ++ " = ?")).length = 2 :=
      (hiff.2 fun _ => hrest).2.2
    rw [hsplit] at hlength
    cases hlength
  · have hiff := IsBuiltIn.generic.splitPlaceholders_quoteIdentifier_iff "a\"?"
    exact (hiff.2 fun h => absurd h (by decide)).2.2

end Dialect

end PolySql

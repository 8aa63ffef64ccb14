import PolySql.Proofs.Text.Sealed
import PolySql.Proofs.Write.Emission
import PolySql.SqlServer.Plan

namespace PolySql

open Text

namespace Text

def joinFirst (t : List Char) : List (List Char) → List (List Char)
  | [] => [t]
  | s :: rest => (t ++ s) :: rest

theorem segmentsFrom_ne_nil (state : Option Char) (t : List Char) : segmentsFrom state t ≠ [] := by
  cases t with
  | nil => simp [segmentsFrom]
  | cons c t =>
    unfold segmentsFrom
    split
    · simp
    · split <;> simp

theorem segmentsFrom_cons {state : Option Char} {c : Char} (t : List Char)
    (h : (state.isNone && c == '?') = false) :
    segmentsFrom state (c :: t) = joinFirst [c] (segmentsFrom (scanChar state c) t) := by
  have hc : ¬ (state = none ∧ c = '?') := by
    rintro ⟨rfl, rfl⟩
    cases h
  rw [segmentsFrom, if_neg hc]
  split
  · rename_i hnil
    exact absurd hnil (segmentsFrom_ne_nil _ _)
  · rename_i hcons
    rw [hcons]
    rfl

theorem segmentsFrom_placeholder (t : List Char) :
    segmentsFrom none ('?' :: t) = [] :: segmentsFrom none t := by
  rw [segmentsFrom, if_pos ⟨rfl, rfl⟩]

theorem segmentsFrom_append {state : Option Char} {t : List Char} (u : List Char)
    (h : hasPlaceholder state t = false) :
    segmentsFrom state (t ++ u) = joinFirst t (segmentsFrom (scan state t) u) := by
  induction t generalizing state with
  | nil =>
    rw [List.nil_append, scan_nil]
    cases hs : segmentsFrom state u with
    | nil => exact absurd hs (segmentsFrom_ne_nil _ _)
    | cons s rest => rfl
  | cons c t ih =>
    rw [hasPlaceholder, Bool.or_eq_false_iff] at h
    rw [List.cons_append, segmentsFrom_cons _ h.1, ih h.2, scan_cons]
    cases segmentsFrom (scan (scanChar state c) t) u <;> rfl

theorem length_joinFirst {t : List Char} {segs : List (List Char)} (h : segs ≠ []) :
    (joinFirst t segs).length = segs.length := by
  obtain ⟨s, rest, rfl⟩ := List.exists_cons_of_ne_nil h
  rfl

theorem segmentsFrom_of_not_hasPlaceholder {state : Option Char} {t : List Char}
    (h : hasPlaceholder state t = false) : segmentsFrom state t = [t] := by
  have happ := segmentsFrom_append [] h
  simpa [segmentsFrom, joinFirst] using happ

end Text

namespace SqlServer.Plan

variable {t : List Char} {segs : List (List Char)} {vs : List String} {v : String}

theorem interleave_joinFirst (h : segs ≠ []) :
    interleave ((joinFirst t segs).map String.ofList) vs =
      String.ofList t ++ interleave (segs.map String.ofList) vs := by
  obtain ⟨s, rest, rfl⟩ := List.exists_cons_of_ne_nil h
  rw [joinFirst, List.map_cons, List.map_cons, String.ofList_append]
  cases rest with
  | nil => rfl
  | cons s' rest => cases vs <;> simp [interleave, String.append_assoc]

theorem interleave_placeholder (h : segs ≠ []) :
    interleave (([] :: segs).map String.ofList) (v :: vs) =
      v ++ interleave (segs.map String.ofList) vs := by
  obtain ⟨s, rest, rfl⟩ := List.exists_cons_of_ne_nil h
  simp [interleave]

end SqlServer.Plan

namespace Piece

def inline (d : Dialect) : Piece → Piece
  | .bind v => .text (d.quote v)
  | x => x

def IsSealed : Piece → Prop
  | .text s => Text.IsSealed s
  | .bind _ | .fault _ => True

end Piece

namespace Emission

variable (d : Dialect)

def inline (e : Emission) : Emission :=
  e.map (Piece.inline d)

def IsSealed (e : Emission) : Prop :=
  ∀ x ∈ e, x.IsSealed

@[simp] theorem inline_append (a b : Emission) : inline d (a ++ b) = inline d a ++ inline d b :=
  List.map_append

theorem binds_inline (e : Emission) : (inline d e).binds = [] := by
  simp only [binds, inline, List.filterMap_map, List.filterMap_eq_nil_iff]
  intro x _
  cases x <;> rfl

theorem isFaultless_inline {e : Emission} (h : e.IsFaultless) : (inline d e).IsFaultless := by
  refine List.forall_mem_map.2 fun x hx => ?_
  have hf := h x hx
  cases x with
  | text s => rfl
  | bind v => rfl
  | fault f => exact hf

variable {d} {e : Emission}

theorem interpolate_sql (h : e.IsSealed) :
    SqlServer.Plan.interpolate d (e.sql "?") e.binds = (inline d e).sql "?" := by
  unfold SqlServer.Plan.interpolate splitPlaceholders segments
  induction e with
  | nil => rfl
  | cons x e ih =>
    obtain ⟨hx, he⟩ := List.forall_mem_cons.1 h
    have ih := ih he
    have hne := segmentsFrom_ne_nil none (sql "?" e).toList
    rw [sql_cons, String.toList_append, inline, List.map_cons, sql_cons]
    cases x with
    | text s =>
      have hs : Text.IsSealed s := hx
      show SqlServer.Plan.interleave ((segmentsFrom none (s.toList ++ _)).map _) _ = _
      rw [segmentsFrom_append _ hs.hasPlaceholder_eq, hs.scan_eq,
        SqlServer.Plan.interleave_joinFirst hne, String.ofList_toList]
      exact congrArg (s ++ ·) ih
    | bind v =>
      have hq : (Piece.sql "?" (.bind v)).toList = ['?'] := by simp [Piece.sql]
      rw [hq, List.singleton_append, segmentsFrom_placeholder]
      show SqlServer.Plan.interleave (([] :: _).map _) (d.quote v :: _) = _
      rw [SqlServer.Plan.interleave_placeholder hne]
      exact congrArg (d.quote v ++ ·) ih
    | fault f =>
      rw [show ((Piece.fault f).inline d).sql "?" = "" from rfl, String.empty_append]
      exact ih

theorem length_segmentsFrom_sql (h : e.IsSealed) :
    (segmentsFrom none (e.sql "?").toList).length = e.binds.length + 1 := by
  induction e with
  | nil => rfl
  | cons x e ih =>
    obtain ⟨hx, he⟩ := List.forall_mem_cons.1 h
    have ih := ih he
    rw [sql_cons, String.toList_append]
    cases x with
    | text s =>
      have hs : Text.IsSealed s := hx
      show (segmentsFrom none (s.toList ++ _)).length = _
      rw [segmentsFrom_append _ hs.hasPlaceholder_eq, hs.scan_eq,
        length_joinFirst (segmentsFrom_ne_nil _ _), ih]
      rfl
    | bind v =>
      have hq : (Piece.sql "?" (.bind v)).toList = ['?'] := by simp [Piece.sql]
      rw [hq, List.singleton_append, segmentsFrom_placeholder]
      exact congrArg (· + 1) ih
    | fault f => exact ih

theorem placeholderCount_sql (h : e.IsSealed) : placeholderCount (e.sql "?") = e.binds.length := by
  rw [placeholderCount, splitPlaceholders, List.length_map, segments, length_segmentsFrom_sql h]
  rfl

end Emission

end PolySql

import Mathlib.Data.List.Basic
import Mathlib.Data.List.Forall2
import Mathlib.Data.String.Basic
import PolySql.Proofs.Inline.Emission

namespace PolySql.Text

def quotes : List (Char × Char) :=
  [('\'', '\''), ('"', '"'), ('[', ']')]

inductive IsOutside : List Char → Prop
  | nil : IsOutside []
  | plain {c : Char} {t : List Char} : (∀ close, (c, close) ∉ quotes) → IsOutside t → IsOutside (c :: t)
  | region {opening close : Char} {inner t : List Char} : (opening, close) ∈ quotes → close ∉ inner →
      IsOutside t → IsOutside (opening :: (inner ++ close :: t))

theorem regionEnd?_eq_some_iff {c close : Char} : regionEnd? c = some close ↔ (c, close) ∈ quotes := by
  unfold regionEnd? quotes
  simp only [List.mem_cons, Prod.mk.injEq, List.not_mem_nil, or_false]
  split
  · rename_i hc
    rcases hc with rfl | rfl <;> simp [eq_comm]
  · rename_i hc
    rw [not_or] at hc
    split
    · rename_i hopen
      subst hopen
      simp [eq_comm]
    · rename_i hopen
      simp [hc, hopen]

theorem regionEnd?_eq_none_iff {c : Char} : regionEnd? c = none ↔ ∀ close, (c, close) ∉ quotes := by
  simp only [Option.eq_none_iff_forall_ne_some, ne_eq, regionEnd?_eq_some_iff]

theorem isOutside_of_scan : (t : List Char) → scan none t = none → IsOutside t
  | [], _ => .nil
  | c :: t, h => by
    have hstate : scanChar none c = regionEnd? c := rfl
    cases hc : regionEnd? c with
    | none =>
      rw [scan_cons, hstate, hc] at h
      exact .plain (regionEnd?_eq_none_iff.1 hc) (isOutside_of_scan t h)
    | some close =>
      have hmem : close ∈ t := by
        by_contra hmem
        rw [scan_cons, hstate, hc, (scan_inside hmem).1] at h
        cases h
      obtain ⟨inner, rest, rfl, hinner⟩ := List.eq_append_cons_of_mem hmem
      rw [scan_region hc hinner] at h
      exact .region (regionEnd?_eq_some_iff.1 hc) hinner (isOutside_of_scan rest h)
termination_by t => t.length

theorem isOutside_iff {t : List Char} : IsOutside t ↔ scan none t = none := by
  refine ⟨fun h => ?_, isOutside_of_scan t⟩
  induction h with
  | nil => rfl
  | plain hc _ ih =>
    have hstate : scanChar none _ = none := regionEnd?_eq_none_iff.2 hc
    rw [scan_cons, hstate, ih]
  | region hopen hinner _ ih => rw [scan_region (regionEnd?_eq_some_iff.2 hopen) hinner, ih]

instance : DecidablePred IsOutside :=
  fun _ => decidable_of_iff _ isOutside_iff.symm

def freeMarks (t : List Char) : List Nat :=
  (List.range t.length).filter fun i => t[i]? = some '?' ∧ IsOutside (t.take i)

def marksFrom (state : Option Char) (t : List Char) : List Nat :=
  (List.range t.length).filter fun i => t[i]? = some '?' ∧ scan state (t.take i) = none

theorem freeMarks_eq (t : List Char) : freeMarks t = marksFrom none t := by
  simp only [freeMarks, marksFrom, isOutside_iff]

theorem marksFrom_cons (state : Option Char) (c : Char) (t : List Char) :
    marksFrom state (c :: t) = (if state = none ∧ c = '?' then [0] else []) ++
      (marksFrom (scanChar state c) t).map (· + 1) := by
  have hfirst : ((c :: t)[0]? = some '?' ∧ scan state ((c :: t).take 0) = none) ↔
      (state = none ∧ c = '?') := by
    simp [and_comm]
  rw [marksFrom, List.length_cons, List.range_succ_eq_map, List.filter_cons, List.filter_map]
  simp only [hfirst, decide_eq_true_eq]
  split
  · rfl
  · rfl

structure Span where
  start : String.Pos.Raw
  stop : String.Pos.Raw

def spansFrom (state : Option Char) (start index : String.Pos.Raw) : List Char → List Span
  | [] => [⟨start, index⟩]
  | c :: t =>
    if state = none ∧ c = '?' then ⟨start, index⟩ :: spansFrom none (index + c) (index + c) t
    else spansFrom (scanChar state c) start (index + c) t

def spans (s : String) : List Span :=
  spansFrom none 0 0 s.toList

def offset (t : List Char) (i : Nat) : String.Pos.Raw :=
  ⟨String.utf8Len (t.take i)⟩

theorem add_char_eq (front : List Char) (c : Char) :
    (⟨String.utf8Len front⟩ : String.Pos.Raw) + c = ⟨String.utf8Len (front ++ [c])⟩ := by
  rw [String.utf8Len_append, String.utf8Len_cons, String.utf8Len_nil, Nat.zero_add]
  rfl

theorem stop_spansFrom (state : Option Char) (start : String.Pos.Raw) (front t : List Char) :
    (spansFrom state start ⟨String.utf8Len front⟩ t).map Span.stop =
      ((marksFrom state t).map fun i => ⟨String.utf8Len (front ++ t.take i)⟩) ++
        [⟨String.utf8Len (front ++ t)⟩] := by
  induction t generalizing state start front with
  | nil => simp [spansFrom, marksFrom]
  | cons c t ih =>
    rw [marksFrom_cons, spansFrom, add_char_eq]
    split
    · rename_i hc
      obtain ⟨rfl, rfl⟩ := hc
      have hout : scanChar none '?' = none := by decide
      rw [List.map_cons, ih, hout]
      simp
    · rw [ih]
      simp

theorem isValid_utf8Len {s : String} {front rest : List Char} (h : s.toList = front ++ rest) :
    (⟨String.utf8Len front⟩ : String.Pos.Raw).IsValid s := by
  refine String.Pos.Raw.isValid_iff_exists_append.2 ⟨String.ofList front, String.ofList rest, ?_, ?_⟩
  · rw [← String.ofList_append, ← h, String.ofList_toList]
  · rw [String.rawEndPos_ofList]

def Covers (s : String) (span : Span) (segment : List Char) : Prop :=
  ∃ front rest, s.toList = front ++ segment ++ rest ∧
    span = ⟨⟨String.utf8Len front⟩, ⟨String.utf8Len (front ++ segment)⟩⟩

theorem Covers.isValid {s : String} {span : Span} {segment : List Char} (h : Covers s span segment) :
    span.start.IsValid s ∧ span.stop.IsValid s ∧ span.start ≤ span.stop := by
  obtain ⟨front, rest, hs, rfl⟩ := h
  refine ⟨isValid_utf8Len ((List.append_assoc ..) ▸ hs), isValid_utf8Len hs, ?_⟩
  rw [String.utf8Len_append]
  exact String.Pos.Raw.mk_le_mk.2 (Nat.le_add_right _ _)

theorem Covers.extract_eq {s : String} {span : Span} {segment : List Char} (h : Covers s span segment) :
    span.start.extract s span.stop = String.ofList segment := by
  obtain ⟨front, rest, hs, rfl⟩ := h
  rw [← String.ofList_toList (s := s), hs, String.utf8Len_append]
  exact String.extract_of_valid front segment rest

theorem joinFirst_nil {segs : List (List Char)} (h : segs ≠ []) : joinFirst [] segs = segs := by
  obtain ⟨u, rest, rfl⟩ := List.exists_cons_of_ne_nil h
  rfl

theorem joinFirst_joinFirst {p q : List Char} {segs : List (List Char)} (h : segs ≠ []) :
    joinFirst p (joinFirst q segs) = joinFirst (p ++ q) segs := by
  obtain ⟨u, rest, rfl⟩ := List.exists_cons_of_ne_nil h
  simp [joinFirst]

theorem covers_spansFrom {s : String} (front pending : List Char) {t : List Char}
    (hs : s.toList = front ++ pending ++ t) (state : Option Char) :
    List.Forall₂ (Covers s)
      (spansFrom state ⟨String.utf8Len front⟩ ⟨String.utf8Len (front ++ pending)⟩ t)
      (joinFirst pending (segmentsFrom state t)) := by
  induction t generalizing front pending state with
  | nil =>
    refine .cons ⟨front, [], ?_, ?_⟩ .nil
    · simpa using hs
    · rw [List.append_nil]
  | cons c t ih =>
    rw [spansFrom, add_char_eq]
    split
    · rename_i hc
      obtain ⟨rfl, rfl⟩ := hc
      have hrest := ih (front ++ pending ++ ['?']) [] (by simpa using hs) none
      rw [List.append_nil, joinFirst_nil (segmentsFrom_ne_nil _ _)] at hrest
      rw [segmentsFrom_placeholder, joinFirst, List.append_nil]
      exact .cons ⟨front, '?' :: t, hs, rfl⟩ hrest
    · rename_i hc
      have hcut : (state.isNone && c == '?') = false := by
        simpa [Option.isNone_iff_eq_none] using hc
      rw [segmentsFrom_cons t hcut, joinFirst_joinFirst (segmentsFrom_ne_nil _ _), List.append_assoc]
      exact ih front (pending ++ [c]) (by simpa using hs) _

theorem covers_spans (s : String) : List.Forall₂ (Covers s) (spans s) (segments s.toList) := by
  have h := covers_spansFrom (s := s) [] [] rfl none
  rwa [joinFirst_nil (segmentsFrom_ne_nil _ _)] at h

theorem isValid_of_mem_spans {s : String} :
    ∀ span ∈ spans s, span.start.IsValid s ∧ span.stop.IsValid s ∧ span.start ≤ span.stop :=
  ((List.forall₂_and_left _ _).1 ((covers_spans s).imp fun _ _ h => ⟨h.isValid, h⟩)).1

theorem splitPlaceholders_eq_map_extract (s : String) :
    splitPlaceholders s = (spans s).map fun span => span.start.extract s span.stop := by
  have hextract : List.Forall₂ Eq ((spans s).map fun span => span.start.extract s span.stop)
      ((segments s.toList).map String.ofList) :=
    List.forall₂_map_left_iff.2 (List.forall₂_map_right_iff.2
      ((covers_spans s).imp fun _ _ h => h.extract_eq))
  rw [List.forall₂_eq_eq_eq] at hextract
  exact hextract.symm

theorem map_stop_spans (s : String) :
    (spans s).map Span.stop = (freeMarks s.toList).map (offset s.toList) ++ [s.rawEndPos] := by
  have hend : s.rawEndPos = ⟨String.utf8Len s.toList⟩ := by
    rw [← String.rawEndPos_ofList, String.ofList_toList]
  rw [freeMarks_eq, hend]
  exact stop_spansFrom none 0 [] s.toList

theorem joined_joinFirst {sep : String} {p : List Char} {segs : List (List Char)} (h : segs ≠ []) :
    joined sep ((joinFirst p segs).map String.ofList) =
      String.ofList p ++ joined sep (segs.map String.ofList) := by
  obtain ⟨u, rest, rfl⟩ := List.exists_cons_of_ne_nil h
  rw [joinFirst, List.map_cons, List.map_cons, String.ofList_append]
  exact joined_append_cons ..

theorem joined_segmentsFrom (state : Option Char) (t : List Char) :
    joined "?" ((segmentsFrom state t).map String.ofList) = String.ofList t := by
  induction t generalizing state with
  | nil => rfl
  | cons c t ih =>
    by_cases hc : (state.isNone && c == '?') = false
    · rw [segmentsFrom_cons t hc, joined_joinFirst (segmentsFrom_ne_nil _ _), ih, ← String.ofList_append]
      rfl
    · rw [Bool.not_eq_false, Bool.and_eq_true, Option.isNone_iff_eq_none, beq_iff_eq] at hc
      obtain ⟨rfl, rfl⟩ := hc
      obtain ⟨u, rest, hrest⟩ := List.exists_cons_of_ne_nil (segmentsFrom_ne_nil none t)
      have htail := ih none
      rw [hrest, List.map_cons] at htail
      rw [segmentsFrom_placeholder, hrest, List.map_cons, List.map_cons, joined_cons_cons, htail]
      simp

theorem splitPlaceholders_at_freeMarks (s : String) :
    joined "?" (splitPlaceholders s) = s ∧
      (∀ span ∈ spans s, span.start.IsValid s ∧ span.stop.IsValid s ∧ span.start ≤ span.stop) ∧
      splitPlaceholders s = (spans s).map (fun span => span.start.extract s span.stop) ∧
      (spans s).map Span.stop = (freeMarks s.toList).map (offset s.toList) ++ [s.rawEndPos] ∧
      (splitPlaceholders s).length = (freeMarks s.toList).length + 1 := by
  refine ⟨?_, isValid_of_mem_spans, splitPlaceholders_eq_map_extract s, map_stop_spans s, ?_⟩
  · exact (joined_segmentsFrom none s.toList).trans String.ofList_toList
  · have hlength := congrArg List.length (map_stop_spans s)
    rw [List.length_map, List.length_append, List.length_map] at hlength
    rw [splitPlaceholders_eq_map_extract, List.length_map, hlength]
    rfl

example : freeMarks "a['?] = ? OR 'é?".toList = [8] := by decide

end PolySql.Text

import PolySql.Dialect.Sqlite
import PolySql.Proofs.Inline.Emission
import PolySql.Proofs.Text.Literal

namespace PolySql

open Text

namespace Text

inductive IsCut : Option Char → List (List Char) → Prop
  | last {state : Option Char} {s : List Char} : hasPlaceholder state s = false → IsCut state [s]
  | cons {state : Option Char} {s : List Char} {rest : List (List Char)} :
      hasPlaceholder state s = false → scan state s = none → IsCut none rest →
      IsCut state (s :: rest)

theorem IsCut.cons_char {state : Option Char} {c : Char} {segs : List (List Char)}
    (hc : (state.isNone && c == '?') = false) (h : IsCut (scanChar state c) segs) :
    IsCut state (joinFirst [c] segs) := by
  have hfirst {s : List Char} (hs : hasPlaceholder (scanChar state c) s = false) :
      hasPlaceholder state (c :: s) = false := by
    rw [hasPlaceholder, hc, hs]
    rfl
  cases h with
  | last hs => exact .last (hfirst hs)
  | cons hs hscan hrest => exact .cons (hfirst hs) hscan hrest

theorem isCut_segmentsFrom (state : Option Char) (t : List Char) :
    IsCut state (segmentsFrom state t) := by
  induction t generalizing state with
  | nil => exact .last rfl
  | cons c t ih =>
    by_cases hc : state = none ∧ c = '?'
    · obtain ⟨rfl, rfl⟩ := hc
      rw [segmentsFrom_placeholder]
      exact .cons rfl rfl (ih none)
    · have hc : (state.isNone && c == '?') = false := by
        simpa [Option.isNone_iff_eq_none] using hc
      rw [segmentsFrom_cons t hc]
      exact (ih _).cons_char hc

theorem IsCut.ne_nil {state : Option Char} {segs : List (List Char)} (h : IsCut state segs) :
    segs ≠ [] := by
  cases h <;> exact List.cons_ne_nil _ _

theorem IsCut.scan_getElem {segs : List (List Char)} (h : IsCut none segs) {i : Nat}
    (hi : i + 1 < segs.length) : scan none segs[i] = none := by
  generalize hstate : (none : Option Char) = state at h
  induction h generalizing i with
  | last => simp at hi
  | cons hs hscan hrest ih =>
    subst hstate
    cases i with
    | zero => exact hscan
    | succ i => exact ih (Nat.lt_of_succ_lt_succ hi) rfl

end Text

namespace SqlServer.Plan

def front : List String → List String → Nat → String
  | s :: rest, v :: vs, i + 1 => s ++ v ++ front rest vs i
  | s :: rest, [], i + 1 => s ++ "?" ++ front rest [] i
  | _, _, _ => ""

structure IsSeam (segs vs : List String) (text : String) (i : Nat) (hi : i < segs.length) : Prop where
  found : ∃ rest, text = front segs vs i ++ segs[i] ++ rest
  starts_outside : scan none (front segs vs i).toList = none
  followed : front segs vs (i + 1) = front segs vs i ++ segs[i] ++ vs[i]?.getD "?"
  ends_outside : i + 1 < segs.length → scan none (front segs vs i ++ segs[i]).toList = none

section Segments
variable {segs : List String} {vs : List String}

@[simp] theorem interleave_cons_nil (s : String) (h : segs ≠ []) :
    interleave (s :: segs) [] = s ++ "?" ++ interleave segs [] := by
  obtain ⟨s', rest, rfl⟩ := List.exists_cons_of_ne_nil h
  rfl

@[simp] theorem interleave_cons_cons (s v : String) (h : segs ≠ []) :
    interleave (s :: segs) (v :: vs) = s ++ v ++ interleave segs vs := by
  obtain ⟨s', rest, rfl⟩ := List.exists_cons_of_ne_nil h
  rfl

theorem interleave_eq_front_append {i : Nat} (h : i < segs.length) :
    interleave segs vs = front segs vs i ++ interleave (segs.drop i) (vs.drop i) := by
  induction segs generalizing vs i with
  | nil => cases h
  | cons s segs ih =>
    cases i with
    | zero => simp [front]
    | succ i =>
      have h : i < segs.length := Nat.lt_of_succ_lt_succ h
      have hne : segs ≠ [] := List.ne_nil_of_length_pos (Nat.zero_lt_of_lt h)
      cases vs with
      | nil => rw [interleave_cons_nil s hne, front, ih h]; simp [String.append_assoc]
      | cons v vs => rw [interleave_cons_cons s v hne, front, ih h]; simp [String.append_assoc]

theorem front_succ {i : Nat} (h : i < segs.length) :
    front segs vs (i + 1) = front segs vs i ++ segs[i] ++ vs[i]?.getD "?" := by
  induction segs generalizing vs i with
  | nil => cases h
  | cons s segs ih =>
    cases i with
    | zero => cases vs <;> simp [front]
    | succ i =>
      have h : i < segs.length := Nat.lt_of_succ_lt_succ h
      cases vs with
      | nil => rw [front, ih h]; simp [front, String.append_assoc]
      | cons v vs => rw [front, ih h]; simp [front, String.append_assoc]

theorem exists_interleave_eq_append (s : String) (segs vs : List String) :
    ∃ rest, interleave (s :: segs) vs = s ++ rest := by
  cases segs with
  | nil => exact ⟨"", by simp [interleave]⟩
  | cons s' segs =>
    cases vs with
    | nil => exact ⟨_, String.append_assoc ..⟩
    | cons v vs => exact ⟨_, String.append_assoc ..⟩

end Segments

section Scan
variable {segs : List (List Char)} {vs : List String}

theorem scan_front (hcut : IsCut none segs) (hvs : ∀ v ∈ vs, IsSealed v) {i : Nat}
    (hi : i < segs.length) :
    scan none (front (segs.map String.ofList) vs i).toList = none := by
  induction i with
  | zero => simp [front]
  | succ i ih =>
    have hfront := ih (Nat.lt_of_succ_lt hi)
    have hseg := hcut.scan_getElem hi
    have hgap : scan none (vs[i]?.getD "?").toList = none := by
      cases hv : vs[i]? with
      | none => rfl
      | some v => exact (hvs v (List.mem_of_getElem? hv)).scan_eq
    rw [front_succ (by simpa using Nat.lt_of_succ_lt hi)]
    simp [scan_append, hfront, hseg, hgap]

theorem isSeam_interleave (hcut : IsCut none segs) (hvs : ∀ v ∈ vs, IsSealed v) {i : Nat}
    (hi : i < (segs.map String.ofList).length) :
    IsSeam (segs.map String.ofList) vs (interleave (segs.map String.ofList) vs) i hi := by
  have hstart : scan none (front (segs.map String.ofList) vs i).toList = none :=
    scan_front hcut hvs (by simpa using hi)
  refine ⟨?_, hstart, front_succ hi, fun hnext => ?_⟩
  · obtain ⟨rest, hrest⟩ := exists_interleave_eq_append (segs.map String.ofList)[i]
      ((segs.map String.ofList).drop (i + 1)) (vs.drop i)
    refine ⟨rest, ?_⟩
    calc interleave (segs.map String.ofList) vs
        = front (segs.map String.ofList) vs i ++
            interleave ((segs.map String.ofList).drop i) (vs.drop i) :=
          interleave_eq_front_append hi
      _ = front (segs.map String.ofList) vs i ++ (segs.map String.ofList)[i] ++ rest := by
          rw [List.drop_eq_getElem_cons hi, hrest, String.append_assoc]
  · have hseg := hcut.scan_getElem (i := i) (by simpa using hnext)
    rw [String.toList_append, scan_append, hstart]
    simpa using hseg

theorem segmentsFrom_append_placeholder {state : Option Char} {s : List Char}
    (hs : hasPlaceholder state s = false) (hscan : scan state s = none) (t : List Char) :
    segmentsFrom state (s ++ '?' :: t) = s :: segmentsFrom none t := by
  rw [segmentsFrom_append _ hs, hscan, segmentsFrom_placeholder, joinFirst, List.append_nil]

theorem segmentsFrom_append_sealed {state : Option Char} {s : List Char} {v : String}
    (hs : hasPlaceholder state s = false) (hscan : scan state s = none) (hv : IsSealed v)
    (t : List Char) :
    segmentsFrom state (s ++ v.toList ++ t) = joinFirst (s ++ v.toList) (segmentsFrom none t) := by
  have hnone : hasPlaceholder state (s ++ v.toList) = false := by
    rw [hasPlaceholder_append, hs, hscan, hv.hasPlaceholder_eq, Bool.or_false]
  rw [segmentsFrom_append _ hnone, scan_append, hscan, hv.scan_eq]

theorem segmentsFrom_interleave {state : Option Char} (hcut : IsCut state segs)
    (hvs : ∀ v ∈ vs, IsSealed v) :
    (segmentsFrom state (interleave (segs.map String.ofList) vs).toList).map String.ofList =
      interleave ((segs.map String.ofList).take (vs.length + 1)) vs ::
        (segs.map String.ofList).drop (vs.length + 1) := by
  induction hcut generalizing vs with
  | @last state s hs =>
    simp [interleave, segmentsFrom_of_not_hasPlaceholder hs]
  | @cons state s rest hs hscan hrest ih =>
    have hne : rest.map String.ofList ≠ [] := by simpa using hrest.ne_nil
    cases vs with
    | nil =>
      have htail := ih hvs
      have htext : (interleave ((s :: rest).map String.ofList) []).toList =
          s ++ '?' :: (interleave (rest.map String.ofList) []).toList := by
        rw [List.map_cons, interleave_cons_nil _ hne]
        simp
      obtain ⟨r, rest', hr⟩ := List.exists_cons_of_ne_nil hne
      rw [htext, segmentsFrom_append_placeholder hs hscan, List.map_cons, htail]
      simp [interleave, hr]
    | cons v vs =>
      obtain ⟨hv, hvs⟩ := List.forall_mem_cons.1 hvs
      have htail := ih hvs
      have htext : (interleave ((s :: rest).map String.ofList) (v :: vs)).toList =
          s ++ v.toList ++ (interleave (rest.map String.ofList) vs).toList := by
        rw [List.map_cons, interleave_cons_cons _ _ hne]
        simp
      obtain ⟨u, us, hu⟩ := List.exists_cons_of_ne_nil
        (segmentsFrom_ne_nil none (interleave (rest.map String.ofList) vs).toList)
      rw [hu, List.map_cons, List.cons.injEq] at htail
      have htake : (rest.map String.ofList).take (vs.length + 1) ≠ [] := by simpa using hrest.ne_nil
      rw [htext, segmentsFrom_append_sealed hs hscan hv, hu, List.map_cons, List.length_cons,
        List.take_succ_cons, List.drop_succ_cons, interleave_cons_cons _ _ htake, ← htail.1, ← htail.2]
      simp [joinFirst, String.append_assoc]

end Scan

variable {d : Dialect} (hd : d.HasStandardLiterals) (sql : String) (binds : List Value)
include hd

theorem splitPlaceholders_interpolate :
    splitPlaceholders (interpolate d sql binds) =
      interleave ((splitPlaceholders sql).take (binds.length + 1)) (binds.map d.quote) ::
        (splitPlaceholders sql).drop (binds.length + 1) := by
  have hsealed : ∀ v ∈ binds.map d.quote, IsSealed v :=
    List.forall_mem_map.2 fun v _ => hd.isSealed_quote v
  have hsplit := segmentsFrom_interleave (isCut_segmentsFrom none sql.toList) hsealed
  rw [List.length_map] at hsplit
  exact hsplit

theorem placeholderCount_interpolate :
    placeholderCount (interpolate d sql binds) = placeholderCount sql - binds.length := by
  rw [placeholderCount, splitPlaceholders_interpolate hd, placeholderCount, List.length_cons,
    List.length_drop]
  omega

theorem interpolate_keeps_segments :
    placeholderCount (interpolate d sql binds) = placeholderCount sql - binds.length ∧
    splitPlaceholders (interpolate d sql binds) =
      interleave ((splitPlaceholders sql).take (binds.length + 1)) (binds.map d.quote) ::
        (splitPlaceholders sql).drop (binds.length + 1) ∧
    (∀ v ∈ binds, IsSealed (d.quote v)) ∧
    ∀ (i : Nat) (hi : i < (splitPlaceholders sql).length),
      IsSeam (splitPlaceholders sql) (binds.map d.quote) (interpolate d sql binds) i hi := by
  refine ⟨placeholderCount_interpolate hd sql binds, splitPlaceholders_interpolate hd sql binds,
    fun v _ => hd.isSealed_quote v, fun i hi => ?_⟩
  exact isSeam_interleave (isCut_segmentsFrom none sql.toList)
    (List.forall_mem_map.2 fun v _ => hd.isSealed_quote v) hi

omit hd in
theorem interpolate_keeps_segments_apostrophe :
    interpolate Sqlite.dialect "name = ? AND note = '?' AND age = ?" [.text "' OR 1 = ?"] =
      "name = ''' OR 1 = ?' AND note = '?' AND age = ?" ∧
    placeholderCount (interpolate Sqlite.dialect "name = ? AND note = '?' AND age = ?"
      [.text "' OR 1 = ?"]) = 1 ∧ IsSealed (Sqlite.dialect.quote (.text "' OR 1 = ?")) := by
  obtain ⟨hcount, -, hsealed, -⟩ := interpolate_keeps_segments (d := Sqlite.dialect) ⟨rfl, rfl⟩
    "name = ? AND note = '?' AND age = ?" [.text "' OR 1 = ?"]
  exact ⟨by decide +kernel, hcount.trans (by decide), hsealed _ (List.mem_singleton_self _)⟩

end SqlServer.Plan

end PolySql

import Mathlib.Data.List.Basic
import PolySql.Proofs.Condition.Lexer
import PolySql.Proofs.Text.Literal

namespace PolySql.Text

open Condition

def regionOf (c : Char) : Region :=
  (regionEnd? c).elim .outside .inside

def regionBehind : Region → Char → Region
  | .outside, c => regionOf c
  | .inside close, c => if c = close then .closed close else .inside close
  | .closed close, c => if c = close then .inside close else regionOf c

def commentFrom (r : Region) : List Char → Bool
  | [] => false
  | c :: t => (!r.isInside && c == '-' && t.head? == some '-') || commentFrom (regionBehind r c) t

def hasComment (s : String) : Bool :=
  commentFrom .outside s.toList

structure IsSeparate (s : String) : Prop where
  head? : s.toList.head? ≠ some ']'
  getLast? : s.toList.getLast? ≠ some '-'
  isShut : (s.toList.foldl regionBehind .outside).IsShut

section Shut
variable {r : Region} {c : Char} {t u : List Char}

theorem regionBehind_of_isShut (hr : r.IsShut) (hc : c ≠ ']') : regionBehind r c = regionOf c := by
  rcases hr with rfl | ⟨close, hclose, rfl⟩
  · rfl
  · show (if c = close then Region.inside close else regionOf c) = regionOf c
    split
    · rename_i heq
      subst heq
      simp only [List.mem_cons, List.not_mem_nil, or_false] at hclose
      rcases hclose with rfl | rfl | rfl
      · rfl
      · rfl
      · exact absurd rfl hc
    · rfl

theorem commentFrom_of_isShut (hr : r.IsShut) (ht : t.head? ≠ some ']') :
    commentFrom r t = commentFrom .outside t := by
  have hinside : r.isInside = false := by
    rcases hr with rfl | ⟨close, -, rfl⟩ <;> rfl
  cases t with
  | nil => rfl
  | cons c t =>
    have hc : c ≠ ']' := fun heq => ht (congrArg some heq)
    rw [commentFrom, commentFrom, hinside, regionBehind_of_isShut hr hc]
    rfl

theorem isShut_foldl (hr : r.IsShut) (ht : t.head? ≠ some ']')
    (h : (t.foldl regionBehind .outside).IsShut) : (t.foldl regionBehind r).IsShut := by
  cases t with
  | nil => exact hr
  | cons c t =>
    have hc : c ≠ ']' := fun heq => ht (congrArg some heq)
    rw [List.foldl_cons, regionBehind_of_isShut hr hc]
    exact h

theorem commentFrom_append (ht : t.getLast? ≠ some '-') :
    commentFrom r (t ++ u) = (commentFrom r t || commentFrom (t.foldl regionBehind r) u) := by
  induction t generalizing r with
  | nil => rfl
  | cons c t ih =>
    cases t with
    | nil =>
      have hc : c ≠ '-' := fun heq => ht (congrArg some heq)
      simp [commentFrom, hc]
    | cons x t =>
      have hcons (v : List Char) : commentFrom r (c :: v) =
          ((!r.isInside && c == '-' && v.head? == some '-') || commentFrom (regionBehind r c) v) := rfl
      rw [List.getLast?_cons_cons] at ht
      rw [List.cons_append, hcons, hcons, ih ht, List.foldl_cons, Bool.or_assoc]
      rfl

end Shut

section Append
variable {s t : String}

theorem IsSeparate.append (hs : IsSeparate s) (ht : IsSeparate t) : IsSeparate (s ++ t) where
  head? := by
    rw [String.toList_append, List.head?_append]
    have hhead := hs.head?
    cases h : s.toList.head? with
    | none => exact ht.head?
    | some c =>
      rw [h] at hhead
      exact hhead
  getLast? := by
    rw [String.toList_append, List.getLast?_append]
    have hlast := ht.getLast?
    cases h : t.toList.getLast? with
    | none => exact hs.getLast?
    | some c =>
      rw [h] at hlast
      exact hlast
  isShut := by
    rw [String.toList_append, List.foldl_append]
    exact isShut_foldl hs.isShut ht.head? ht.isShut

theorem hasComment_append (hs : IsSeparate s) (ht : t.toList.head? ≠ some ']') :
    hasComment (s ++ t) = (hasComment s || hasComment t) := by
  rw [hasComment, String.toList_append, commentFrom_append hs.getLast?,
    commentFrom_of_isShut hs.isShut ht]
  rfl

end Append

structure IsUncommented (s : String) : Prop where
  isSeparate : IsSeparate s
  hasComment_eq : hasComment s = false

section Uncommented
variable {s t : String}

theorem IsUncommented.append (hs : IsUncommented s) (ht : IsUncommented t) :
    IsUncommented (s ++ t) where
  isSeparate := hs.isSeparate.append ht.isSeparate
  hasComment_eq := by
    rw [hasComment_append hs.isSeparate ht.isSeparate.head?, hs.hasComment_eq, ht.hasComment_eq]
    rfl

theorem foldl_of_isTame {t : List Char} (h : t.all isTameChar = true) :
    t.foldl regionBehind .outside = .outside ∧ commentFrom .outside t = false := by
  induction t with
  | nil => exact ⟨rfl, rfl⟩
  | cons c t ih =>
    rw [List.all_cons, Bool.and_eq_true, isTameChar_iff] at h
    obtain ⟨⟨hplain, hdash, -⟩, ht⟩ := h
    have hregion : regionBehind .outside c = .outside := by
      have hend : regionEnd? c = none := by
        rw [isPlainChar, Bool.and_eq_true] at hplain
        simpa using hplain.2
      rw [regionBehind, regionOf, hend]
      rfl
    rw [List.foldl_cons, commentFrom, hregion, (ih ht).1, (ih ht).2]
    simp [hdash]

theorem isUncommented_of_isTame (h : isTame s = true) : IsUncommented s := by
  obtain ⟨hregion, hcomment⟩ := foldl_of_isTame h
  have hne {c : Char} (hc : c ∈ s.toList) : c ≠ '-' ∧ c ≠ ']' :=
    (isTameChar_iff.1 (List.all_eq_true.1 h c hc)).2
  refine ⟨⟨fun heq => ?_, fun heq => ?_, .inl hregion⟩, hcomment⟩
  · exact (hne (List.mem_of_head? heq)).2 rfl
  · exact (hne (List.mem_of_getLast? heq)).1 rfl

theorem isUncommented_joined {ss : List String} {sep : String} (hsep : IsUncommented sep)
    (h : ∀ s ∈ ss, IsUncommented s) : IsUncommented (joined sep ss) :=
  joined_of_append (isUncommented_of_isTame rfl) IsUncommented.append hsep h

end Uncommented

theorem mem_of_regionEnd? {opening close : Char} (h : regionEnd? opening = some close) :
    close ∈ ['\'', '"', ']'] := by
  unfold regionEnd? at h
  split at h
  · rename_i hc
    cases h
    rcases hc with rfl | rfl <;> decide
  · split at h
    · cases h
      decide
    · cases h

theorem foldl_double (close : Char) (t : List Char) :
    (double close t ++ [close]).foldl regionBehind (.inside close) = .closed close := by
  induction t with
  | nil => simp [double, regionBehind]
  | cons c t ih =>
    unfold double
    split
    · simpa [regionBehind] using ih
    · rename_i hc
      simpa [regionBehind, hc] using ih

theorem commentFrom_double {close : Char} (hclose : close ≠ '-') (t : List Char) :
    commentFrom (.inside close) (double close t ++ [close]) = false := by
  induction t with
  | nil => simp [double, commentFrom, Region.isInside]
  | cons c t ih =>
    unfold double
    split
    · simpa [commentFrom, regionBehind, Region.isInside, hclose] using ih
    · rename_i hc
      simpa [commentFrom, regionBehind, Region.isInside, hc] using ih

theorem isUncommented_quoteBetween {opening close : Char} (h : regionEnd? opening = some close)
    (s : String) : IsUncommented (quoteBetween opening close s) := by
  have hmem := mem_of_regionEnd? h
  have hclose : close ≠ '-' := by
    rintro rfl
    exact absurd hmem (by decide)
  have hregion : regionBehind .outside opening = .inside close := by
    rw [regionBehind, regionOf, h]
    rfl
  have hopening : opening ≠ ']' ∧ opening ≠ '-' := by
    constructor <;> (rintro rfl; simp [regionEnd?] at h)
  unfold quoteBetween
  refine ⟨⟨?_, ?_, ?_⟩, ?_⟩
  · rw [String.toList_ofList]
    exact fun heq => hopening.1 (Option.some.inj heq)
  · rw [String.toList_ofList, ← List.cons_append, List.getLast?_concat]
    exact fun heq => hclose (Option.some.inj heq)
  · rw [String.toList_ofList, List.foldl_cons, hregion, foldl_double]
    exact .inr ⟨close, hmem, rfl⟩
  · rw [hasComment, String.toList_ofList, commentFrom, hregion, commentFrom_double hclose]
    simp [hopening.2]

theorem isUncommented_quoteString (s : String) : IsUncommented (quoteString s) :=
  isUncommented_quoteBetween (show regionEnd? '\'' = some '\'' from rfl) s

theorem hasComment_sign (s : String) :
    hasComment ("-" ++ s) = (s.toList.head? == some '-' || hasComment s) := by
  rw [hasComment, String.toList_append]
  rfl

theorem IsSeparate.sign {s : String} (h : IsSeparate s) (hne : s ≠ "") : IsSeparate ("-" ++ s) where
  head? := by
    rw [String.toList_append]
    exact fun heq => absurd (Option.some.inj heq) (by decide)
  getLast? := by
    rw [String.toList_append, List.getLast?_append_of_ne_nil _ (mt String.toList_eq_nil_iff.1 hne)]
    exact h.getLast?
  isShut := by
    rw [String.toList_append]
    exact h.isShut

theorem isUncommented_of_isSigned {s : String} (h : IsSigned isTameChar s) : IsUncommented s := by
  obtain ⟨m, hne, hm, rfl | rfl⟩ := h
  · exact isUncommented_of_isTame hm
  · have hm' := isUncommented_of_isTame hm
    have hhead : m.toList.head? ≠ some '-' := fun heq =>
      (isTameChar_iff.1 (List.all_eq_true.1 hm _ (List.mem_of_head? heq))).2.1 rfl
    refine ⟨hm'.isSeparate.sign hne, ?_⟩
    rw [hasComment_sign, hm'.hasComment_eq, Bool.or_false, beq_eq_false_iff_ne]
    exact hhead

theorem isUncommented_of_isLiteral {s : String} (h : IsLiteral s) : IsUncommented s := by
  cases h with
  | number h => exact isUncommented_of_isSigned h
  | string s hbefore hafter =>
    exact ((isUncommented_of_isTame hbefore).append (isUncommented_quoteString s)).append
      (isUncommented_of_isTame hafter)

end PolySql.Text

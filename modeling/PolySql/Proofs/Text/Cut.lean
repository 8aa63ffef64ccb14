import Mathlib.Data.List.Forall2
import PolySql.Text.Blank
import PolySql.Text.Cut
import PolySql.Text.Phrase

namespace PolySql.Text

theorem span_append {P : Char → Bool} {w r : List Char} (hw : ∀ c ∈ w, P c = true)
    (hr : ∀ c ∈ r.head?, P c = false) :
    (w ++ r).takeWhile P = w ∧ (w ++ r).dropWhile P = r := by
  rw [List.takeWhile_append_of_pos hw, List.dropWhile_append_of_pos hw]
  cases r with
  | nil => simp
  | cons c r => simp [hr c rfl]

theorem trimStart_of_head? {t : List Char} (h : ∀ c ∈ t.head?, isBlank c = false) :
    trimStart t = t := by
  cases t with
  | nil => rfl
  | cons c t => exact List.dropWhile_cons_of_neg (by simp [h c rfl])

theorem trimStart_append {gap : List Char} (hgap : gap.all isBlank = true) (t : List Char) :
    trimStart (gap ++ t) = trimStart t :=
  List.dropWhile_append_of_pos (List.all_eq_true.1 hgap)

theorem trimEnd_of_getLast? {t : List Char} (h : ∀ c ∈ t.getLast?, isBlank c = false) :
    trimEnd t = t := by
  rw [List.getLast?_eq_head?_reverse] at h
  show (trimStart t.reverse).reverse = t
  rw [trimStart_of_head? h, List.reverse_reverse]

theorem head?_trimStart {t : List Char} : ∀ c ∈ (trimStart t).head?, isBlank c = false := by
  intro c hc
  have hhead := List.head?_dropWhile_not isBlank t
  rw [trimStart] at hc
  rw [hc] at hhead
  simpa using hhead

theorem exists_trimStart_eq (t : List Char) :
    ∃ back, trimStart t = trim t ++ back ∧ back.all isBlank = true := by
  refine ⟨((trimStart t).reverse.takeWhile isBlank).reverse, ?_, ?_⟩
  · rw [trim, trimEnd, ← List.reverse_append, List.takeWhile_append_dropWhile, List.reverse_reverse]
  · rw [List.all_reverse]
    exact List.all_takeWhile

theorem exists_append_trim (t : List Char) :
    ∃ front back, t = front ++ trim t ++ back ∧ front.all isBlank = true ∧ back.all isBlank = true := by
  obtain ⟨back, hback, hblank⟩ := exists_trimStart_eq t
  refine ⟨t.takeWhile isBlank, back, ?_, List.all_takeWhile, hblank⟩
  rw [List.append_assoc, ← hback]
  exact List.takeWhile_append_dropWhile.symm

theorem mem_of_mem_trim {c : Char} {t : List Char} (h : c ∈ trim t) : c ∈ t := by
  obtain ⟨front, back, ht, -, -⟩ := exists_append_trim t
  rw [ht]
  simp [h]

theorem mem_trim {c : Char} {t : List Char} (hc : isBlank c = false) (h : c ∈ t) : c ∈ trim t := by
  obtain ⟨front, back, ht, hfront, hback⟩ := exists_append_trim t
  have hne {b : List Char} (hb : b.all isBlank = true) : c ∉ b := by
    intro hmem
    have hblank := List.all_eq_true.1 hb c hmem
    rw [hc] at hblank
    cases hblank
  rw [ht] at h
  simpa [hne hfront, hne hback] using h

structure HasBareEnds (t : List Char) : Prop where
  ne_nil : t ≠ []
  head? : ∀ c ∈ t.head?, isBlank c = false
  getLast? : ∀ c ∈ t.getLast?, isBlank c = false

theorem hasBareEnds_of_all {t : List Char} (hne : t ≠ []) (h : t.all (fun c => !isBlank c) = true) :
    HasBareEnds t := by
  have hblank : ∀ c ∈ t, isBlank c = false := fun c hc => by
    simpa using List.all_eq_true.1 h c hc
  exact ⟨hne, fun c hc => hblank c (List.mem_of_head? hc), fun c hc => hblank c (List.mem_of_getLast? hc)⟩

theorem HasBareEnds.trim_eq {t : List Char} (h : HasBareEnds t) : trim t = t := by
  rw [trim, trimStart_of_head? h.head?, trimEnd_of_getLast? h.getLast?]

theorem trim_of_all {t : List Char} (h : t.all (fun c => !isBlank c) = true) : trim t = t := by
  by_cases hne : t = []
  · rw [hne]
    rfl
  · exact (hasBareEnds_of_all hne h).trim_eq

theorem hasBareEnds_trim {t : List Char} (h : trim t ≠ []) : HasBareEnds (trim t) where
  ne_nil := h
  head? := by
    intro c hc
    obtain ⟨back, hback, -⟩ := exists_trimStart_eq t
    refine head?_trimStart (t := t) c ?_
    rwa [hback, List.head?_append_of_ne_nil _ h]
  getLast? := by
    intro c hc
    rw [trim, trimEnd, List.getLast?_reverse] at hc
    exact head?_trimStart c hc

theorem hasBareEnds_of_trimmed_eq {s : String} (hne : s ≠ "") (h : trimmed s = s) :
    HasBareEnds s.toList := by
  have htrim : trim s.toList = s.toList := by
    rw [← String.toList_ofList (l := trim s.toList)]
    exact congrArg String.toList h
  have hnil : trim s.toList ≠ [] := fun hnil => hne (String.toList_eq_nil_iff.1 (htrim ▸ hnil))
  rw [← htrim]
  exact hasBareEnds_trim hnil

theorem hasBareEnds_between {a b : Char} (ha : isBlank a = false) (hb : isBlank b = false)
    (t : List Char) : HasBareEnds (a :: (t ++ [b])) where
  ne_nil := List.cons_ne_nil _ _
  head? := by
    rintro c ⟨⟩
    exact ha
  getLast? := by
    rw [← List.cons_append, List.getLast?_concat]
    rintro c ⟨⟩
    exact hb

theorem HasBareEnds.append {t u : List Char} (ht : HasBareEnds t) (hu : HasBareEnds u)
    (v : List Char) : HasBareEnds (t ++ v ++ u) where
  ne_nil := List.append_ne_nil_of_right_ne_nil _ hu.ne_nil
  head? := by
    rw [List.append_assoc, List.head?_append_of_ne_nil _ ht.ne_nil]
    exact ht.head?
  getLast? := by
    rw [List.getLast?_append_of_ne_nil _ hu.ne_nil]
    exact hu.getLast?

section Ends
variable {p q t u : List Char}

theorem dropPrefixBy?_eq_some_iff {same : Char → Char → Bool} {w r : List Char} :
    dropPrefixBy? same w t = some r ↔ ∃ p, List.Forall₂ (fun k c => same k c = true) w p ∧ t = p ++ r := by
  induction w generalizing t with
  | nil =>
    rw [dropPrefixBy?]
    constructor
    · exact fun h => ⟨[], .nil, Option.some.inj h⟩
    · rintro ⟨_, ⟨⟩, rfl⟩
      rfl
  | cons k w ih =>
    cases t with
    | nil => simp [dropPrefixBy?]
    | cons c t =>
      rw [dropPrefixBy?]
      split
      · rename_i hc
        rw [ih]
        constructor
        · rintro ⟨p, hp, rfl⟩
          exact ⟨c :: p, .cons hc hp, rfl⟩
        · rintro ⟨_, hp, ht⟩
          obtain ⟨x, p, -, hrest, rfl⟩ := List.forall₂_cons_left_iff.1 hp
          exact ⟨p, hrest, (List.cons.inj ht).2⟩
      · rename_i hc
        refine iff_of_false (by simp) ?_
        rintro ⟨_, hp, ht⟩
        obtain ⟨x, p, hx, -, rfl⟩ := List.forall₂_cons_left_iff.1 hp
        obtain ⟨rfl, -⟩ := List.cons.inj ht
        exact hc hx

theorem dropPrefix?_eq_some_iff : dropPrefix? p t = some u ↔ t = p ++ u := by
  rw [dropPrefix?, dropPrefixBy?_eq_some_iff]
  simp only [beq_iff_eq, List.forall₂_eq_eq_eq, exists_eq_left']

theorem startsWith_iff {s n : String} : startsWith s n = true ↔ n.toList <+: s.toList := by
  simp only [startsWith, Option.isSome_iff_exists, dropPrefix?_eq_some_iff]
  exact exists_congr fun u => eq_comm

theorem dropSuffix?_eq_some_iff : dropSuffix? p t = some u ↔ t = u ++ p := by
  have hreverse (v : List Char) : t.reverse = p.reverse ++ v ↔ t = v.reverse ++ p := by
    rw [← List.reverse_inj, List.reverse_reverse, List.reverse_append, List.reverse_reverse]
  constructor
  · intro h
    obtain ⟨v, hv, rfl⟩ := Option.map_eq_some_iff.1 h
    exact (hreverse v).1 (dropPrefix?_eq_some_iff.1 hv)
  · intro h
    refine Option.map_eq_some_iff.2 ⟨u.reverse, dropPrefix?_eq_some_iff.2 ?_, List.reverse_reverse u⟩
    rw [h, List.reverse_append]

theorem between?_eq_some_iff : between? p q t = some u ↔ t = p ++ (u ++ q) := by
  constructor
  · intro h
    obtain ⟨r, hr, hu⟩ := Option.bind_eq_some_iff.1 h
    rw [dropPrefix?_eq_some_iff.1 hr, dropSuffix?_eq_some_iff.1 hu]
  · intro h
    exact Option.bind_eq_some_iff.2
      ⟨u ++ q, dropPrefix?_eq_some_iff.2 h, dropSuffix?_eq_some_iff.2 rfl⟩

end Ends

theorem undouble_double (c : Char) (t : List Char) : undouble c (double c t) = t := by
  induction t with
  | nil => rfl
  | cons x t ih =>
    unfold double
    split
    · rename_i hx
      subst hx
      rw [undouble, if_pos ⟨rfl, rfl⟩, ih]
    · rename_i hx
      cases h : double c t with
      | nil =>
        rw [h] at ih
        rw [← ih]
        rfl
      | cons y r =>
        rw [undouble, if_neg fun heq => hx heq.1, ← h, ih]

theorem mem_double {c x : Char} {t : List Char} : x ∈ double c t ↔ x ∈ t := by
  induction t with
  | nil => rfl
  | cons y t ih =>
    unfold double
    split
    · rename_i hy
      rw [hy, List.mem_cons, List.mem_cons, List.mem_cons, ih, or_self_left]
    · rw [List.mem_cons, List.mem_cons, ih]

theorem length_double (c : Char) (t : List Char) : (double c t).length = t.length + t.count c := by
  induction t with
  | nil => rfl
  | cons x t ih =>
    unfold double
    split
    · rename_i hx
      subst hx
      simp only [List.length_cons, List.count_cons_self, ih]
      omega
    · rename_i hx
      simp only [List.length_cons, List.count_cons_of_ne hx, ih]
      omega

theorem length_undouble_le (c : Char) (t : List Char) : (undouble c t).length ≤ t.length := by
  fun_induction undouble c t with
  | case1 => exact Nat.le_refl _
  | case2 => exact Nat.le_refl _
  | case3 x y r hc ih =>
    simp only [List.length_cons]
    omega
  | case4 x y r hc ih =>
    simp only [List.length_cons] at ih ⊢
    omega

theorem foldCase_of_isBlank {c : Char} (h : isBlank c = true) : foldCase c = c := by
  have hne {k : Char} (hk : isBlank k = false) : c ≠ k := by
    rintro rfl
    rw [h] at hk
    cases hk
  have hupper : ¬ (c.val ≥ 'A'.val ∧ c.val ≤ 'Z'.val) := by
    rintro ⟨hfrom, hto⟩
    have hlow : 65 ≤ c.toNat := UInt32.le_iff_toNat_le.1 hfrom
    have hhigh : c.toNat ≤ 90 := UInt32.le_iff_toNat_le.1 hto
    simp only [isBlank, Bool.or_eq_true, Bool.and_eq_true, decide_eq_true_eq, beq_iff_eq] at h
    omega
  unfold foldCase
  rw [if_neg (hne (by decide)), if_neg (hne (by decide))]
  exact dif_neg hupper

theorem sameIgnoringCase_eq_false {c : Char} {s word : String} (hc : c.toLower ∉ (lower word).toList)
    (h : c ∈ s.toList) : sameIgnoringCase s word = false := by
  refine beq_eq_false_iff_ne.2 fun heq => hc ?_
  rw [← heq, lower, String.toList_ofList]
  exact List.mem_map.2 ⟨c, h, rfl⟩

end PolySql.Text

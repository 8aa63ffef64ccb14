import Mathlib.Data.List.Basic
import PolySql.Text.Cut

namespace PolySql.Text

theorem joined_cons_cons (sep s t : String) (ss : List String) :
    joined sep (s :: t :: ss) = s ++ sep ++ joined sep (t :: ss) :=
  rfl

theorem joined_append_cons (sep s t : String) (ss : List String) :
    joined sep ((s ++ t) :: ss) = s ++ joined sep (t :: ss) := by
  cases ss with
  | nil => rfl
  | cons u ss => simp only [joined_cons_cons, String.append_assoc]

theorem joined_of_append {P : String → Prop} (hempty : P "")
    (happend : ∀ {s t}, P s → P t → P (s ++ t)) {ss : List String} {sep : String} (hsep : P sep)
    (h : ∀ s ∈ ss, P s) : P (joined sep ss) := by
  induction ss with
  | nil => exact hempty
  | cons s ss ih =>
    obtain ⟨hs, hss⟩ := List.forall_mem_cons.1 h
    cases ss with
    | nil => exact hs
    | cons s' ss => exact happend (happend hs hsep) (ih hss)

theorem pieces_ne_nil (sep : Char) (t : List Char) : pieces sep t ≠ [] := by
  cases t with
  | nil => simp [pieces]
  | cons c t =>
    unfold pieces
    split
    · simp
    · split <;> simp

theorem pieces_append {sep : Char} (a b : List Char) :
    pieces sep (a ++ sep :: b) = pieces sep a ++ pieces sep b := by
  induction a with
  | nil => simp [pieces]
  | cons c a ih =>
    rw [List.cons_append, pieces, pieces, ih]
    split
    · rfl
    · have hne := pieces_ne_nil sep a
      cases h : pieces sep a with
      | nil => exact absurd h hne
      | cons p ps => rfl

theorem head?_pieces (sep : Char) (t : List Char) :
    (pieces sep t).head? = some (t.takeWhile (· ≠ sep)) := by
  induction t with
  | nil => rfl
  | cons c t ih =>
    rw [pieces]
    split
    · rename_i hc
      rw [List.takeWhile_cons_of_neg (by simpa using hc)]
      rfl
    · rename_i hc
      rw [List.takeWhile_cons_of_pos (by simpa using hc)]
      generalize pieces sep t = ps at ih
      cases ps with
      | nil => cases ih
      | cons p ps =>
        obtain rfl : p = _ := Option.some.inj ih
        rfl

theorem pieces_of_not_mem {sep : Char} {t : List Char} (h : sep ∉ t) : pieces sep t = [t] := by
  induction t with
  | nil => rfl
  | cons c t ih =>
    simp only [List.mem_cons, not_or] at h
    rw [pieces, if_neg (Ne.symm h.1), ih h.2]

theorem length_pieces (sep : Char) (t : List Char) : (pieces sep t).length = t.count sep + 1 := by
  induction t with
  | nil => rfl
  | cons c t ih =>
    unfold pieces
    split
    · rename_i hc
      rw [List.length_cons, ih, hc, List.count_cons_self]
    · rename_i hc
      rw [List.count_cons_of_ne hc, ← ih]
      obtain ⟨p, ps, hps⟩ := List.exists_cons_of_ne_nil (pieces_ne_nil sep t)
      rw [hps]
      rfl

theorem pieces_joined_eq_flatMap {sep : Char} {ts : List String} (hne : ts ≠ []) :
    pieces sep (joined (String.ofList [sep]) ts).toList = ts.flatMap fun t => pieces sep t.toList := by
  induction ts with
  | nil => exact absurd rfl hne
  | cons t ts ih =>
    cases ts with
    | nil => exact (List.flatMap_singleton ..).symm
    | cons t' ts =>
      rw [joined_cons_cons, String.toList_append, String.toList_append, String.toList_ofList,
        List.append_assoc, List.singleton_append, pieces_append, ih (List.cons_ne_nil _ _)]
      rfl

theorem pieces_joined {sep : Char} {ts : List String} (hne : ts ≠ [])
    (h : ∀ t ∈ ts, sep ∉ t.toList) :
    pieces sep (joined (String.ofList [sep]) ts).toList = ts.map String.toList := by
  rw [pieces_joined_eq_flatMap hne, List.map_eq_flatMap]
  exact List.flatMap_congr fun t ht => pieces_of_not_mem (h t ht)

theorem joined_pieces (sep : Char) (t : List Char) :
    joined (String.ofList [sep]) ((pieces sep t).map String.ofList) = String.ofList t := by
  induction t with
  | nil => rfl
  | cons c t ih =>
    have hcons (u : List Char) : String.ofList (c :: u) = String.ofList [c] ++ String.ofList u := by
      rw [← String.ofList_append, List.singleton_append]
    obtain ⟨p, ps, hps⟩ := List.exists_cons_of_ne_nil (pieces_ne_nil sep t)
    rw [hcons, ← ih, pieces, hps]
    split
    · rename_i hc
      show "" ++ String.ofList [sep] ++ joined (String.ofList [sep]) _ = _
      rw [String.empty_append, hc]
    · rw [List.map_cons, hcons]
      exact joined_append_cons ..

theorem pieces_injective (sep : Char) : Function.Injective (pieces sep) := by
  intro t u h
  have hjoined := joined_pieces sep t
  rw [h, joined_pieces] at hjoined
  exact (String.ofList_inj.1 hjoined).symm

theorem isInfix_of_pieces_eq {sep : Char} {t p : List Char} {ps : List (List Char)}
    (h : pieces sep t = p :: ps) : p <+: t ∧ ∀ q ∈ ps, q <:+: t := by
  induction t generalizing p ps with
  | nil =>
    obtain ⟨rfl, rfl⟩ := List.cons.inj h
    exact ⟨List.prefix_rfl, List.forall_mem_nil _⟩
  | cons c t ih =>
    unfold pieces at h
    split at h
    · obtain ⟨rfl, rfl⟩ := List.cons.inj h
      refine ⟨List.nil_prefix, fun q hq => ?_⟩
      cases hpieces : pieces sep t with
      | nil => exact absurd hpieces (pieces_ne_nil sep t)
      | cons first rest =>
        obtain ⟨hfirst, hrest⟩ := ih hpieces
        rcases List.mem_cons.1 (hpieces ▸ hq) with rfl | hq
        · exact List.infix_cons hfirst.isInfix
        · exact List.infix_cons (hrest q hq)
    · split at h
      · rename_i hpieces
        exact absurd hpieces (pieces_ne_nil sep t)
      · rename_i hpieces
        obtain ⟨rfl, rfl⟩ := List.cons.inj h
        obtain ⟨hfirst, hrest⟩ := ih hpieces
        exact ⟨List.cons_prefix_cons.2 ⟨rfl, hfirst⟩, fun q hq => List.infix_cons (hrest q hq)⟩

theorem isInfix_of_mem_pieces {sep : Char} {t p : List Char} (hp : p ∈ pieces sep t) : p <:+: t := by
  cases hpieces : pieces sep t with
  | nil => exact absurd hpieces (pieces_ne_nil sep t)
  | cons first rest =>
    obtain ⟨hfirst, hrest⟩ := isInfix_of_pieces_eq hpieces
    rcases List.mem_cons.1 (hpieces ▸ hp) with rfl | hp
    · exact hfirst.isInfix
    · exact hrest p hp

theorem mem_of_mem_pieces {sep c : Char} {t p : List Char} (hp : p ∈ pieces sep t) (hc : c ∈ p) :
    c ∈ t :=
  (isInfix_of_mem_pieces hp).subset hc

theorem exists_pieces_append {sep : Char} {l : List Char} (hl : sep ∉ l) (t : List Char) :
    ∃ p ps, pieces sep (l ++ t) = (l ++ p) :: ps := by
  induction l with
  | nil => exact List.exists_cons_of_ne_nil (pieces_ne_nil sep t)
  | cons c l ih =>
    obtain ⟨hc, hl⟩ := not_or.1 (List.mem_cons.not.1 hl)
    obtain ⟨p, ps, hpieces⟩ := ih hl
    refine ⟨p, ps, ?_⟩
    rw [List.cons_append, pieces, if_neg (Ne.symm hc), hpieces, List.cons_append]

theorem exists_mem_pieces_of_infix {sep : Char} {l t : List Char} (hl : sep ∉ l) (h : l <:+: t) :
    ∃ p ∈ pieces sep t, l <:+: p := by
  obtain ⟨front, back, rfl⟩ := h
  induction front with
  | nil =>
    obtain ⟨p, ps, hpieces⟩ := exists_pieces_append hl back
    rw [List.nil_append, hpieces]
    exact ⟨_, List.mem_cons_self .., (List.prefix_append l p).isInfix⟩
  | cons c front ih =>
    obtain ⟨p, hp, hlp⟩ := ih
    rw [List.cons_append, List.cons_append, pieces]
    split
    · exact ⟨p, List.mem_cons_of_mem _ hp, hlp⟩
    · split
      · rename_i hpieces
        exact absurd hpieces (pieces_ne_nil sep _)
      · rename_i first rest hpieces
        rcases List.mem_cons.1 (hpieces ▸ hp) with rfl | hp
        · exact ⟨_, List.mem_cons_self .., List.infix_cons hlp⟩
        · exact ⟨p, List.mem_cons_of_mem _ hp, hlp⟩

theorem not_mem_of_mem_pieces {sep : Char} {t p : List Char} (hp : p ∈ pieces sep t) : sep ∉ p := by
  induction t generalizing p with
  | nil =>
    obtain rfl := List.mem_singleton.1 hp
    exact List.not_mem_nil
  | cons c t ih =>
    unfold pieces at hp
    split at hp
    · rcases List.mem_cons.1 hp with rfl | hp
      · exact List.not_mem_nil
      · exact ih hp
    · rename_i hc
      split at hp
      · obtain rfl := List.mem_singleton.1 hp
        exact fun h => hc (List.mem_singleton.1 h).symm
      · rename_i q qs hq
        rcases List.mem_cons.1 hp with rfl | hp
        · intro h
          rcases List.mem_cons.1 h with h | h
          · exact hc h.symm
          · exact ih (hq ▸ List.mem_cons_self ..) h
        · exact ih (hq ▸ List.mem_cons_of_mem _ hp)

theorem cut?_append {sep : Char} {t : List Char} (h : sep ∉ t) (r : List Char) :
    cut? sep (t ++ sep :: r) = some (t, r) := by
  induction t with
  | nil => simp [cut?]
  | cons c t ih =>
    simp only [List.mem_cons, not_or] at h
    rw [List.cons_append, cut?, if_neg (Ne.symm h.1), ih h.2]
    rfl

theorem cut?_eq_none {sep : Char} {t : List Char} (h : sep ∉ t) : cut? sep t = none := by
  induction t with
  | nil => rfl
  | cons c t ih =>
    simp only [List.mem_cons, not_or] at h
    rw [cut?, if_neg (Ne.symm h.1), ih h.2]
    rfl

theorem cut?_eq_some_iff {sep : Char} {t a b : List Char} :
    cut? sep t = some (a, b) ↔ sep ∉ a ∧ t = a ++ sep :: b := by
  constructor
  · intro h
    by_cases hmem : sep ∈ t
    · obtain ⟨u, v, rfl, hu⟩ := List.eq_append_cons_of_mem hmem
      rw [cut?_append hu] at h
      obtain ⟨rfl, rfl⟩ := Prod.mk.inj (Option.some.inj h)
      exact ⟨hu, rfl⟩
    · rw [cut?_eq_none hmem] at h
      cases h
  · rintro ⟨ha, rfl⟩
    exact cut?_append ha b

section Map
variable {f : Char → Char} {sep : Char}

theorem cut?_map (hf : ∀ c, f c = sep ↔ c = sep) (t : List Char) :
    cut? sep (t.map f) = (cut? sep t).map (Prod.map (List.map f) (List.map f)) := by
  induction t with
  | nil => rfl
  | cons c t ih =>
    rw [List.map_cons, cut?, cut?]
    simp only [hf, ih]
    split
    · rfl
    · rw [Option.map_map, Option.map_map]
      rfl

theorem pieces_map (hf : ∀ c, f c = sep ↔ c = sep) (t : List Char) :
    pieces sep (t.map f) = (pieces sep t).map (List.map f) := by
  induction t with
  | nil => rfl
  | cons c t ih =>
    rw [List.map_cons, pieces, pieces]
    simp only [hf, ih]
    split
    · rfl
    · cases pieces sep t <;> rfl

theorem mem_map_iff (hf : ∀ c, f c = sep ↔ c = sep) (t : List Char) : sep ∈ t.map f ↔ sep ∈ t := by
  simp [hf]

end Map

end PolySql.Text

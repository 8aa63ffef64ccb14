import PolySql.Proofs.Settle.OrderClause
import PolySql.Proofs.Settle.Step
import PolySql.Proofs.Text.Region

namespace PolySql.OrderText

open Text

variable {K : List Char → Prop} {t u : List Char}

def Holds (K : List Char → Prop) (t : List Char) : Prop :=
  ∃ front c back, t = front ++ c :: back ∧ isBlank c = true ∧ OpensWith K back

theorem IsClause.not_opensWith_nil (hK : IsClause K) : ¬ OpensWith K [] := by
  rintro ⟨p, r, hp, ht, -⟩
  obtain ⟨c, q, rfl, -⟩ := hK.head p hp
  cases ht

theorem IsClause.not_opensWith_of_isBlank (hK : IsClause K) {c : Char} (hc : isBlank c = true) :
    ¬ OpensWith K (c :: t) := by
  rintro ⟨p, r, hp, ht, -⟩
  obtain ⟨k, q, rfl, hk⟩ := hK.head p hp
  obtain ⟨rfl, -⟩ := List.cons.inj ht
  rw [hc] at hk
  cases hk

theorem IsClause.not_opensWith_of_trimStart (hK : IsClause K) (h : ¬ OpensWith K (trimStart t)) :
    ¬ OpensWith K t := by
  cases t with
  | nil => exact h
  | cons c t =>
    by_cases hc : isBlank c = true
    · exact hK.not_opensWith_of_isBlank hc
    · rwa [trimStart, List.dropWhile_cons_of_neg hc] at h

theorem Holds.cons {c : Char} (h : Holds K t) : Holds K (c :: t) := by
  obtain ⟨front, b, back, rfl, hb, hopens⟩ := h
  exact ⟨c :: front, b, back, rfl, hb, hopens⟩

theorem Holds.of_cons {c : Char} (h : Holds K (c :: t)) (hc : isBlank c = true → ¬ OpensWith K t) :
    Holds K t := by
  obtain ⟨front, b, back, ht, hb, hopens⟩ := h
  cases front with
  | nil =>
    obtain ⟨rfl, rfl⟩ := List.cons.inj ht
    exact absurd hopens (hc hb)
  | cons f front =>
    obtain ⟨-, rfl⟩ := List.cons.inj ht
    exact ⟨front, b, back, rfl, hb, hopens⟩

theorem IsClause.not_holds_singleton (hK : IsClause K) (c : Char) : ¬ Holds K [c] := by
  rintro ⟨front, b, back, ht, -, hopens⟩
  cases front with
  | nil =>
    obtain ⟨-, rfl⟩ := List.cons.inj ht
    exact hK.not_opensWith_nil hopens
  | cons f front => simp at ht

theorem wordEndsBefore_append {r : List Char} (hr : r ≠ []) :
    wordEndsBefore (r ++ u) = wordEndsBefore r := by
  obtain ⟨c, r, rfl⟩ := List.exists_cons_of_ne_nil hr
  rfl

theorem IsClause.opensWith_append (hK : IsClause K) {q : List Char} {close : Char}
    (hclose : isNeutral close = false) (h : OpensWith K (q ++ [close])) :
    OpensWith K (q ++ close :: u) := by
  obtain ⟨p, r, hp, ht, hend⟩ := h
  have hr : r ≠ [] := by
    rintro rfl
    rw [List.append_nil] at ht
    have hneutral := hK.neutral p hp
    rw [← ht, List.all_append, Bool.and_eq_true, List.all_cons, hclose] at hneutral
    exact absurd hneutral.2 Bool.false_ne_true
  refine ⟨p, r ++ u, hp, ?_, (wordEndsBefore_append hr).trans hend⟩
  rw [← List.append_assoc, ← ht]
  simp

def Spares (K : List Char → Prop) (rs rs' : List (List Char)) : Prop :=
  (rs' = rs ∧ ∀ r ∈ rs, ¬ Holds K r) ∨
    (rs'.flatten.length < rs.flatten.length ∧ ∃ r ∈ rs, Holds K r)

theorem Spares.length_le {rs rs' : List (List Char)} (h : Spares K rs rs') :
    rs'.flatten.length ≤ rs.flatten.length := by
  rcases h with ⟨rfl, -⟩ | ⟨hless, -⟩ <;> omega

theorem Spares.eq_iff {rs rs' : List (List Char)} (h : Spares K rs rs') :
    rs' = rs ↔ ∀ r ∈ rs, ¬ Holds K r := by
  rcases h with ⟨heq, hno⟩ | ⟨hless, r, hr, hholds⟩
  · exact iff_of_true heq hno
  · refine iff_of_false ?_ fun hno => hno r hr hholds
    rintro rfl
    omega

theorem Spares.eq_iff_of_both {K' : List Char → Prop} {rs rs' rs'' : List (List Char)}
    (h : Spares K rs rs') (h' : Spares K' rs' rs'') :
    rs'' = rs ↔ ∀ r ∈ rs, ¬ Holds K r ∧ ¬ Holds K' r := by
  rcases h with ⟨rfl, hno⟩ | ⟨hless, r, hr, hholds⟩
  · rw [h'.eq_iff]
    exact forall₂_congr fun r hr => (and_iff_right (hno r hr)).symm
  · refine iff_of_false ?_ fun hno => (hno r hr).1 hholds
    rintro rfl
    have hle := h'.length_le
    omega

theorem Spares.ends {rs rs' : List (List Char)} (hK : IsClause K) (h : Spares K rs rs') (c : Char) :
    Spares K ([c] :: rs) ([c] :: rs') := by
  rcases h with ⟨rfl, hno⟩ | ⟨hless, r, hr, hholds⟩
  · exact .inl ⟨rfl, List.forall_mem_cons.2 ⟨hK.not_holds_singleton c, hno⟩⟩
  · refine .inr ⟨?_, r, List.mem_cons_of_mem _ hr, hholds⟩
    simpa using hless

theorem Spares.extendFirst {rs rs' : List (List Char)} (h : Spares K rs rs') {c : Char}
    (hc : ∀ r ∈ rs.head?, Holds K (c :: r) → Holds K r) :
    Spares K (extendFirst c rs) (extendFirst c rs') := by
  rcases h with ⟨heq, hno⟩ | ⟨hless, r, hr, hholds⟩
  · refine .inl ⟨by rw [heq], ?_⟩
    cases rs with
    | nil => exact hno
    | cons r rs =>
      obtain ⟨hr, hrs⟩ := List.forall_mem_cons.1 hno
      exact List.forall_mem_cons.2 ⟨fun hholds => hr (hc r rfl hholds), hrs⟩
  · cases rs with
    | nil => cases hr
    | cons r₀ rs =>
      refine .inr ⟨?_, ?_⟩
      · cases rs' <;> simp_all [Text.extendFirst]
      · rcases List.mem_cons.1 hr with rfl | hr
        · exact ⟨_, List.mem_cons_self .., hholds.cons⟩
        · exact ⟨r, List.mem_cons_of_mem _ hr, hholds⟩

theorem foldr_extendFirst_cons (p r : List Char) (rs : List (List Char)) :
    p.foldr Text.extendFirst (r :: rs) = (p ++ r) :: rs := by
  induction p with
  | nil => rfl
  | cons c p ih => rw [List.foldr_cons, ih]; rfl

theorem foldr_extendFirst_nil (p : List Char) : p.foldr Text.extendFirst [] = [] := by
  induction p with
  | nil => rfl
  | cons c p ih => rw [List.foldr_cons, ih]; rfl

theorem Without.spares (hK : IsClause K) (h : Without K t u) {state : Option Char} (hs : IsRegion state) :
    Spares K (regionsFrom state t) (regionsFrom state u) := by
  induction h generalizing state with
  | nil => exact .inl ⟨rfl, List.forall_mem_nil _⟩
  | @keep c t u hc _ ih =>
    have hspares := ih (hs.scanChar c)
    rw [regionsFrom, regionsFrom]
    unfold addToRegions
    cases hscan : scanChar state c with
    | none =>
      rw [hscan] at hspares
      dsimp only
      split
      · exact hspares.ends hK c
      · exact hspares
    | some close =>
      rw [hscan] at hspares
      refine hspares.extendFirst fun r hr hholds => hholds.of_cons fun hblank hopens =>
        hK.not_opensWith_of_trimStart (hc hblank) ?_
      have hclose : isNeutral close = false := hs.scanChar c close hscan
      obtain ⟨rs, hrs⟩ := List.head?_eq_some_iff.1 hr
      obtain ⟨q, v, rfl, rfl⟩ := eq_append_of_regionsFrom_some hrs
      exact hK.opensWith_append hclose hopens
  | @drop gap p t u hgap hblank hp hend _ ih =>
    have hneutral : (gap ++ p).all isNeutral = true := by
      rw [List.all_append, all_isNeutral_of_all_isBlank hblank, hK.neutral p hp]
      rfl
    have hspares := ih hs
    rw [← List.append_assoc]
    cases state with
    | none => rwa [regionsFrom_none_append hneutral]
    | some close =>
      rw [regionsFrom_some_append hs hneutral]
      cases hrest : regionsFrom (some close) t with
      | nil =>
        rw [hrest] at hspares
        rwa [foldr_extendFirst_nil]
      | cons r rs =>
        rw [hrest] at hspares
        have hle := hspares.length_le
        rw [foldr_extendFirst_cons]
        refine .inr ⟨?_, _, List.mem_cons_self .., ?_⟩
        · have hpos := List.length_pos_iff.2 hgap
          simp only [List.flatten_cons, List.length_append] at hle ⊢
          omega
        · obtain ⟨q, v, rfl, rfl⟩ := eq_append_of_regionsFrom_some hrest
          obtain ⟨front, c, rfl⟩ := (List.eq_nil_or_concat gap).resolve_left hgap
          have hc : isBlank c = true := List.all_eq_true.1 hblank c (by simp)
          have hbehind : wordEndsBefore (q ++ [close]) = true := by
            rw [← hend, ← wordEndsBefore_append (u := v) (by simp)]
            simp
          exact ⟨front, c, p ++ (q ++ [close]), by simp, hc, p, _, hp, rfl, hbehind⟩

theorem regions_orderedBy_raw_iff (text : String) (binds : List Value) :
    ∃ result, Select.orderedBy (.raw text binds) = .raw result binds ∧
      (∃ u v, Without IsDirection text.toList u ∧ Without IsNullsPlace u v ∧ result.toList = trim v) ∧
      (regions result = regions text ↔
        ∀ r ∈ regions text, ¬ Holds IsDirection r ∧ ¬ Holds IsNullsPlace r) := by
  have houtside : IsRegion none := by rintro k ⟨⟩
  obtain ⟨u, v, hu, hv, hbare⟩ := exists_without_bare text
  have hregions : regions (bare text) = regionsFrom none v := by
    rw [regions, hbare, regionsFrom_trim]
  refine ⟨bare text, rfl, ⟨u, v, hu, hv, hbare⟩, ?_⟩
  rw [hregions]
  exact (hu.spares isClause_isDirection houtside).eq_iff_of_both (hv.spares isClause_isNullsPlace houtside)

example : Select.orderedBy (.raw "name = 'low desc' DESC nulls\tlast" []) = .raw "name = 'low'" [] := rfl

end PolySql.OrderText

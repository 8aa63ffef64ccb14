import PolySql.Proofs.Text.Thinned

namespace PolySql.Text

def extendFirst (c : Char) : List (List Char) → List (List Char)
  | [] => []
  | r :: rs => (c :: r) :: rs

def addToRegions (state : Option Char) (c : Char) (rs : List (List Char)) : List (List Char) :=
  match scanChar state c with
  | some _ => extendFirst c rs
  | none => if state.isSome then [c] :: rs else rs

def regionsFrom (state : Option Char) : List Char → List (List Char)
  | [] => []
  | c :: t => addToRegions state c (regionsFrom (scanChar state c) t)

def regions (s : String) : List (List Char) :=
  regionsFrom none s.toList

section Neutral
variable {state : Option Char} {p t : List Char}

theorem regionsFrom_none_append (hp : p.all isNeutral = true) :
    regionsFrom none (p ++ t) = regionsFrom none t := by
  induction p with
  | nil => rfl
  | cons c p ih =>
    rw [List.all_cons, Bool.and_eq_true] at hp
    have hscan : scanChar none c = none :=
      IsRegion.scanChar_of_isNeutral (by rintro k ⟨⟩) hp.1
    rw [List.cons_append, regionsFrom, addToRegions, hscan]
    exact ih hp.2

theorem regionsFrom_some_append {close : Char} (hs : IsRegion (some close)) (hp : p.all isNeutral = true) :
    regionsFrom (some close) (p ++ t) = p.foldr extendFirst (regionsFrom (some close) t) := by
  induction p with
  | nil => rfl
  | cons c p ih =>
    rw [List.all_cons, Bool.and_eq_true] at hp
    rw [List.cons_append, regionsFrom, addToRegions, hs.scanChar_of_isNeutral hp.1, ih hp.2]
    rfl

theorem regionsFrom_eq_nil (hs : IsRegion state) (hp : p.all isNeutral = true) :
    regionsFrom state p = [] := by
  induction p with
  | nil => rfl
  | cons c p ih =>
    rw [List.all_cons, Bool.and_eq_true] at hp
    rw [regionsFrom, addToRegions, hs.scanChar_of_isNeutral hp.1, ih hp.2]
    cases state <;> rfl

theorem regionsFrom_append_neutral (hs : IsRegion state) (hp : p.all isNeutral = true) :
    regionsFrom state (t ++ p) = regionsFrom state t := by
  induction t generalizing state with
  | nil => exact regionsFrom_eq_nil hs hp
  | cons c t ih => rw [List.cons_append, regionsFrom, regionsFrom, ih (hs.scanChar c)]

theorem regionsFrom_trim (t : List Char) : regionsFrom none (trim t) = regionsFrom none t := by
  have houtside : IsRegion none := by rintro k ⟨⟩
  obtain ⟨front, back, ht, hfront, hback⟩ := exists_append_trim t
  have hbare := congrArg (regionsFrom none) ht
  rw [List.append_assoc, regionsFrom_none_append (all_isNeutral_of_all_isBlank hfront),
    regionsFrom_append_neutral houtside (all_isNeutral_of_all_isBlank hback)] at hbare
  exact hbare.symm

end Neutral

theorem eq_append_of_regionsFrom_some {close : Char} {t r : List Char} {rs : List (List Char)}
    (h : regionsFrom (some close) t = r :: rs) : ∃ q u, r = q ++ [close] ∧ t = q ++ close :: u := by
  induction t generalizing r rs with
  | nil => cases h
  | cons c t ih =>
    rw [regionsFrom, addToRegions, scanChar] at h
    by_cases hc : c = close
    · subst hc
      rw [if_pos rfl] at h
      obtain ⟨rfl, -⟩ := List.cons.inj h
      exact ⟨[], t, rfl, rfl⟩
    · rw [if_neg hc] at h
      cases hrest : regionsFrom (some close) t with
      | nil => simp [hrest, extendFirst] at h
      | cons r' rs' =>
        obtain ⟨q, u, rfl, rfl⟩ := ih hrest
        simp only [hrest, extendFirst, List.cons.injEq] at h
        exact ⟨c :: q, u, h.1.symm, rfl⟩

end PolySql.Text

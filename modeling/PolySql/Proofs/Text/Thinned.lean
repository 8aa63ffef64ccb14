import PolySql.Proofs.Text.Cut
import PolySql.Text.Placeholder

namespace PolySql.Text

def placeholdersFrom (state : Option Char) : List Char → Nat
  | [] => 0
  | c :: cs => (if state = none ∧ c = '?' then 1 else 0) + placeholdersFrom (scanChar state c) cs

theorem length_segmentsFrom (state : Option Char) (t : List Char) :
    (segmentsFrom state t).length = placeholdersFrom state t + 1 := by
  induction t generalizing state with
  | nil => rfl
  | cons c t ih =>
    unfold segmentsFrom placeholdersFrom
    split
    · rename_i h
      obtain ⟨rfl, rfl⟩ := h
      have hout : scanChar none '?' = none := by decide
      rw [List.length_cons, ih, hout]
      omega
    · have hlength := ih (scanChar state c)
      split
      · rename_i hnil
        rw [hnil] at hlength
        cases hlength
      · rename_i s rest hcons
        rw [hcons] at hlength
        rw [Nat.zero_add, ← hlength]
        rfl

theorem placeholderCount_eq (s : String) : placeholderCount s = placeholdersFrom none s.toList := by
  rw [placeholderCount, splitPlaceholders, List.length_map, segments, length_segmentsFrom,
    Nat.add_sub_cancel]

def isNeutral (c : Char) : Bool :=
  c ∉ ['?', '\'', '"', '[', ']']

theorem isNeutral_of_apply {P : Char → Bool} {c : Char} (hc : P c = true)
    (h : ['?', '\'', '"', '[', ']'].all (fun k => !P k) = true) : isNeutral c = true := by
  refine decide_eq_true fun hmem => ?_
  have hk := List.all_eq_true.1 h c hmem
  rw [hc] at hk
  cases hk

theorem isNeutral_of_isBlank {c : Char} (h : isBlank c = true) : isNeutral c = true :=
  isNeutral_of_apply h (by decide)

theorem isNeutral_of_sameLetter {p c : Char} (hp : isNeutral p = true) (h : sameLetter p c = true) :
    isNeutral c = true := by
  refine isNeutral_of_apply (P := sameLetter p) h ?_
  -- The characters that are not neutral have no case, so each is the same letter as itself only.
  have hself : ∀ k ∈ ['?', '\'', '"', '[', ']'], foldCase k = k := by
    simp only [List.forall_mem_cons]
    exact ⟨rfl, rfl, rfl, rfl, rfl, List.forall_mem_nil _⟩
  refine List.all_eq_true.2 fun k hk => ?_
  rw [Bool.not_eq_true', sameLetter, hself k hk, beq_eq_false_iff_ne]
  rintro rfl
  exact of_decide_eq_true hp hk

def IsRegion (state : Option Char) : Prop :=
  ∀ c ∈ state, isNeutral c = false

theorem IsRegion.scanChar {state : Option Char} (h : IsRegion state) (c : Char) :
    IsRegion (scanChar state c) := by
  cases state with
  | some close =>
    unfold Text.scanChar
    dsimp only
    split
    · rintro k ⟨⟩
    · exact h
  | none =>
    unfold Text.scanChar regionEnd?
    dsimp only
    split
    · rename_i hc
      rintro k ⟨⟩
      rcases hc with rfl | rfl <;> decide
    · split
      · rintro k ⟨⟩
        decide
      · rintro k ⟨⟩

theorem IsRegion.scanChar_of_isNeutral {state : Option Char} (h : IsRegion state) {c : Char}
    (hc : isNeutral c = true) : Text.scanChar state c = state := by
  have hne {k : Char} (hk : isNeutral k = false) : c ≠ k := by
    rintro rfl
    rw [hc] at hk
    cases hk
  cases state with
  | some close => rw [Text.scanChar, if_neg (hne (h close rfl))]
  | none =>
    rw [Text.scanChar, regionEnd?, if_neg, if_neg (hne (by decide))]
    rintro (rfl | rfl) <;> cases hc

inductive Thins : List Char → List Char → Prop
  | nil : Thins [] []
  | keep {t u : List Char} (c : Char) : Thins t u → Thins (c :: t) (c :: u)
  | skip {c : Char} {t u : List Char} : isNeutral c = true → Thins t u → Thins (c :: t) u

namespace Thins

variable {t u v : List Char}

theorem trans (htu : Thins t u) (huv : Thins u v) : Thins t v := by
  induction htu generalizing v with
  | nil => exact huv
  | keep c _ ih =>
    cases huv with
    | keep _ h => exact .keep c (ih h)
    | skip hc h => exact .skip hc (ih h)
  | skip hc _ ih => exact .skip hc (ih huv)

theorem skip_append {p : List Char} (hp : p.all isNeutral = true) (h : Thins t u) :
    Thins (p ++ t) u := by
  induction p with
  | nil => exact h
  | cons c p ih =>
    rw [List.all_cons, Bool.and_eq_true] at hp
    exact .skip hp.1 (ih hp.2)

theorem keep_append (p : List Char) (h : Thins t u) : Thins (p ++ t) (p ++ u) := by
  induction p with
  | nil => exact h
  | cons c p ih => exact .keep c ih

theorem placeholdersFrom (h : Thins t u) {state : Option Char} (hs : IsRegion state) :
    placeholdersFrom state t = placeholdersFrom state u := by
  induction h generalizing state with
  | nil => rfl
  | keep c _ ih => rw [Text.placeholdersFrom, Text.placeholdersFrom, ih (hs.scanChar c)]
  | skip hc _ ih =>
    rw [Text.placeholdersFrom, if_neg, Nat.zero_add, hs.scanChar_of_isNeutral hc, ih hs]
    rintro ⟨-, rfl⟩
    cases hc

theorem placeholderCount {s r : String} (h : Thins s.toList r.toList) :
    placeholderCount s = placeholderCount r := by
  rw [placeholderCount_eq, placeholderCount_eq, h.placeholdersFrom (by rintro c ⟨⟩)]

end Thins

theorem all_isNeutral_of_all_isBlank {p : List Char} (h : p.all isBlank = true) :
    p.all isNeutral = true :=
  List.all_eq_true.2 fun c hc => isNeutral_of_isBlank (List.all_eq_true.1 h c hc)

theorem thins_trim (t : List Char) : Thins t (trim t) := by
  obtain ⟨front, back, ht, hfront, hback⟩ := exists_append_trim t
  have hbehind := Thins.keep_append (trim t)
    (Thins.skip_append (all_isNeutral_of_all_isBlank hback) .nil)
  have h := Thins.skip_append (all_isNeutral_of_all_isBlank hfront) hbehind
  rwa [List.append_nil, List.append_nil, ← List.append_assoc, ← ht] at h

end PolySql.Text

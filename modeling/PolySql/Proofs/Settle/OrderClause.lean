import PolySql.Compiler.OrderText
import PolySql.Proofs.Text.Thinned

namespace PolySql.OrderText

open Text

def IsWord (word : String) (p : List Char) : Prop :=
  List.Forall₂ (fun k c => sameLetter k c = true) word.toList p

def IsOneOf (words : List String) (p : List Char) : Prop :=
  ∃ w ∈ words, IsWord w p

def IsDirection : List Char → Prop :=
  IsOneOf ["asc", "desc"]

def IsEnd : List Char → Prop :=
  IsOneOf ["first", "last"]

inductive IsNullsPlace : List Char → Prop
  | mk {n gap p : List Char} : IsWord "nulls" n → gap ≠ [] → gap.all isBlank = true →
    IsEnd p → IsNullsPlace (n ++ (gap ++ p))

variable {K : List Char → Prop} {t u : List Char}

def OpensWith (K : List Char → Prop) (t : List Char) : Prop :=
  ∃ p r, K p ∧ t = p ++ r ∧ wordEndsBefore r = true

inductive Without (K : List Char → Prop) : List Char → List Char → Prop
  | nil : Without K [] []
  | keep {c : Char} {t u : List Char} : (isBlank c = true → ¬ OpensWith K (trimStart t)) →
    Without K t u → Without K (c :: t) (c :: u)
  | drop {gap p t u : List Char} : gap ≠ [] → gap.all isBlank = true → K p → wordEndsBefore t = true →
    Without K t u → Without K (gap ++ (p ++ t)) u

structure IsClause (K : List Char → Prop) : Prop where
  neutral : ∀ p, K p → p.all isNeutral = true
  head : ∀ p, K p → ∃ c q, p = c :: q ∧ isBlank c = false

section Words
variable {word : String} {words : List String} {p : List Char}

def isPlainWord (word : String) : Bool :=
  !word.toList.isEmpty && word.toList.all fun k => isNeutral k && !isBlank k

theorem IsWord.all_neutral (h : IsWord word p) (hword : isPlainWord word = true) :
    p.all isNeutral = true := by
  rw [isPlainWord, Bool.and_eq_true] at hword
  have hletters := hword.2
  unfold IsWord at h
  generalize word.toList = w at h hletters
  clear hword
  induction h with
  | nil => rfl
  | cons hc _ ih =>
    simp only [List.all_cons, Bool.and_eq_true] at hletters ⊢
    exact ⟨isNeutral_of_sameLetter hletters.1.1 hc, ih (by simpa using hletters.2)⟩

theorem IsWord.exists_cons (h : IsWord word p) (hword : isPlainWord word = true) :
    ∃ c q, p = c :: q ∧ isBlank c = false := by
  rw [isPlainWord, Bool.and_eq_true] at hword
  unfold IsWord at h
  cases hw : word.toList with
  | nil => simp [hw] at hword
  | cons k w =>
    rw [hw] at h hword
    obtain ⟨c, q, hc, -, rfl⟩ := List.forall₂_cons_left_iff.1 h
    refine ⟨c, q, rfl, Bool.eq_false_iff.2 fun hblank => ?_⟩
    rw [sameLetter, foldCase_of_isBlank hblank, beq_iff_eq] at hc
    subst hc
    simp [hblank] at hword

theorem isClause_isOneOf (hwords : words.all isPlainWord = true) : IsClause (IsOneOf words) where
  neutral := by
    rintro p ⟨w, hw, hp⟩
    exact hp.all_neutral (List.all_eq_true.1 hwords w hw)
  head := by
    rintro p ⟨w, hw, hp⟩
    exact hp.exists_cons (List.all_eq_true.1 hwords w hw)

theorem isClause_isDirection : IsClause IsDirection :=
  isClause_isOneOf (by decide)

theorem isClause_isEnd : IsClause IsEnd :=
  isClause_isOneOf (by decide)

theorem isClause_isNullsPlace : IsClause IsNullsPlace where
  neutral := by
    rintro _ ⟨hn, -, hgap, hp⟩
    have hplace := isClause_isEnd.neutral _ hp
    rw [List.all_append, List.all_append, hn.all_neutral (by decide), hplace,
      all_isNeutral_of_all_isBlank hgap]
    rfl
  head := by
    rintro _ ⟨hn, -, -, -⟩
    obtain ⟨c, q, rfl, hc⟩ := hn.exists_cons (by decide)
    exact ⟨c, _, rfl, hc⟩

end Words

structure Reads (clause? : List Char → Option (List Char)) (K : List Char → Prop) : Prop where
  sound : ∀ t r, clause? t = some r → ∃ p, K p ∧ t = p ++ r ∧ wordEndsBefore r = true
  complete : ∀ t, OpensWith K t → (clause? t).isSome = true

theorem reads_wholeWord? (words : List String) : Reads (wholeWord? words) (IsOneOf words) where
  sound := by
    intro t r h
    obtain ⟨w, hw, hr⟩ := List.exists_of_findSome?_eq_some h
    obtain ⟨hread, hend⟩ := Option.filter_eq_some_iff.1 hr
    obtain ⟨p, hp, ht⟩ := dropPrefixBy?_eq_some_iff.1 hread
    exact ⟨p, ⟨w, hw, hp⟩, ht, hend⟩
  complete := by
    rintro t ⟨p, r, ⟨w, hw, hp⟩, ht, hend⟩
    have hread : keyword? w t = some r := dropPrefixBy?_eq_some_iff.2 ⟨p, hp, ht⟩
    refine List.findSome?_isSome_iff.2 ⟨w, hw, ?_⟩
    rw [hread, Option.filter_some, hend]
    rfl

theorem reads_direction? : Reads direction? IsDirection :=
  reads_wholeWord? _

theorem reads_nulls? : Reads nulls? IsNullsPlace where
  sound := by
    intro t r h
    obtain ⟨u, hu, hrest⟩ := Option.bind_eq_some_iff.1 h
    obtain ⟨n, hn, rfl⟩ := dropPrefixBy?_eq_some_iff.1 hu
    cases u with
    | nil => cases hrest
    | cons c u =>
      dsimp only at hrest
      split at hrest
      · rename_i hc
        obtain ⟨p, hp, hplace, hend⟩ := (reads_wholeWord? _).sound _ _ hrest
        have hgap : (c :: u).takeWhile isBlank ≠ [] := by simp [hc]
        refine ⟨_, .mk hn hgap List.all_takeWhile hp, ?_, hend⟩
        rw [List.append_assoc, List.append_assoc, ← hplace, trimStart, List.takeWhile_append_dropWhile]
      · cases hrest
  complete := by
    rintro t ⟨_, r, ⟨hn, hgap, hblank, hp⟩, rfl, hend⟩
    rename_i n gap p
    have hread : keyword? "nulls" (n ++ (gap ++ p) ++ r) = some (gap ++ (p ++ r)) :=
      dropPrefixBy?_eq_some_iff.2 ⟨n, hn, by simp⟩
    have htrim : trimStart (gap ++ (p ++ r)) = p ++ r := by
      obtain ⟨k, q, rfl, hk⟩ := isClause_isEnd.head p hp
      rw [trimStart_append hblank]
      exact trimStart_of_head? (by rintro c ⟨⟩; exact hk)
    obtain ⟨c, gap, rfl⟩ := List.exists_cons_of_ne_nil hgap
    rw [List.all_cons, Bool.and_eq_true] at hblank
    rw [nulls?, hread, Option.bind_some, List.cons_append]
    dsimp only
    rw [← List.cons_append, htrim, if_pos hblank.1]
    exact (reads_wholeWord? _).complete _ ⟨p, r, hp, rfl, hend⟩

theorem Without.keep_append {gap : List Char} (hgap : gap.all isBlank = true)
    (ht : ¬ OpensWith K (trimStart t)) (h : Without K t u) : Without K (gap ++ t) (gap ++ u) := by
  induction gap with
  | nil => exact h
  | cons c gap ih =>
    rw [List.all_cons, Bool.and_eq_true] at hgap
    have htrim : trimStart (gap ++ t) = trimStart t := trimStart_append hgap.2 t
    exact .keep (fun _ => htrim ▸ ht) (ih hgap.2)

theorem without_strip {clause? : List Char → Option (List Char)}
    (hread : Reads clause? K) {fuel : Nat} (t : List Char) (ht : t.length ≤ fuel) :
    Without K t (strip clause? fuel t) := by
  induction fuel generalizing t with
  | zero =>
    obtain rfl := List.length_eq_zero_iff.1 (Nat.le_zero.1 ht)
    exact .nil
  | succ fuel ih =>
    cases t with
    | nil => exact .nil
    | cons c t =>
      -- A step takes a whole run of white space, with the clause behind it if there is one.
      have hsplit := List.takeWhile_append_dropWhile (p := isBlank) (l := c :: t)
      rw [List.length_cons] at ht
      unfold strip
      split
      · rename_i hc
        have hgap : (c :: t).takeWhile isBlank ≠ [] := by simp [hc]
        have hlength := congrArg List.length hsplit
        have hpos := List.length_pos_iff.2 hgap
        rw [List.length_append, List.length_cons] at hlength
        split
        · rename_i rest hrest
          obtain ⟨p, hp, hplace, hend⟩ := hread.sound _ _ hrest
          rw [trimStart] at hplace
          have hshort : rest.length ≤ fuel := by
            rw [hplace, List.length_append] at hlength
            omega
          have hdrop := Without.drop hgap List.all_takeWhile hp hend (ih rest hshort)
          rwa [← hplace, hsplit] at hdrop
        · rename_i hnone
          have hopens : ¬ OpensWith K (trimStart (trimStart (c :: t))) := by
            intro hopens
            have hsome := hread.complete _ hopens
            rw [trimStart_of_head? head?_trimStart, hnone] at hsome
            cases hsome
          have hrest := ih ((c :: t).dropWhile isBlank) (by omega)
          have hblank : ((c :: t).takeWhile isBlank).all isBlank = true := List.all_takeWhile
          have hkeep := hrest.keep_append hblank hopens
          rwa [trimStart, hsplit] at hkeep
      · rename_i hc
        exact .keep (fun hblank => absurd hblank hc) (ih t (by omega))

theorem exists_without_bare (s : String) : ∃ u v, Without IsDirection s.toList u ∧
    Without IsNullsPlace u v ∧ (bare s).toList = trim v := by
  refine ⟨_, _, without_strip reads_direction? s.toList (Nat.le_refl _),
    without_strip reads_nulls? _ (Nat.le_refl _), ?_⟩
  rw [bare, String.toList_ofList]

theorem Without.thins (hK : IsClause K) (h : Without K t u) : Thins t u := by
  induction h with
  | nil => exact .nil
  | keep _ _ ih => exact .keep _ ih
  | drop _ hblank hp _ _ ih =>
    exact Thins.skip_append (all_isNeutral_of_all_isBlank hblank) (Thins.skip_append (hK.neutral _ hp) ih)

theorem placeholderCount_bare (s : String) : placeholderCount (bare s) = placeholderCount s := by
  obtain ⟨u, v, hu, hv, hbare⟩ := exists_without_bare s
  have hthins : Thins s.toList (bare s).toList := by
    rw [hbare]
    exact (hu.thins isClause_isDirection).trans ((hv.thins isClause_isNullsPlace).trans (thins_trim v))
  exact hthins.placeholderCount.symm

end PolySql.OrderText

import PolySql.Proofs.Text.Parenthesis

namespace PolySql.Text

inductive IsNested : List Char → Prop
  | nil : IsNested []
  | other {c : Char} {t : List Char} : isParenthesis c = false → IsNested t → IsNested (c :: t)
  | pair {t u : List Char} : IsNested t → IsNested u → IsNested ('(' :: (t ++ ')' :: u))

theorem isParenthesis_eq_true_iff {c : Char} : isParenthesis c = true ↔ c = '(' ∨ c = ')' := by
  simp [isParenthesis]

theorem exists_closing {d : Nat} : {t : List Char} → depthAfter (d + 1) t = some 0 →
    ∃ u v, t = u ++ ')' :: v ∧ isBalanced u = true ∧ depthAfter d v = some 0
  | [], h => by cases h
  | c :: t, h => by
    by_cases hc : isParenthesis c = true
    · rcases isParenthesis_eq_true_iff.1 hc with rfl | rfl
      · rw [depthAfter_opening] at h
        obtain ⟨u, v, ht, hu, hv⟩ := exists_closing h
        have hlength : v.length < t.length + 1 := by
          rw [ht, List.length_append, List.length_cons]
          omega
        obtain ⟨u', v', rfl, hu', hv'⟩ := exists_closing hv
        refine ⟨'(' :: (u ++ ')' :: u'), v', by simp [ht], ?_, hv'⟩
        rw [isBalanced_iff, depthAfter_opening, depthAfter_append_of_isBalanced hu,
          depthAfter_closing_succ, isBalanced_iff.1 hu']
      · exact ⟨[], t, rfl, rfl, h⟩
    · rw [Bool.not_eq_true] at hc
      rw [depthAfter_cons hc] at h
      obtain ⟨u, v, rfl, hu, hv⟩ := exists_closing h
      refine ⟨c :: u, v, rfl, ?_, hv⟩
      rw [isBalanced_iff, depthAfter_cons hc, isBalanced_iff.1 hu]
termination_by t => t.length

theorem isNested_of_isBalanced : (t : List Char) → isBalanced t = true → IsNested t
  | [], _ => .nil
  | c :: t, h => by
    rw [isBalanced_iff] at h
    by_cases hc : isParenthesis c = true
    · rcases isParenthesis_eq_true_iff.1 hc with rfl | rfl
      · rw [depthAfter_opening] at h
        obtain ⟨u, v, rfl, hu, hv⟩ := exists_closing h
        have hlengths : u.length < (u ++ ')' :: v).length + 1 ∧ v.length < (u ++ ')' :: v).length + 1 := by
          rw [List.length_append, List.length_cons]
          omega
        exact .pair (isNested_of_isBalanced u hu) (isNested_of_isBalanced v (isBalanced_iff.2 hv))
      · cases h
    · rw [Bool.not_eq_true] at hc
      rw [depthAfter_cons hc] at h
      exact .other hc (isNested_of_isBalanced t (isBalanced_iff.2 h))
termination_by t => t.length

theorem isBalanced_iff_isNested {t : List Char} : isBalanced t = true ↔ IsNested t := by
  refine ⟨isNested_of_isBalanced t, fun h => ?_⟩
  induction h with
  | nil => rfl
  | other hc _ ih => rw [isBalanced_iff, depthAfter_cons hc, isBalanced_iff.1 ih]
  | pair _ _ iht ihu =>
    rw [isBalanced_iff, depthAfter_opening, depthAfter_append_of_isBalanced iht, depthAfter_closing_succ,
      isBalanced_iff.1 ihu]

def IsEnclosing (t : List Char) : Prop :=
  ∃ r, t = '(' :: (r ++ [')']) ∧ IsNested r

theorem enclosed?_eq_none_iff {t : List Char} : enclosed? t = none ↔ ¬ IsEnclosing t := by
  simp only [Option.eq_none_iff_forall_ne_some, ne_eq, enclosed?_eq_some_iff, isBalanced_iff_isNested,
    IsEnclosing, not_exists]

inductive Unwraps : List Char → Nat → List Char → Prop
  | done {t : List Char} : ¬ IsEnclosing t → Unwraps t 0 t
  | round {r u : List Char} {n : Nat} : IsNested r → Unwraps (trim r) n u →
      Unwraps ('(' :: (r ++ [')'])) (n + 1) u

inductive Surrounds (core : List Char) : List Char → Prop
  | refl : Surrounds core core
  | pair {front t back : List Char} : front.all isBlank = true → back.all isBlank = true →
      IsNested (front ++ t ++ back) → Surrounds core t →
      Surrounds core ('(' :: (front ++ t ++ back ++ [')']))

def enclosedTimes (k : Nat) (core : List Char) : List Char :=
  List.replicate k '(' ++ core ++ List.replicate k ')'

section Loop
variable {t r : List Char}

theorem exists_unwraps (t : List Char) : ∃ n, 2 * n ≤ t.length ∧ Unwraps t n (unwrap t) := by
  fun_induction unwrap t with
  | case1 t hnone => exact ⟨0, Nat.zero_le _, .done (enclosed?_eq_none_iff.1 hnone)⟩
  | case2 t r hr ih =>
    obtain ⟨rfl, hbalanced⟩ := enclosed?_eq_some_iff.1 hr
    obtain ⟨n, hn, hrun⟩ := ih
    have hshort := length_trim_le r
    refine ⟨n + 1, ?_, .round (isBalanced_iff_isNested.1 hbalanced) hrun⟩
    simp only [List.length_cons, List.length_append, List.length_nil]
    omega

theorem Unwraps.eq_unwrap {u : List Char} {n : Nat} (h : Unwraps t n u) : u = unwrap t := by
  induction h with
  | done hnone =>
    rw [unwrap]
    split
    · rfl
    · rename_i hr
      rw [enclosed?_eq_none_iff.2 hnone] at hr
      cases hr
  | round hr _ ih => rw [unwrap_enclosed (isBalanced_iff_isNested.2 hr), ih]

theorem Unwraps.not_isEnclosing {u : List Char} {n : Nat} (h : Unwraps t n u) : ¬ IsEnclosing u := by
  induction h with
  | done h => exact h
  | round _ _ ih => exact ih

theorem unwrap_of_not_isEnclosing (h : ¬ IsEnclosing t) : unwrap t = t :=
  (Unwraps.done h).eq_unwrap.symm

theorem unwrap_unwrap (t : List Char) : unwrap (unwrap t) = unwrap t := by
  obtain ⟨n, -, hrun⟩ := exists_unwraps t
  exact unwrap_of_not_isEnclosing hrun.not_isEnclosing

theorem surrounds_unwrap (t : List Char) : Surrounds (unwrap t) t := by
  fun_induction unwrap t with
  | case1 => exact .refl
  | case2 t r hr ih =>
    obtain ⟨rfl, hbalanced⟩ := enclosed?_eq_some_iff.1 hr
    obtain ⟨front, back, hr, hfront, hback⟩ := exists_append_trim r
    rw [isBalanced_iff_isNested, hr] at hbalanced
    have hpair := Surrounds.pair hfront hback hbalanced ih
    rwa [← hr] at hpair

end Loop

section Times
variable {core : List Char}

theorem enclosedTimes_zero (core : List Char) : enclosedTimes 0 core = core := by
  simp [enclosedTimes]

theorem enclosedTimes_succ (k : Nat) (core : List Char) :
    enclosedTimes (k + 1) core = '(' :: (enclosedTimes k core ++ [')']) := by
  simp [enclosedTimes, List.replicate_succ, ← List.replicate_succ']

theorem isNested_enclosedTimes (h : IsNested core) (k : Nat) : IsNested (enclosedTimes k core) := by
  induction k with
  | zero => rwa [enclosedTimes_zero]
  | succ k ih =>
    rw [enclosedTimes_succ]
    exact .pair ih .nil

theorem trim_enclosedTimes (h : trim core = core) (k : Nat) :
    trim (enclosedTimes k core) = enclosedTimes k core := by
  cases k with
  | zero => rwa [enclosedTimes_zero]
  | succ k =>
    rw [enclosedTimes_succ]
    exact (hasBareEnds_between rfl rfl _).trim_eq

theorem unwraps_enclosedTimes (hnested : IsNested core) (htrim : trim core = core)
    (h : ¬ IsEnclosing core) (k : Nat) : Unwraps (enclosedTimes k core) k core := by
  induction k with
  | zero =>
    rw [enclosedTimes_zero]
    exact .done h
  | succ k ih =>
    rw [enclosedTimes_succ]
    refine .round (isNested_enclosedTimes hnested k) ?_
    rwa [trim_enclosedTimes htrim]

end Times

theorem unwrap_takes_off_enclosing_pairs (t : List Char) :
    (∃ n, 2 * n ≤ t.length ∧ Unwraps t n (unwrap t)) ∧
      unwrap (unwrap t) = unwrap t ∧
      Surrounds (unwrap t) t ∧
      (IsNested (unwrap t) ↔ IsNested t) ∧
      (∀ core k, IsNested core → trim core = core → ¬ IsEnclosing core → t = enclosedTimes k core →
        unwrap t = core) := by
  refine ⟨exists_unwraps t, unwrap_unwrap t, surrounds_unwrap t, ?_, ?_⟩
  · rw [← isBalanced_iff_isNested, isBalanced_unwrap, isBalanced_iff_isNested]
  · rintro core k hnested htrim henclosing rfl
    exact (unwraps_enclosedTimes hnested htrim henclosing k).eq_unwrap.symm

theorem unwrap_takes_off_enclosing_pairs_threefold :
    unwrap "(((f(1) + (2))))".toList = "f(1) + (2)".toList ∧
      unwrap (unwrap "( (a)+(b) )".toList) = unwrap "( (a)+(b) )".toList := by
  obtain ⟨-, -, -, -, hcore⟩ := unwrap_takes_off_enclosing_pairs "(((f(1) + (2))))".toList
  have hnested : IsNested "f(1) + (2)".toList := isBalanced_iff_isNested.1 (by decide)
  have hopen : ¬ IsEnclosing "f(1) + (2)".toList := by
    rintro ⟨r, hr, -⟩
    exact absurd (List.cons.inj hr).1 (by decide)
  exact ⟨hcore _ 3 hnested (by decide) hopen (by decide),
    (unwrap_takes_off_enclosing_pairs "( (a)+(b) )".toList).2.1⟩

end PolySql.Text

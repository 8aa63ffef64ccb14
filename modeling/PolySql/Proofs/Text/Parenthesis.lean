import PolySql.Proofs.Text.Cut
import PolySql.Text.Parenthesis

namespace PolySql.Text

def isParenthesis (c : Char) : Bool :=
  c == '(' || c == ')'

theorem isParenthesis_of_isBlank {c : Char} (h : isBlank c = true) : isParenthesis c = false := by
  rw [isParenthesis, Bool.or_eq_false_iff, beq_eq_false_iff_ne, beq_eq_false_iff_ne]
  constructor <;> (rintro rfl; exact absurd h (by decide))

section Depth
variable {d e : Nat} {c : Char} {t u : List Char}

@[simp] theorem depthAfter_nil : depthAfter d [] = some d := rfl

@[simp] theorem depthAfter_opening : depthAfter d ('(' :: t) = depthAfter (d + 1) t := rfl

@[simp] theorem depthAfter_closing_zero : depthAfter 0 (')' :: t) = none := rfl

@[simp] theorem depthAfter_closing_succ : depthAfter (d + 1) (')' :: t) = depthAfter d t := rfl

theorem depthAfter_cons (h : isParenthesis c = false) : depthAfter d (c :: t) = depthAfter d t := by
  simp only [isParenthesis, Bool.or_eq_false_iff, beq_eq_false_iff_ne] at h
  rw [depthAfter]
  · exact h.1
  · exact h.2

theorem depthAfter_append :
    depthAfter d (t ++ u) = (depthAfter d t).bind fun e => depthAfter e u := by
  fun_induction depthAfter d t with
  | case1 => rfl
  | case2 d r ih => simpa using ih
  | case3 => rfl
  | case4 r d ih => simpa using ih
  | case5 d c r hopening hclosing ih =>
    have hc : isParenthesis c = false := by
      simpa [isParenthesis] using And.intro hopening hclosing
    rw [List.cons_append, depthAfter_cons hc, ih]

theorem depthAfter_add (h : depthAfter d t = some e) (k : Nat) :
    depthAfter (d + k) t = some (e + k) := by
  fun_induction depthAfter d t with
  | case1 d =>
    obtain rfl := Option.some.inj h
    rfl
  | case2 d r ih =>
    rw [depthAfter_opening, Nat.add_right_comm]
    exact ih h
  | case3 => cases h
  | case4 r d ih =>
    rw [Nat.succ_add, depthAfter_closing_succ]
    exact ih h
  | case5 d c r hopening hclosing ih =>
    have hc : isParenthesis c = false := by
      simpa [isParenthesis] using And.intro hopening hclosing
    rw [depthAfter_cons hc]
    exact ih h

theorem depthAfter_of_all (h : t.all isBlank = true) : depthAfter d t = some d := by
  induction t with
  | nil => rfl
  | cons c t ih =>
    rw [List.all_cons, Bool.and_eq_true] at h
    rw [depthAfter_cons (isParenthesis_of_isBlank h.1), ih h.2]

end Depth

section Balance
variable {d : Nat} {t u : List Char}

theorem isBalanced_iff : isBalanced t = true ↔ depthAfter 0 t = some 0 :=
  beq_iff_eq

theorem depthAfter_append_of_isBalanced (h : isBalanced t = true) :
    depthAfter d (t ++ u) = depthAfter d u := by
  have hd := depthAfter_add (isBalanced_iff.1 h) d
  rw [Nat.zero_add] at hd
  rw [depthAfter_append, hd]
  rfl

theorem isBalanced_enclosed (h : isBalanced t = true) : isBalanced ('(' :: (t ++ [')'])) = true := by
  rw [isBalanced_iff, depthAfter_opening, depthAfter_append_of_isBalanced h]
  rfl

theorem isBalanced_trim (t : List Char) : isBalanced (trim t) = isBalanced t := by
  obtain ⟨front, back, ht, hfront, hback⟩ := exists_append_trim t
  have hdepth : depthAfter 0 t = depthAfter 0 (trim t) := by
    conv_lhs => rw [ht]
    rw [List.append_assoc, depthAfter_append, depthAfter_of_all hfront, Option.bind_some,
      depthAfter_append]
    cases depthAfter 0 (trim t) with
    | none => rfl
    | some d => exact depthAfter_of_all hback
  rw [isBalanced, isBalanced, hdepth]

theorem not_isBalanced_of_uneven (h : isBalanced t = true) :
    isBalanced ('(' :: '(' :: (t ++ [')'])) = false ∧ isBalanced ('(' :: (t ++ [')', ')'])) = false := by
  simp only [isBalanced, depthAfter_opening, depthAfter_append_of_isBalanced h]
  exact ⟨rfl, rfl⟩

end Balance

section Unwrap
variable {c : Char} {t r : List Char}

theorem enclosed?_eq_some_iff :
    enclosed? t = some r ↔ t = '(' :: (r ++ [')']) ∧ isBalanced r = true := by
  rw [enclosed?, Option.filter_eq_some_iff, between?_eq_some_iff]
  rfl

theorem unwrap_enclosed (h : isBalanced r = true) : unwrap ('(' :: (r ++ [')'])) = unwrap (trim r) := by
  have hr : enclosed? ('(' :: (r ++ [')'])) = some r := enclosed?_eq_some_iff.2 ⟨rfl, h⟩
  rw [unwrap]
  split
  · rename_i hnone
    rw [hr] at hnone
    cases hnone
  · rename_i r' hr'
    rw [hr] at hr'
    obtain rfl := Option.some.inj hr'
    rfl

theorem isBalanced_unwrap (t : List Char) : isBalanced (unwrap t) = isBalanced t := by
  fun_induction unwrap t with
  | case1 => rfl
  | case2 t r hr ih =>
    obtain ⟨rfl, hbalanced⟩ := enclosed?_eq_some_iff.1 hr
    rw [ih, isBalanced_trim, hbalanced, isBalanced_enclosed hbalanced]

theorem mem_unwrap (hc : isBlank c = false) (hp : isParenthesis c = false) (h : c ∈ t) :
    c ∈ unwrap t := by
  simp only [isParenthesis, Bool.or_eq_false_iff, beq_eq_false_iff_ne] at hp
  fun_induction unwrap t with
  | case1 => exact h
  | case2 t r hr ih =>
    obtain ⟨rfl, -⟩ := enclosed?_eq_some_iff.1 hr
    exact ih (mem_trim hc (by simpa [hp] using h))

end Unwrap

end PolySql.Text

import PolySql.Compiler.Emission

namespace PolySql.Emission

structure Congruence (T : String → Prop) (R : Prop → Emission → Emission → Prop) : Prop where
  nil : R True [] []
  lit {s : String} : T s → R True (lit s) (lit s)
  fault {e : CompileError} : R True [.fault e] [.fault e]
  append {c c' : Prop} {a b a' b' : Emission} :
    R c a b → R c' a' b' → R (c ∧ c') (a ++ a') (b ++ b')

namespace Congruence

variable {T : String → Prop} {R : Prop → Emission → Emission → Prop} (hR : Congruence T R)
  {c c' : Prop} {a b a' b' : Emission}
include hR

omit hR in
theorem congr (hc : c ↔ c') (h : R c a b) : R c' a b :=
  propext hc ▸ h

theorem append_true (h : R c a b) (h' : R True a' b') : R c (a ++ a') (b ++ b') :=
  congr (and_iff_left trivial) (hR.append h h')

theorem true_append (h : R True a b) (h' : R c a' b') : R c (a ++ a') (b ++ b') :=
  congr (and_iff_right trivial) (hR.append h h')

theorem parenthesized (hopen : T "(") (hclose : T ")") (h : R c a b) :
    R c (parenthesized a) (parenthesized b) :=
  hR.append_true (hR.true_append (hR.lit hopen) h) (hR.lit hclose)

theorem parenthesizedIf (hopen : T "(") (hclose : T ")") {x y : Bool} (hxy : y = x) (h : R c a b) :
    R c (parenthesizedIf x a) (parenthesizedIf y b) := by
  subst hxy
  cases y with
  | true => exact hR.parenthesized hopen hclose h
  | false => exact h

section List
variable {α : Type} {xs : List α} {p : α → Prop} {f g : α → Emission}

theorem flatMap (h : ∀ x ∈ xs, R (p x) (f x) (g x)) :
    R (∀ x ∈ xs, p x) (xs.flatMap f) (xs.flatMap g) := by
  induction xs with
  | nil => exact congr (by simp) hR.nil
  | cons x xs ih =>
    obtain ⟨hx, hxs⟩ := List.forall_mem_cons.1 h
    exact congr List.forall_mem_cons.symm (hR.append hx (ih hxs))

theorem separated {sep : String} (hsep : T sep) (h : ∀ x ∈ xs, R (p x) (f x) (g x)) :
    R (∀ x ∈ xs, p x) (separated sep (xs.map f)) (separated sep (xs.map g)) := by
  induction xs with
  | nil => exact congr (by simp) hR.nil
  | cons x xs ih =>
    obtain ⟨hx, hxs⟩ := List.forall_mem_cons.1 h
    cases xs with
    | nil => exact congr (by simp) hx
    | cons y ys =>
      exact congr List.forall_mem_cons.symm
        (hR.append (hR.append_true hx (hR.lit hsep)) (ih hxs))

theorem option {x : Option α} {keyword : α → Emission} (hk : ∀ y, R True (keyword y) (keyword y))
    (h : ∀ y ∈ x, R (p y) (f y) (g y)) :
    R (∀ y ∈ x, p y) (x.elim [] fun y => keyword y ++ f y)
      (x.elim [] fun y => keyword y ++ g y) := by
  cases x with
  | none => exact congr (by simp) hR.nil
  | some y => exact congr (by simp) (hR.true_append (hk y) (h y rfl))

end List

end Congruence

end PolySql.Emission

import PolySql.Compiler.Compile

namespace PolySql.Emission

variable (p : String) {a b : Emission}

@[simp] theorem sql_nil : sql p [] = "" := rfl

theorem sql_cons (x : Piece) (e : Emission) : sql p (x :: e) = x.sql p ++ sql p e :=
  String.join_cons

theorem sql_append (a b : Emission) : sql p (a ++ b) = sql p a ++ sql p b := by
  rw [sql, List.map_append, String.join_append]
  rfl

@[simp] theorem sql_lit (s : String) : sql p (lit s) = s := by
  rw [lit, sql_cons, sql_nil]
  simp [Piece.sql]

theorem binds_append (a b : Emission) : (a ++ b).binds = a.binds ++ b.binds :=
  List.filterMap_append

theorem binds_lit (s : String) : (lit s).binds = [] := rfl

def IsFaultless (e : Emission) : Prop :=
  ∀ x ∈ e, x.fault? = none

theorem fault?_eq_none : a.fault? = none ↔ a.IsFaultless :=
  List.findSome?_eq_none_iff

theorem isFaultless_append : (a ++ b).IsFaultless ↔ a.IsFaultless ∧ b.IsFaultless :=
  List.forall_mem_append

theorem finish_of_isFaultless (h : a.IsFaultless) : a.finish p = .ok (a.sql p, a.binds) := by
  rw [finish, fault?_eq_none.2 h]

theorem of_finish_eq_ok {w : String × List Value} (h : a.finish p = .ok w) :
    a.IsFaultless ∧ w = (a.sql p, a.binds) := by
  unfold finish at h
  split at h
  · cases h
  · rename_i hf
    exact ⟨fault?_eq_none.1 hf, (Except.ok.inj h).symm⟩

@[simp] theorem isFaultless_nil : IsFaultless [] :=
  List.forall_mem_nil _

@[simp] theorem isFaultless_lit (s : String) : (lit s).IsFaultless :=
  List.forall_mem_singleton.2 rfl

@[simp] theorem isFaultless_parenthesized : (parenthesized a).IsFaultless ↔ a.IsFaultless := by
  simp [parenthesized, isFaultless_append]

@[simp] theorem isFaultless_parenthesizedIf {x : Bool} :
    (parenthesizedIf x a).IsFaultless ↔ a.IsFaultless := by
  cases x with
  | true => exact isFaultless_parenthesized
  | false => exact Iff.rfl

@[simp] theorem isFaultless_separated {sep : String} {es : List Emission} :
    (separated sep es).IsFaultless ↔ ∀ e ∈ es, e.IsFaultless := by
  induction es with
  | nil => simp [separated]
  | cons x xs ih =>
    cases xs with
    | nil => simp [separated]
    | cons y ys =>
      rw [separated, isFaultless_append, isFaultless_append, ih, List.forall_mem_cons (a := x)]
      · simp
      · simp

end PolySql.Emission

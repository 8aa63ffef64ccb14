import PolySql.Proofs.Tree.Map
import PolySql.Tree.Equality

namespace PolySql

def Value.isNaN : Value → Bool
  | float d => d.isNaN
  | _ => false

theorem Value.beq_self {v : Value} (h : v.isNaN = false) : (v == v) = true := by
  cases v with
  | float d =>
    have hd : d.isNaN = false := h
    show (d == d) = true
    show (!d.isNaN && !d.isNaN && (d.bits == d.bits || d.isZero && d.isZero)) = true
    simp [hd]
  | zoned z =>
    show (z.utc == z.utc) = true
    simp
  | null => rfl
  | bool b => show (b == b) = true; simp
  | int n => show (n == n) = true; simp
  | decimal s => show (s == s) = true; simp
  | text s => show (s == s) = true; simp
  | blob bs => show (bs == bs) = true; simp
  | date d => show (d == d) = true; simp
  | time c => show (c == c) = true; simp
  | timestamp t => show (t == t) = true; simp

def Expr.isNaNFree : Expr → Bool
  | .value v | .bind v => !v.isNaN
  | .raw _ bs => bs.all fun v => !v.isNaN
  | _ => true

def Node.IsNaNFree : Node → Prop
  | .expr e => e.isNaNFree = true
  | .table _ | .select _ => True

section Same
variable {f : Expr → Expr} {g : TableRef → TableRef} {h : Select → Select}

theorem Expr.sameList_map {as bs : List Expr}
    (hf : ∀ a ∈ as, ∀ b, a.same b = true → (f a).same (f b) = true)
    (hs : Expr.sameList as bs = true) : Expr.sameList (as.map f) (bs.map f) = true := by
  induction as generalizing bs with
  | nil => cases bs <;> simp_all [sameList]
  | cons a as ih => cases bs <;> simp_all [sameList]

theorem Expr.sameOption_map {a b : Option Expr}
    (hf : ∀ x ∈ a, ∀ y, x.same y = true → (f x).same (f y) = true)
    (hs : Expr.sameOption a b = true) : Expr.sameOption (a.map f) (b.map f) = true := by
  cases a <;> cases b <;> simp_all [sameOption]

theorem Branch.sameList_map {as bs : List Branch}
    (hf : ∀ a ∈ as, (∀ b, a.test.same b = true → (f a.test).same (f b) = true) ∧
      ∀ b, a.result.same b = true → (f a.result).same (f b) = true)
    (hs : Branch.sameList as bs = true) :
    Branch.sameList (as.map (Branch.map f)) (bs.map (Branch.map f)) = true := by
  induction as generalizing bs with
  | nil => cases bs <;> simp_all [sameList]
  | cons a as ih =>
    cases bs with
    | nil => simp [sameList] at hs
    | cons b bs =>
      cases a
      cases b
      simp_all [sameList, Branch.same, Branch.map]

theorem Projection.sameList_map {as bs : List Projection}
    (hf : ∀ a ∈ as, ∀ b, a.expr.same b = true → (f a.expr).same (f b) = true)
    (hs : Projection.sameList as bs = true) :
    Projection.sameList (as.map (Projection.map f)) (bs.map (Projection.map f)) = true := by
  induction as generalizing bs with
  | nil => cases bs <;> simp_all [sameList]
  | cons a as ih =>
    cases bs with
    | nil => simp [sameList] at hs
    | cons b bs =>
      cases a
      cases b
      simp_all [sameList, Projection.same, Projection.map]

theorem Order.sameList_map {as bs : List Order}
    (hf : ∀ a ∈ as, ∀ b, a.expr.same b = true → (f a.expr).same (f b) = true)
    (hs : Order.sameList as bs = true) :
    Order.sameList (as.map (Order.map f)) (bs.map (Order.map f)) = true := by
  induction as generalizing bs with
  | nil => cases bs <;> simp_all [sameList]
  | cons a as ih =>
    cases bs with
    | nil => simp [sameList] at hs
    | cons b bs =>
      cases a
      cases b
      simp_all [sameList, Order.same, Order.map]

theorem TableRef.sameOption_map {a b : Option TableRef}
    (hf : ∀ x ∈ a, ∀ y, x.same y = true → (g x).same (g y) = true)
    (hs : TableRef.sameOption a b = true) :
    TableRef.sameOption (a.map g) (b.map g) = true := by
  cases a <;> cases b <;> simp_all [sameOption]

theorem Join.sameList_map {as bs : List Join}
    (hf : ∀ a ∈ as, (∀ t, a.table.same t = true → (g a.table).same (g t) = true) ∧
      ∀ e ∈ a.condition, ∀ b, e.same b = true → (f e).same (f b) = true)
    (hs : Join.sameList as bs = true) :
    Join.sameList (as.map (Join.map f g)) (bs.map (Join.map f g)) = true := by
  induction as generalizing bs with
  | nil => cases bs <;> simp_all [sameList]
  | cons a as ih =>
    cases bs with
    | nil => simp [sameList] at hs
    | cons b bs =>
      cases a
      cases b
      simp only [sameList, Join.same, Bool.and_eq_true, List.forall_mem_cons] at hs hf
      obtain ⟨⟨⟨hk, ht⟩, hc⟩, hs⟩ := hs
      simp only [List.map_cons, sameList, Join.same, Join.map, Bool.and_eq_true]
      exact ⟨⟨⟨hk, hf.1.1 _ ht⟩, Expr.sameOption_map hf.1.2 hc⟩, ih hf.2 hs⟩

def Node.KeepsSame (f : Expr → Expr) (g : TableRef → TableRef) (h : Select → Select) :
    Node → Prop
  | .expr e => ∀ e', e.same e' = true → (f e).same (f e') = true
  | .table t => ∀ t', t.same t' = true → (g t).same (g t') = true
  | .select s => ∀ s', s.same s' = true → (h s).same (h s') = true

theorem Expr.same_mapParts {e e' : Expr} (hm : ∀ m ∈ e.parts, m.KeepsSame f g h)
    (hs : e.same e' = true) : (e.mapParts f h).same (e'.mapParts f h) = true := by
  revert hs hm
  fun_cases Expr.same e e' with
  | case13 =>
    intro hm hs
    simp only [forall_parts_case, Node.KeepsSame] at hm
    simp only [Bool.and_eq_true] at hs
    simp only [mapParts, same, Bool.and_eq_true]
    exact ⟨⟨sameOption_map hm.1 hs.1.1, Branch.sameList_map hm.2.1 hs.1.2⟩,
      sameOption_map hm.2.2 hs.2⟩
  | case18 => intro hm hs; cases hs
  | _ =>
    intro hm hs
    simp_all [mapParts, same, parts, Node.KeepsSame, sameList_map]

theorem TableRef.same_mapParts {t t' : TableRef} (hm : ∀ m ∈ t.parts, m.KeepsSame f g h)
    (hs : t.same t' = true) : (t.mapParts h).same (t'.mapParts h) = true := by
  cases t <;> cases t' <;> simp_all [mapParts, same, parts, Node.KeepsSame]

theorem Select.same_mapParts {s s' : Select} (hm : ∀ m ∈ s.parts, m.KeepsSame f g h)
    (hs : s.same s' = true) : (s.mapParts f g).same (s'.mapParts f g) = true := by
  cases s
  cases s'
  simp only [forall_parts, Node.KeepsSame] at hm
  obtain ⟨hp, ht, hj, hw, hg, hh, ho⟩ := hm
  simp only [same, Bool.and_eq_true] at hs
  obtain ⟨⟨⟨⟨⟨⟨⟨⟨⟨⟨sd, sp⟩, st⟩, sj⟩, sw⟩, sg⟩, sh⟩, so⟩, sl⟩, sk⟩, sx⟩ := hs
  simp only [mapParts, same, Bool.and_eq_true]
  exact ⟨⟨⟨⟨⟨⟨⟨⟨⟨⟨sd, Projection.sameList_map hp sp⟩, TableRef.sameOption_map ht st⟩,
    Join.sameList_map hj sj⟩, Expr.sameList_map hw sw⟩, Expr.sameList_map hg sg⟩,
    Expr.sameList_map hh sh⟩, Order.sameList_map ho so⟩, sl⟩, sk⟩, sx⟩

theorem Node.keepsSame_transform {step : Bool → Select → Select}
    (hstep : ∀ s s', s.same s' = true → (step true s).same (step true s') = true) (n : Node) :
    n.KeepsSame (Expr.transform step) (TableRef.transform step) (Select.transform step true) := by
  induction n using Node.induct with
  | step n ih =>
    have hm := fun m hm => ih m (mem_children_of_mem_parts hm)
    cases n with
    | expr e =>
      intro e' hs
      rw [e.transform_eq, e'.transform_eq]
      exact Expr.same_mapParts hm hs
    | table t =>
      intro t' hs
      rw [t.transform_eq, t'.transform_eq]
      exact TableRef.same_mapParts hm hs
    | select s =>
      intro s' hs
      rw [s.transform_eq, s'.transform_eq]
      exact hstep _ _ (Select.same_mapParts hm hs)

end Same

section Reflexive

theorem Expr.sameList_self {es : List Expr} (h : ∀ e ∈ es, e.same e = true) :
    Expr.sameList es es = true := by
  induction es with
  | nil => simp [sameList]
  | cons e es ih => simp_all [sameList]

theorem Expr.sameOption_self {o : Option Expr} (h : ∀ e ∈ o, e.same e = true) :
    Expr.sameOption o o = true := by
  cases o <;> simp_all [sameOption]

theorem Branch.sameList_self {bs : List Branch}
    (h : ∀ b ∈ bs, b.test.same b.test = true ∧ b.result.same b.result = true) :
    Branch.sameList bs bs = true := by
  induction bs with
  | nil => simp [sameList]
  | cons b bs ih =>
    cases b
    simp_all [sameList, Branch.same]

theorem Projection.sameList_self {ps : List Projection}
    (h : ∀ p ∈ ps, p.expr.same p.expr = true) : Projection.sameList ps ps = true := by
  induction ps with
  | nil => simp [sameList]
  | cons p ps ih =>
    cases p
    simp_all [sameList, Projection.same]

theorem Order.sameList_self {os : List Order} (h : ∀ o ∈ os, o.expr.same o.expr = true) :
    Order.sameList os os = true := by
  induction os with
  | nil => simp [sameList]
  | cons o os ih =>
    cases o
    simp_all [sameList, Order.same]

theorem TableRef.sameOption_self {o : Option TableRef} (h : ∀ t ∈ o, t.same t = true) :
    TableRef.sameOption o o = true := by
  cases o <;> simp_all [sameOption]

theorem Join.sameList_self {js : List Join}
    (h : ∀ j ∈ js, j.table.same j.table = true ∧ ∀ e ∈ j.condition, e.same e = true) :
    Join.sameList js js = true := by
  induction js with
  | nil => simp [sameList]
  | cons j js ih =>
    cases j
    simp only [List.forall_mem_cons] at h
    simp only [sameList, Join.same, Bool.and_eq_true]
    exact ⟨⟨⟨beq_self_eq_true _, h.1.1⟩, Expr.sameOption_self h.1.2⟩, ih h.2⟩

def Node.SameSelf : Node → Prop
  | .expr e => e.same e = true
  | .table t => t.same t = true
  | .select s => s.same s = true

theorem Value.beqList_self {bs : List Value} (h : bs.all (fun v => !v.isNaN) = true) :
    (bs == bs) = true := by
  induction bs with
  | nil => rfl
  | cons b bs ih => simp_all [Value.beq_self]

theorem Expr.same_self {e : Expr} (hm : ∀ m ∈ e.parts, m.SameSelf) (he : e.isNaNFree = true) :
    e.same e = true := by
  cases e with
  | value v | bind v => simp_all [same, isNaNFree, Value.beq_self]
  | raw t bs =>
    rw [same, beq_self_eq_true, Bool.true_and]
    exact Value.beqList_self he
  | case o bs e =>
    simp only [forall_parts_case, Node.SameSelf] at hm
    simp only [same, Bool.and_eq_true]
    exact ⟨⟨sameOption_self hm.1, Branch.sameList_self hm.2.1⟩, sameOption_self hm.2.2⟩
  | _ => simp_all [same, parts, Node.SameSelf, sameList_self]

theorem Node.sameSelf_of_isNaNFree {n : Node} (h : n.Throughout children IsNaNFree) :
    n.SameSelf := by
  induction h with
  | @intro n h _ ih =>
    cases n with
    | expr e => exact Expr.same_self ih h
    | table t =>
      cases t <;> simp_all [SameSelf, TableRef.same, children, TableRef.parts]
    | select s =>
      cases s
      simp only [children, List.forall_mem_append, Select.forall_parts, Select.forall_bounds,
        SameSelf] at ih
      obtain ⟨⟨hp, ht, hj, hw, hg, hh, ho⟩, hl, hk⟩ := ih
      simp only [SameSelf, Select.same, Bool.and_eq_true]
      exact ⟨⟨⟨⟨⟨⟨⟨⟨⟨⟨beq_self_eq_true _, Projection.sameList_self hp⟩, TableRef.sameOption_self ht⟩,
        Join.sameList_self hj⟩, Expr.sameList_self hw⟩, Expr.sameList_self hg⟩,
        Expr.sameList_self hh⟩, Order.sameList_self ho⟩, Expr.sameOption_self hl⟩,
        Expr.sameOption_self hk⟩, beq_self_eq_true _⟩

end Reflexive

end PolySql

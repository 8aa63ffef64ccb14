import PolySql.Tree.Operator

namespace PolySql

inductive Comparison where
  | eq
  | notEq
  | lt
  | ltEq
  | gt
  | gtEq
  | like
  | notLike
  deriving DecidableEq

def Comparison.toBinary : Comparison → BinaryOp
  | eq => .eq
  | notEq => .notEq
  | lt => .lt
  | ltEq => .ltEq
  | gt => .gt
  | gtEq => .gtEq
  | like => .like
  | notLike => .notLike

inductive Test (α : Type) where
  | compare (left : α) (op : Comparison) (right : α)
  | isNull (e : α) (negated : Bool)
  | between (e low high : α) (negated : Bool)
  | inList (e : α) (list : List α) (negated : Bool)

def Test.map {α β : Type} (f : α → β) : Test α → Test β
  | compare l op r => compare (f l) op (f r)
  | isNull e negated => isNull (f e) negated
  | between e low high negated => between (f e) (f low) (f high) negated
  | inList e list negated => inList (f e) (list.map f) negated

inductive Condition where
  | test (t : Test String)
  | constant (holds : Bool)
  | not (c : Condition)
  | and (a b : Condition)
  | or (a b : Condition)

namespace Condition

def andThen (pending : Option Condition) (c : Condition) : Condition :=
  pending.elim c (.and · c)

def orElse (pending : Option Condition) (c : Condition) : Condition :=
  pending.elim c (.or · c)

def negate : Nat → Condition → Condition
  | 0, c => c
  | n + 1, c => not (negate n c)

def all : Condition → List Condition → Condition
  | c, [] => c
  | c, e :: es => .and c (all e es)

inductive Reassociates : Condition → Condition → Prop
  | refl (a : Condition) : Reassociates a a
  | symm {a b} : Reassociates a b → Reassociates b a
  | trans {a b c} : Reassociates a b → Reassociates b c → Reassociates a c
  | not {a b : Condition} : Reassociates a b → Reassociates a.not b.not
  | and {a b c d : Condition} : Reassociates a b → Reassociates c d → Reassociates (a.and c) (b.and d)
  | or {a b c d : Condition} : Reassociates a b → Reassociates c d → Reassociates (a.or c) (b.or d)
  | and_assoc (a b c : Condition) : Reassociates ((a.and b).and c) (a.and (b.and c))
  | or_assoc (a b c : Condition) : Reassociates ((a.or b).or c) (a.or (b.or c))

inductive Lexeme where
  | opening
  | closing
  | comma
  | and
  | or
  | not
  | is
  | within
  | between
  | comparison (op : Comparison)
  | constant (holds : Bool)
  | operand (w : String)

inductive Position where
  | start
  | behind (e : String)
  | denied (e : String)
  | comparing (e : String) (op : Comparison)
  | testing (e : String) (negated : Bool)
  | above (e : String) (negated : Bool)
  | lower (e low : String) (negated : Bool)
  | below (e low : String) (negated : Bool)
  | entering (e : String) (negated : Bool)
  | listing (e : String) (negated : Bool) (list : List String)
  | listed (e : String) (negated : Bool) (list : List String)
  | done (c : Condition)

def Position.step : Position → Lexeme → Option Position
  | start, .constant holds => some (done (.constant holds))
  | start, .operand w => some (behind w)
  | behind e, .comparison op => some (comparing e op)
  | behind e, .not => some (denied e)
  | behind e, .is => some (testing e false)
  | behind e, .between => some (above e false)
  | behind e, .within => some (entering e false)
  | denied e, .comparison .like => some (comparing e .notLike)
  | denied e, .between => some (above e true)
  | denied e, .within => some (entering e true)
  | comparing e op, .operand w => some (done (.test (.compare e op w)))
  | testing e false, .not => some (testing e true)
  | testing e negated, .operand w =>
    if w = "NULL" then some (done (.test (.isNull e negated))) else none
  | above e negated, .operand w => some (lower e w negated)
  | lower e low negated, .and => some (below e low negated)
  | below e low negated, .operand w => some (done (.test (.between e low w negated)))
  | entering e negated, .opening => some (listing e negated [])
  | listing e negated list, .operand w => some (listed e negated (list ++ [w]))
  | listed e negated list, .comma => some (listing e negated list)
  | listed e negated list, .closing => some (done (.test (.inList e list negated)))
  | _, _ => none

structure Level where
  any : Option Condition
  all : Option Condition
  negations : Nat

namespace Level

def conjunction (l : Level) (c : Condition) : Condition :=
  andThen l.all (negate l.negations c)

def disjunction (l : Level) (c : Condition) : Condition :=
  orElse l.any (l.conjunction c)

end Level

structure Reader where
  position : Position
  level : Level
  outer : List Level

namespace Reader

def step : Reader → Lexeme → Option Reader
  | ⟨.start, l, outer⟩, .not => some ⟨.start, ⟨l.any, l.all, l.negations + 1⟩, outer⟩
  | ⟨.start, l, outer⟩, .opening => some ⟨.start, ⟨none, none, 0⟩, l :: outer⟩
  | ⟨.done c, l, outer⟩, .and => some ⟨.start, ⟨l.any, some (l.conjunction c), 0⟩, outer⟩
  | ⟨.done c, l, outer⟩, .or => some ⟨.start, ⟨some (l.disjunction c), none, 0⟩, outer⟩
  | ⟨.done c, l, m :: outer⟩, .closing => some ⟨.done (l.disjunction c), m, outer⟩
  | ⟨p, l, outer⟩, x => (p.step x).map fun p => ⟨p, l, outer⟩

def run (s : Reader) (xs : List Lexeme) : Option Reader :=
  xs.foldlM step s

end Reader

def read? (xs : List Lexeme) : Option Condition :=
  match Reader.run ⟨.start, ⟨none, none, 0⟩, []⟩ xs with
  | some ⟨.done c, l, []⟩ => some (l.disjunction c)
  | _ => none

namespace Reassociates

variable {a b c d : Condition} {p : Option Condition}

theorem andThen (h : Reassociates a b) (p : Option Condition) :
    Reassociates (Condition.andThen p a) (Condition.andThen p b) := by
  cases p with
  | none => exact h
  | some x => exact .and (.refl x) h

theorem orElse (h : Reassociates a b) (p : Option Condition) :
    Reassociates (Condition.orElse p a) (Condition.orElse p b) := by
  cases p with
  | none => exact h
  | some x => exact .or (.refl x) h

theorem andThen_and (p : Option Condition) (a b : Condition) :
    Reassociates ((Condition.andThen p a).and b) (Condition.andThen p (a.and b)) := by
  cases p with
  | none => exact .refl _
  | some x => exact .and_assoc x a b

theorem orElse_or (p : Option Condition) (a b : Condition) :
    Reassociates ((Condition.orElse p a).or b) (Condition.orElse p (a.or b)) := by
  cases p with
  | none => exact .refl _
  | some x => exact .or_assoc x a b

end Reassociates

namespace Reader

theorem run_append (s : Reader) (xs ys : List Lexeme) :
    s.run (xs ++ ys) = (s.run xs).bind fun t => t.run ys :=
  List.foldlM_append

theorem run_cons (s : Reader) (x : Lexeme) (xs : List Lexeme) :
    s.run (x :: xs) = (s.step x).bind fun s => s.run xs :=
  List.foldlM_cons

end Reader

open Reader

variable {xs ys : List Lexeme} {c e : Condition}

def ReadsNegated (xs : List Lexeme) (c : Condition) : Prop :=
  ∀ (l : Level) outer, ∃ x n,
    run ⟨.start, l, outer⟩ xs = some ⟨.done x, ⟨l.any, l.all, l.negations + n⟩, outer⟩ ∧
      Reassociates (negate n x) c

def ReadsConjuncts (xs : List Lexeme) (c : Condition) : Prop :=
  ∀ (any all : Option Condition) outer, ∃ x all' n,
    run ⟨.start, ⟨any, all, 0⟩, outer⟩ xs = some ⟨.done x, ⟨any, all', n⟩, outer⟩ ∧
      Reassociates (andThen all' (negate n x)) (andThen all c)

def ReadsDisjuncts (xs : List Lexeme) (c : Condition) : Prop :=
  ∀ (any : Option Condition) outer, ∃ x l,
    run ⟨.start, ⟨any, none, 0⟩, outer⟩ xs = some ⟨.done x, l, outer⟩ ∧
      Reassociates (l.disjunction x) (orElse any c)

theorem ReadsNegated.conjuncts (h : ReadsNegated xs c) : ReadsConjuncts xs c := by
  intro any all outer
  obtain ⟨x, n, hrun, hx⟩ := h ⟨any, all, 0⟩ outer
  exact ⟨x, all, 0 + n, hrun, by simpa using hx.andThen all⟩

theorem ReadsConjuncts.disjuncts (h : ReadsConjuncts xs c) : ReadsDisjuncts xs c := by
  intro any outer
  obtain ⟨x, all, n, hrun, hx⟩ := h any none outer
  exact ⟨x, _, hrun, hx.orElse any⟩

theorem ReadsDisjuncts.read? (h : ReadsDisjuncts xs c) :
    ∃ x, Condition.read? xs = some x ∧ Reassociates x c := by
  obtain ⟨x, l, hrun, hx⟩ := h none []
  refine ⟨l.disjunction x, ?_, hx⟩
  rw [Condition.read?, hrun]

theorem ReadsDisjuncts.enclosed (h : ReadsDisjuncts xs c) :
    ReadsNegated (.opening :: (xs ++ [.closing])) c := by
  intro l outer
  obtain ⟨x, m, hrun, hx⟩ := h none (l :: outer)
  refine ⟨m.disjunction x, 0, ?_, hx⟩
  show run ⟨.start, ⟨none, none, 0⟩, l :: outer⟩ (xs ++ [.closing]) = _
  rw [run_append, hrun]
  rfl

theorem ReadsNegated.not (h : ReadsNegated xs c) : ReadsNegated (.not :: xs) c.not := by
  intro l outer
  obtain ⟨x, n, hrun, hx⟩ := h ⟨l.any, l.all, l.negations + 1⟩ outer
  refine ⟨x, n + 1, ?_, hx.not⟩
  show run ⟨.start, ⟨l.any, l.all, l.negations + 1⟩, outer⟩ xs = _
  rw [hrun, Nat.add_assoc, Nat.add_comm 1 n]

theorem ReadsConjuncts.and (hc : ReadsConjuncts xs c) (he : ReadsConjuncts ys e) :
    ReadsConjuncts (xs ++ .and :: ys) (c.and e) := by
  intro any all outer
  obtain ⟨x, all', n, hrun, hx⟩ := hc any all outer
  obtain ⟨y, all'', m, hrun', hy⟩ := he any (some (andThen all' (negate n x))) outer
  refine ⟨y, all'', m, ?_, hy.trans ((Reassociates.and hx (.refl e)).trans (.andThen_and all c e))⟩
  rw [run_append, hrun, Option.bind_some, run_cons]
  exact hrun'

theorem ReadsDisjuncts.or (hc : ReadsDisjuncts xs c) (he : ReadsDisjuncts ys e) :
    ReadsDisjuncts (xs ++ .or :: ys) (c.or e) := by
  intro any outer
  obtain ⟨x, l, hrun, hx⟩ := hc any outer
  obtain ⟨y, m, hrun', hy⟩ := he (some (l.disjunction x)) outer
  refine ⟨y, m, ?_, hy.trans ((Reassociates.or hx (.refl e)).trans (.orElse_or any c e))⟩
  rw [run_append, hrun, Option.bind_some, run_cons]
  exact hrun'

def negation (negated : Bool) : List Lexeme :=
  if negated then [.not] else []

def comparisonLexemes : Comparison → List Lexeme
  | .notLike => [.not, .comparison .like]
  | op => [.comparison op]

def listLexemes : List String → List Lexeme
  | [] => []
  | [w] => [.operand w]
  | w :: ws => .operand w :: .comma :: listLexemes ws

def testLexemes : Test String → List Lexeme
  | .compare a op b => .operand a :: (comparisonLexemes op ++ [.operand b])
  | .isNull e negated => .operand e :: .is :: (negation negated ++ [.operand "NULL"])
  | .between e low high negated =>
    .operand e :: (negation negated ++ [.between, .operand low, .and, .operand high])
  | .inList e list negated =>
    .operand e :: (negation negated ++ .within :: .opening :: (listLexemes list ++ [.closing]))

theorem run_listLexemes (e : String) (negated : Bool) (list : List String) (l : Level)
    (outer : List Level) {ws : List String} (hne : ws ≠ []) :
    run ⟨.listing e negated list, l, outer⟩ (listLexemes ws) =
      some ⟨.listed e negated (list ++ ws), l, outer⟩ := by
  induction ws generalizing list with
  | nil => exact absurd rfl hne
  | cons w ws ih =>
    cases ws with
    | nil => rfl
    | cons w' ws =>
      show run ⟨.listing e negated (list ++ [w]), l, outer⟩ (listLexemes (w' :: ws)) = _
      rw [ih _ (List.cons_ne_nil _ _), List.append_assoc]
      rfl

theorem readsNegated_constant (holds : Bool) :
    ReadsNegated [.constant holds] (.constant holds) :=
  fun _ _ => ⟨_, 0, rfl, .refl _⟩

theorem readsNegated_test {t : Test String} (ht : ∀ e negated, t ≠ .inList e [] negated) :
    ReadsNegated (testLexemes t) (.test t) := by
  intro l outer
  refine ⟨.test t, 0, ?_, .refl _⟩
  cases t with
  | compare a op b => cases op <;> rfl
  | isNull e negated => cases negated <;> rfl
  | between e low high negated => cases negated <;> rfl
  | inList e list negated =>
    have hne : list ≠ [] := by
      rintro rfl
      exact ht e negated rfl
    have henter : run ⟨.start, l, outer⟩ (testLexemes (.inList e list negated)) =
        run ⟨.listing e negated [], l, outer⟩ (listLexemes list ++ [.closing]) := by
      cases negated <;> rfl
    rw [henter, run_append, run_listLexemes _ _ _ _ _ hne]
    rfl

end Condition

end PolySql

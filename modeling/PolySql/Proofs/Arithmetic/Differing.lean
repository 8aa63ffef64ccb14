import PolySql.Proofs.Arithmetic.Formula

namespace PolySql

theorem tmod_of_natAbs_lt {u : Int} {n : Nat} (h : u.natAbs < n) : u.tmod n = u := by
  rcases Int.le_total 0 u with hu | hu
  · exact Int.tmod_eq_of_lt hu (by omega)
  · have hneg : (-u).tmod n = -u := Int.tmod_eq_of_lt (by omega) (by omega)
    rw [Int.neg_tmod] at hneg
    omega

namespace Formula

def eval (e : Formula Int) : Option Int :=
  e.value? id

def scaled? (u : Int) (e : Formula Int) : Option Int :=
  ((leaf u).graft .mul e).eval

variable {a b l r : Formula Int} {o : ArithOp} {u v : Int}

theorem eval_node :
    (node a o b).eval = a.eval.bind fun x => b.eval.bind fun y => o.compute? x y := rfl

theorem scaled?_leaf (x : Int) : (leaf x).scaled? u = some (u * x) := rfl

theorem scaled?_product (ho : o.isProduct = true) :
    (node a o b).scaled? u = (a.scaled? u).bind fun x => b.eval.bind fun y => o.compute? x y := by
  rw [scaled?, graft_node (o := .mul) ho]
  rfl

theorem scaled?_of_not_product (h : r.isLevel true = false) :
    r.scaled? u = r.eval.map fun x => u * x := by
  rw [scaled?, graft_of_not_isLevel (o := .mul) h]
  show (r.eval.bind fun y => some (u * y)) = _
  cases r.eval <;> rfl

theorem eval_graft_mul : (l.graft .mul r).eval = l.eval.bind fun u => r.scaled? u := by
  induction r with
  | leaf x => rfl
  | node a p b iha _ =>
    cases hp : p.isProduct with
    | true =>
      rw [graft_node (o := .mul) hp, eval_node, iha, Option.bind_assoc]
      simp only [scaled?_product hp]
    | false =>
      have hn : (node a p b).isLevel true = false := isLevel_true_of_false (beq_iff_eq.2 hp)
      rw [graft_of_not_isLevel (o := .mul) hn]
      simp only [scaled?_of_not_product hn]
      rw [eval_node]
      cases l.eval <;> cases (node a p b).eval <;> rfl

theorem scaled?_graft_mul :
    (l.graft .mul r).scaled? u = (l.scaled? u).bind fun w => r.scaled? w := by
  rw [scaled?, graft_graft rfl, eval_graft_mul]
  rfl

theorem scaled?_one : r.scaled? 1 = r.eval := by
  induction r with
  | leaf x => rw [scaled?_leaf, Int.one_mul]; rfl
  | node a p b iha _ =>
    cases hp : p.isProduct with
    | true => rw [scaled?_product hp, iha, eval_node]
    | false =>
      have hn : (node a p b).isLevel true = false := isLevel_true_of_false (beq_iff_eq.2 hp)
      rw [scaled?_of_not_product hn]
      simp

theorem reading_mul : (node a .mul b).reading = a.reading.graft .mul b.reading := by
  rw [reading]
  split
  · rename_i hp
    have hsum : b.isLevel false = true := by
      simpa [needsParens, ArithOp.isProduct] using hp
    have hn := (isLevel_reading b).trans (isLevel_true_of_false hsum)
    exact (graft_of_not_isLevel (o := .mul) hn).symm
  · rfl

theorem reading_of_ne (hadd : o ≠ .add) (hmul : o ≠ .mul) :
    (node a o b).reading = node a.reading o b.reading := by
  rw [reading]
  split
  · rfl
  · rename_i hp
    simp only [needsParens, Bool.not_eq_true, Bool.or_eq_false_iff] at hp
    refine graft_of_not_isLevel ((isLevel_reading b).trans ?_)
    simpa [hadd, hmul] using hp.2

theorem eval_reading_node (ho : o ≠ .mul) :
    (node a o b).reading.eval =
      a.reading.eval.bind fun x => b.reading.eval.bind fun y => o.compute? x y := by
  by_cases hadd : o = .add
  · subst hadd
    rw [reading]
    split
    · rfl
    · exact value?_graft_add
  · rw [reading_of_ne hadd ho, eval_node]

theorem eval_reading_mul :
    (node a .mul b).reading.eval = a.reading.eval.bind fun u => b.reading.scaled? u := by
  rw [reading_mul, eval_graft_mul]

theorem scaled?_reading_sum (ho : o.isProduct = false) :
    (node a o b).reading.scaled? u = (node a o b).reading.eval.map fun x => u * x := by
  refine scaled?_of_not_product ((isLevel_reading _).trans ?_)
  exact isLevel_true_of_false (beq_iff_eq.2 ho)

end Formula

def ArithOp.neutral (n : Nat) : ArithOp → Int
  | add | sub => 0
  | mul | div => 1
  | mod => n

theorem ArithOp.compute?_neutral {u : Int} {n : Nat} (o : ArithOp) (h : u.natAbs < n) :
    o.compute? u (o.neutral n) = some u := by
  cases o with
  | add => simp [compute?, neutral]
  | sub => simp [compute?, neutral]
  | mul => simp [compute?, neutral]
  | div => simp [compute?, neutral]
  | mod =>
    have hn : (n : Int) ≠ 0 := by omega
    rw [compute?, neutral, if_neg hn, tmod_of_natAbs_lt h]

theorem ArithOp.natAbs_neutral_lt (n : Nat) (o : ArithOp) : (o.neutral n).natAbs < n + 2 := by
  cases o <;> simp [neutral]

namespace Formula

variable {a b g : Formula Int} {o : ArithOp} {v : Int} {m n : Nat}

structure IsSteady (n : Nat) (v : Int) (g : Formula Int) : Prop where
  eval_eq : g.eval = some v
  scaled_eq (u : Int) : (u * v).natAbs < n → g.reading.scaled? u = some (u * v)

theorem IsSteady.eval_reading (h : g.IsSteady n v) (hv : v.natAbs < n) :
    g.reading.eval = some v := by
  rw [← scaled?_one, h.scaled_eq 1 (by rwa [Int.one_mul]), Int.one_mul]

theorem IsSteady.node (ha : a.IsSteady n v) (hb : b.IsSteady (n + 2) (o.neutral n))
    (hv : v.natAbs < n) : (node a o b).IsSteady n v := by
  have hb' := hb.eval_reading (o.natAbs_neutral_lt n)
  refine ⟨?_, fun u hu => ?_⟩
  · rw [eval_node, ha.eval_eq, hb.eval_eq]
    exact o.compute?_neutral hv
  · cases hp : o.isProduct with
    | false =>
      have hmul : o ≠ .mul := by
        rintro rfl
        cases hp
      rw [scaled?_reading_sum hp, eval_reading_node hmul, ha.eval_reading hv, hb']
      exact congrArg (Option.map fun x => u * x) (o.compute?_neutral hv)
    | true =>
      by_cases hmul : o = .mul
      · subst hmul
        have hone : u * v * 1 = u * v := Int.mul_one _
        rw [reading_mul, scaled?_graft_mul, ha.scaled_eq u hu, Option.bind_some]
        rw [hb.scaled_eq (u * v) (by rw [ArithOp.neutral, hone]; omega)]
        exact congrArg some hone
      · have hadd : o ≠ .add := by
          rintro rfl
          cases hp
        rw [reading_of_ne hadd hmul, scaled?_product hp, ha.scaled_eq u hu, hb']
        exact o.compute?_neutral hu

theorem exists_isSteady (s : Formula Unit) (hv : v.natAbs < n) :
    ∃ g : Formula Int, g.shape = s ∧ g.IsSteady n v := by
  induction s generalizing n v with
  | leaf x => exact ⟨leaf v, rfl, rfl, fun u _ => rfl⟩
  | node a o b iha ihb =>
    obtain ⟨ga, rfl, ha⟩ := iha hv
    obtain ⟨gb, rfl, hb⟩ := ihb (o.natAbs_neutral_lt n)
    exact ⟨.node ga o gb, rfl, ha.node hb hv⟩

theorem exists_quotient (s : Formula Unit) (hs : s.noQuotient = false) {k : Nat} (hk : 0 < k) :
    ∃ g : Formula Int, g.shape = s ∧ g.eval = some 1 ∧
      ∃ w, g.reading.scaled? (2 * k) = some w ∧ (w = 3 * k ∨ w = 0) := by
  induction s with
  | leaf x => cases hs
  | node a o b iha ihb =>
    have hhalves : o = .div ∨ o = .mod → ∃ g : Formula Int, g.shape = .node a o b ∧
        g.eval = o.compute? 3 2 ∧ g.reading.scaled? (2 * k) = o.compute? (2 * k * 3) 2 := by
      intro ho
      obtain ⟨ga, rfl, ha⟩ := exists_isSteady a (v := 3) (n := 6 * k + 1) (by omega)
      obtain ⟨gb, rfl, hb⟩ := exists_isSteady b (v := 2) (n := 3) (by decide)
      refine ⟨.node ga o gb, rfl, ?_, ?_⟩
      · rw [eval_node, ha.eval_eq, hb.eval_eq]
        rfl
      · have hread : (Formula.node ga o gb).reading = .node ga.reading o gb.reading := by
          rcases ho with rfl | rfl <;> exact reading_of_ne (by decide) (by decide)
        have hproduct : o.isProduct = true := by
          rcases ho with rfl | rfl <;> rfl
        rw [hread, scaled?_product hproduct, ha.scaled_eq (2 * k) (by omega),
          hb.eval_reading (by decide)]
        rfl
    cases o with
    | add => cases hs
    | sub => cases hs
    | div =>
      obtain ⟨g, hshape, heval, hscaled⟩ := hhalves (.inl rfl)
      refine ⟨g, hshape, heval, 3 * k, hscaled.trans (congrArg some ?_), .inl rfl⟩
      rw [show 2 * (k : Int) * 3 = 3 * k * 2 by omega]
      exact Int.mul_tdiv_cancel _ (by decide)
    | mod =>
      obtain ⟨g, hshape, heval, hscaled⟩ := hhalves (.inr rfl)
      refine ⟨g, hshape, heval, 0, hscaled.trans (congrArg some ?_), .inr rfl⟩
      rw [show 2 * (k : Int) * 3 = 3 * k * 2 by omega]
      exact Int.mul_tmod_left _ _
    | mul =>
      rw [noQuotient, Bool.and_eq_false_iff] at hs
      by_cases ha : a.noQuotient = false
      · obtain ⟨ga, rfl, heval, w, hscaled, hw⟩ := iha ha
        obtain ⟨gb, rfl, hb⟩ := exists_isSteady b (v := 1) (n := 3 * k + 2) (by omega)
        refine ⟨.node ga .mul gb, rfl, ?_, w, ?_, hw⟩
        · rw [eval_node, heval, hb.eval_eq]
          rfl
        · have hone : w * 1 = w := Int.mul_one w
          rw [reading_mul, scaled?_graft_mul, hscaled, Option.bind_some,
            hb.scaled_eq w (by omega), hone]
      · obtain ⟨ga, rfl, ha'⟩ := exists_isSteady a (v := 1) (n := 2 * k + 2) (by omega)
        obtain ⟨gb, rfl, heval, w, hscaled, hw⟩ := ihb (hs.resolve_left ha)
        refine ⟨.node ga .mul gb, rfl, ?_, w, ?_, hw⟩
        · rw [eval_node, ha'.eval_eq, heval]
          rfl
        · rw [reading_mul, scaled?_graft_mul, ha'.scaled_eq (2 * k) (by omega), Int.mul_one]
          exact hscaled

structure Differs (k : Nat) (g : Formula Int) : Prop where
  exists_eval : ∃ v, g.eval = some v ∧ k ≤ v.natAbs ∧
    ∀ w, g.reading.eval = some w → w.natAbs ≠ v.natAbs

theorem Differs.left {k : Nat} (ha : a.Differs k) (o : ArithOp) (s : Formula Unit) :
    ∃ b : Formula Int, b.shape = s ∧ (node a o b).Differs k := by
  obtain ⟨v, hv, hk, hne⟩ := ha.exists_eval
  obtain ⟨n, hvn, hwn⟩ : ∃ n, v.natAbs < n ∧ ∀ w, a.reading.eval = some w → w.natAbs < n := by
    cases hr : a.reading.eval with
    | none => exact ⟨v.natAbs + 1, by omega, by rintro w ⟨⟩⟩
    | some w => exact ⟨v.natAbs + w.natAbs + 1, by omega, by rintro w' ⟨⟩; omega⟩
  obtain ⟨b, rfl, hb⟩ := exists_isSteady s (o.natAbs_neutral_lt n)
  refine ⟨b, rfl, v, ?_, hk, fun w hw => ?_⟩
  · rw [eval_node, hv, hb.eval_eq]
    exact o.compute?_neutral hvn
  · have hread : (Formula.node a o b).reading.eval = a.reading.eval := by
      cases hr : a.reading.eval with
      | none =>
        by_cases hmul : o = .mul
        · subst hmul
          rw [eval_reading_mul, hr]
          rfl
        · rw [eval_reading_node hmul, hr]
          rfl
      | some u =>
        by_cases hmul : o = .mul
        · subst hmul
          have hone : u * 1 = u := Int.mul_one u
          have hu := hwn u hr
          rw [eval_reading_mul, hr, Option.bind_some,
            hb.scaled_eq u (by rw [ArithOp.neutral, hone]; omega)]
          exact congrArg some hone
        · rw [eval_reading_node hmul, hr, hb.eval_reading (o.natAbs_neutral_lt n)]
          exact o.compute?_neutral (hwn u hr)
    exact hne w (hread ▸ hw)

end Formula

def ArithOp.Separates (o : ArithOp) (k : Nat) (v : Int) (r : Option Int) : Prop :=
  ∃ x y, o.compute? x v = some y ∧ k ≤ y.natAbs ∧
    ∀ w, r = some w → ∀ z, o.compute? x w = some z → z.natAbs ≠ y.natAbs

namespace ArithOp

variable {k : Nat} {v : Int} {r : Option Int}

theorem separates_div (hv : k < v.natAbs) (hr : ∀ w, r = some w → w.natAbs ≠ v.natAbs) :
    div.Separates k v r := by
  have hv0 : v ≠ 0 := by omega
  -- Both divide the product of the two, so that the quotients differ as the divisors do.
  by_cases hw : ∃ w, r = some w ∧ w ≠ 0
  · obtain ⟨w, rfl, hw0⟩ := hw
    have hdiv (c : Int) : div.compute? (v * w * c) v = some (w * c) := by
      rw [compute?, if_neg hv0, Int.mul_assoc, Int.mul_tdiv_cancel_left _ hv0]
    have hdiv' (c : Int) : div.compute? (v * w * c) w = some (v * c) := by
      rw [compute?, if_neg hw0, Int.mul_comm v w, Int.mul_assoc, Int.mul_tdiv_cancel_left _ hw0]
    refine ⟨v * w * (k + 1 : Nat), w * (k + 1 : Nat), hdiv _, ?_, ?_⟩
    · have hw1 : 1 ≤ w.natAbs := by omega
      rw [Int.natAbs_mul, Int.natAbs_natCast]
      exact Nat.le_trans (Nat.le_succ k) (Nat.le_mul_of_pos_left _ hw1)
    · rintro w' ⟨⟩ z hz
      obtain rfl := Option.some.inj ((hdiv' _).symm.trans hz)
      rw [Int.natAbs_mul, Int.natAbs_mul, Int.natAbs_natCast]
      exact fun h => hr w rfl (Nat.eq_of_mul_eq_mul_right (Nat.succ_pos k) h).symm
  · refine ⟨v * k, k, ?_, Nat.le_of_eq (Int.natAbs_natCast k).symm, fun w hw' z hz => ?_⟩
    · rw [compute?, if_neg hv0, Int.mul_tdiv_cancel_left _ hv0]
    · have hw0 : w = 0 := Classical.byContradiction fun h => hw ⟨w, hw', h⟩
      rw [compute?, if_pos hw0] at hz
      cases hz

theorem separates_mod (hv : k < v.natAbs) (hr : ∀ w, r = some w → w.natAbs ≠ v.natAbs) :
    mod.Separates k v r := by
  have hv0 : v ≠ 0 := by omega
  -- Behind a smaller number the rest is smaller than that; else what is left over tells them apart.
  obtain ⟨x, hx, hne⟩ : ∃ x : Nat, x % v.natAbs = v.natAbs - 1 ∧
      ∀ w, r = some w → w ≠ 0 → x % w.natAbs ≠ v.natAbs - 1 := by
    by_cases hw : ∃ w, r = some w ∧ v.natAbs < w.natAbs
    · obtain ⟨w, rfl, hlt⟩ := hw
      refine ⟨2 * v.natAbs - 1, ?_, ?_⟩
      · rw [show 2 * v.natAbs - 1 = v.natAbs - 1 + v.natAbs by omega, Nat.add_mod_right]
        exact Nat.mod_eq_of_lt (by omega)
      · rintro w' ⟨⟩ -
        by_cases hsmall : 2 * v.natAbs - 1 < w.natAbs
        · rw [Nat.mod_eq_of_lt hsmall]
          omega
        · rw [Nat.mod_eq_sub_mod (by omega), Nat.mod_eq_of_lt (by omega)]
          omega
    · refine ⟨v.natAbs - 1, Nat.mod_eq_of_lt (by omega), fun w hw' hw0 => ?_⟩
      have hle : ¬ v.natAbs < w.natAbs := fun h => hw ⟨w, hw', h⟩
      have hne := hr w hw'
      have hmod := Nat.mod_lt (v.natAbs - 1) (show 0 < w.natAbs by omega)
      omega
  refine ⟨x, (x : Int).tmod v, by rw [compute?, if_neg hv0], ?_, fun w hw z hz => ?_⟩
  · rw [Int.natAbs_tmod, Int.natAbs_natCast, hx]
    omega
  · by_cases hw0 : w = 0
    · rw [compute?, if_pos hw0] at hz
      cases hz
    · rw [compute?, if_neg hw0] at hz
      obtain rfl := Option.some.inj hz
      rw [Int.natAbs_tmod, Int.natAbs_tmod, Int.natAbs_natCast, hx]
      exact hne w hw hw0

theorem separates (o : ArithOp) (hv : k < v.natAbs)
    (hr : ∀ w, r = some w → w.natAbs ≠ v.natAbs) : o.Separates k v r := by
  cases o with
  | add =>
    refine ⟨0, v, congrArg some (Int.zero_add v), Nat.le_of_lt hv, fun w hw z hz => ?_⟩
    obtain rfl := Option.some.inj hz
    rw [Int.zero_add]
    exact hr w hw
  | sub =>
    refine ⟨0, 0 - v, rfl, by omega, fun w hw z hz => ?_⟩
    obtain rfl := Option.some.inj hz
    have hne := hr w hw
    omega
  | mul =>
    refine ⟨1, v, congrArg some (Int.one_mul v), Nat.le_of_lt hv, fun w hw z hz => ?_⟩
    obtain rfl := Option.some.inj hz
    rw [Int.one_mul]
    exact hr w hw
  | div => exact separates_div hv hr
  | mod => exact separates_mod hv hr

end ArithOp

namespace Formula

variable {b : Formula Int} {k : Nat}

theorem Differs.right (hb : b.Differs (k + 1)) (o : ArithOp) (s : Formula Unit) :
    ∃ a : Formula Int, a.shape = s ∧ (node a o b).Differs k := by
  obtain ⟨v, hv, hk, hne⟩ := hb.exists_eval
  by_cases hmul : o = .mul
  · subst hmul
    obtain ⟨a, rfl, ha⟩ := exists_isSteady s (v := 1) (n := 2) (by decide)
    refine ⟨a, rfl, v, ?_, by omega, fun w hw => hne w ?_⟩
    · rw [eval_node, ha.eval_eq, hv]
      exact congrArg some (Int.one_mul v)
    · rw [eval_reading_mul, ha.eval_reading (by decide), Option.bind_some, scaled?_one] at hw
      exact hw
  · obtain ⟨x, y, hy, hky, hsep⟩ := o.separates (show k < v.natAbs by omega) hne
    obtain ⟨a, rfl, ha⟩ := exists_isSteady s (v := x) (n := x.natAbs + 1) (by omega)
    refine ⟨a, rfl, y, ?_, hky, fun z hz => ?_⟩
    · rw [eval_node, ha.eval_eq, hv]
      exact hy
    · rw [eval_reading_node hmul, ha.eval_reading (by omega), Option.bind_some,
        Option.bind_eq_some_iff] at hz
      obtain ⟨w, hw, hz⟩ := hz
      exact hsep w hw z hz

theorem exists_differs (s : Formula Unit) (hs : s.keepsValue = false) (k : Nat) :
    ∃ g : Formula Int, g.shape = s ∧ g.Differs k := by
  induction s generalizing k with
  | leaf x => cases hs
  | node a o b iha ihb =>
    -- A difference inside an operand is carried up; else it comes from this product itself.
    by_cases ha : a.keepsValue = false
    · obtain ⟨ga, rfl, hga⟩ := iha ha k
      obtain ⟨gb, rfl, hg⟩ := hga.left o b
      exact ⟨.node ga o gb, rfl, hg⟩
    by_cases hb : b.keepsValue = false
    · obtain ⟨gb, rfl, hgb⟩ := ihb hb (k + 1)
      obtain ⟨ga, rfl, hg⟩ := hgb.right o a
      exact ⟨.node ga o gb, rfl, hg⟩
    obtain ⟨rfl, hq⟩ : o = .mul ∧ b.noQuotient = false := by
      simpa [keepsValue, ha, hb] using hs
    obtain ⟨ga, rfl, hga⟩ := exists_isSteady a (v := 2 * (k + 1 : Nat)) (n := 2 * k + 3) (by omega)
    obtain ⟨gb, rfl, heval, w, hscaled, hw⟩ := exists_quotient b hq (Nat.succ_pos k)
    refine ⟨.node ga .mul gb, rfl, 2 * (k + 1 : Nat), ?_, by omega, fun u hu => ?_⟩
    · rw [eval_node, hga.eval_eq, heval]
      exact congrArg some (Int.mul_one _)
    · rw [eval_reading_mul, hga.eval_reading (by omega), Option.bind_some, hscaled] at hu
      obtain rfl := Option.some.inj hu
      omega

end Formula

end PolySql

import PolySql.Proofs.Arithmetic.Formula

namespace PolySql

inductive Token (α : Type) where
  | opening
  | closing
  | operator (o : ArithOp)
  | operand (x : α)

namespace Formula

variable {α : Type}

abbrev Pending (α : Type) := Option (Formula α × ArithOp)

def Pending.complete (p : Pending α) (e : Formula α) : Formula α :=
  p.elim e fun (l, o) => node l o e

def Pending.graft (p : Pending α) (e : Formula α) : Formula α :=
  p.elim e fun (l, o) => l.graft o e

structure Frame (α : Type) where
  sum : Pending α
  product : Pending α

def Frame.complete (f : Frame α) (e : Formula α) : Formula α :=
  f.sum.complete (f.product.complete e)

inductive Reader (α : Type) where
  | before (f : Frame α) (outer : List (Frame α))
  | behind (e : Formula α) (f : Frame α) (outer : List (Frame α))

def Reader.step : Reader α → Token α → Option (Reader α)
  | before f outer, .operand x => some (.behind (leaf x) f outer)
  | before f outer, .opening => some (.before ⟨none, none⟩ (f :: outer))
  | .behind e f outer, .operator o =>
    if o.isProduct then some (.before ⟨f.sum, some (f.product.complete e, o)⟩ outer)
    else some (.before ⟨some (f.complete e, o), none⟩ outer)
  | .behind e f (g :: outer), .closing => some (.behind (f.complete e) g outer)
  | _, _ => none

def Reader.run (s : Reader α) (ts : List (Token α)) : Option (Reader α) :=
  ts.foldlM Reader.step s

def read? (ts : List (Token α)) : Option (Formula α) :=
  match Reader.run (.before ⟨none, none⟩ []) ts with
  | some (.behind e f []) => some (f.complete e)
  | _ => none

def enclosed (parens : Bool) (ts : List (Token α)) : List (Token α) :=
  if parens then .opening :: (ts ++ [.closing]) else ts

def tokens : Formula α → List (Token α)
  | leaf x => [.operand x]
  | node a o b =>
    enclosed (a.needsParens o false) a.tokens ++
      .operator o :: enclosed (b.needsParens o true) b.tokens

namespace Reader

theorem run_append (s : Reader α) (ts us : List (Token α)) :
    s.run (ts ++ us) = (s.run ts).bind fun t => t.run us :=
  List.foldlM_append

theorem run_cons (s : Reader α) (t : Token α) (ts : List (Token α)) :
    s.run (t :: ts) = (s.step t).bind fun s => s.run ts :=
  List.foldlM_cons

variable {e : Formula α} {f : Frame α} {outer : List (Frame α)} {o : ArithOp}

theorem step_product (ho : o.isProduct = true) :
    (Reader.behind e f outer).step (.operator o) =
      some (.before ⟨f.sum, some (f.product.complete e, o)⟩ outer) :=
  if_pos ho

theorem step_sum (ho : o.isProduct = false) :
    (Reader.behind e f outer).step (.operator o) =
      some (.before ⟨some (f.complete e, o), none⟩ outer) :=
  if_neg (ho ▸ Bool.false_ne_true)

end Reader

open Reader

def Pending.IsLevel (product : Bool) (p : Pending α) : Prop :=
  ∀ x ∈ p, x.2.isProduct = product

theorem Pending.graft_of_not_isLevel {p : Pending α} {e : Formula α} {product : Bool}
    (hp : p.IsLevel product) (he : e.isLevel product = false) : p.graft e = p.complete e := by
  cases p with
  | none => rfl
  | some x => exact Formula.graft_of_not_isLevel ((hp x rfl).symm ▸ he)

theorem Pending.graft_node {p : Pending α} {a b : Formula α} {o : ArithOp}
    (hp : p.IsLevel o.isProduct) : p.graft (node a o b) = node (p.graft a) o b := by
  cases p with
  | none => rfl
  | some x => exact Formula.graft_node (hp x rfl).symm

theorem Pending.graft_graft {p : Pending α} {a b : Formula α} {o : ArithOp}
    (hp : p.IsLevel o.isProduct) : p.graft (a.graft o b) = (p.graft a).graft o b := by
  cases p with
  | none => rfl
  | some x => exact Formula.graft_graft (hp x rfl).symm

theorem Pending.isLevel_none (product : Bool) : Pending.IsLevel product (none : Pending α) := by
  rintro x ⟨⟩

theorem Pending.isLevel_some {l : Formula α} {o : ArithOp} :
    Pending.IsLevel o.isProduct (some (l, o)) := by
  rintro x ⟨⟩
  rfl

theorem Pending.graft_reading {p : Pending α} {a b : Formula α} {o : ArithOp}
    (hp : p.IsLevel o.isProduct) :
    p.graft (node a o b).reading =
      if b.needsParens o true then node (p.graft a.reading) o b.reading
      else (p.graft a.reading).graft o b.reading := by
  rw [reading]
  split
  · exact graft_node hp
  · exact graft_graft hp

def ReadsProduct (e : Formula α) : Prop :=
  ∀ (f : Frame α) outer, f.product.IsLevel true →
    ∃ x p, run (.before f outer) e.tokens = some (.behind x ⟨f.sum, p⟩ outer) ∧
      p.complete x = f.product.graft e.reading

def ReadsSum (e : Formula α) : Prop :=
  ∀ (s : Pending α) outer, s.IsLevel false →
    ∃ x f, run (.before ⟨s, none⟩ outer) e.tokens = some (.behind x f outer) ∧
      f.complete x = s.graft e.reading

structure Reads (e : Formula α) : Prop where
  product : e.isLevel false = false → e.ReadsProduct
  sum : e.ReadsSum

theorem ReadsProduct.readsSum {e : Formula α} (h : e.ReadsProduct) (he : e.isLevel false = false) :
    e.ReadsSum := by
  intro s outer hs
  obtain ⟨x, p, hrun, hx⟩ := h ⟨s, none⟩ outer (Pending.isLevel_none true)
  refine ⟨x, _, hrun, ?_⟩
  rw [Frame.complete, hx, Pending.graft_of_not_isLevel hs ((isLevel_reading e).trans he)]
  rfl

theorem ReadsProduct.reads {e : Formula α} (h : e.ReadsProduct) (he : e.isLevel false = false) :
    e.Reads :=
  ⟨fun _ => h, h.readsSum he⟩

theorem reads_leaf (x : α) : (leaf x).Reads := by
  refine ReadsProduct.reads (fun f outer hf => ?_) rfl
  exact ⟨leaf x, f.product, rfl, (Pending.graft_of_not_isLevel hf rfl).symm⟩

theorem Reads.enclosed {e : Formula α} (h : e.Reads) (f : Frame α) (outer : List (Frame α)) :
    run (.before f outer) (enclosed true e.tokens) = some (.behind e.reading f outer) := by
  obtain ⟨x, g, hrun, hx⟩ := h.sum none (f :: outer) (Pending.isLevel_none false)
  show run (.before f outer) (.opening :: (e.tokens ++ [.closing])) = _
  rw [run_cons]
  show run (.before ⟨none, none⟩ (f :: outer)) (e.tokens ++ [.closing]) = _
  rw [run_append, hrun]
  exact congrArg (fun r => some (Reader.behind r f outer)) hx

theorem Reads.factor {e : Formula α} (h : e.Reads) {o : ArithOp} (ho : o.isProduct = true)
    (isRight : Bool) (f : Frame α) (outer : List (Frame α)) (hf : f.product.IsLevel true) :
    ∃ x p, run (.before f outer) (Formula.enclosed (e.needsParens o isRight) e.tokens) =
        some (.behind x ⟨f.sum, p⟩ outer) ∧
      p.complete x =
        if e.needsParens o isRight then f.product.complete e.reading
        else f.product.graft e.reading := by
  cases hp : e.needsParens o isRight with
  | true => exact ⟨e.reading, f.product, h.enclosed f outer, rfl⟩
  | false =>
    refine h.product ?_ f outer hf
    simp only [needsParens, ho, Bool.true_and, Bool.or_eq_false_iff] at hp
    exact hp.1

theorem reads_product {a b : Formula α} {o : ArithOp} (ho : o.isProduct = true) (ha : a.Reads)
    (hb : b.Reads) : (node a o b).Reads := by
  refine ReadsProduct.reads (fun f outer hf => ?_) (by rw [isLevel, ho]; rfl)
  obtain ⟨x, p, hrun, hx⟩ := ha.factor ho false f outer hf
  have hfirst : p.complete x = f.product.graft a.reading := by
    rw [hx]
    split
    · rename_i hp
      simp only [needsParens, ho, Bool.true_and, Bool.false_and, Bool.or_false] at hp
      have ha' := (isLevel_reading a).trans (isLevel_true_of_false hp)
      exact (Pending.graft_of_not_isLevel hf ha').symm
    · rfl
  obtain ⟨y, q, hrun', hy⟩ := hb.factor ho true ⟨f.sum, some (p.complete x, o)⟩ outer
    (ho ▸ Pending.isLevel_some)
  refine ⟨y, q, ?_, ?_⟩
  · rw [tokens, run_append, hrun, Option.bind_some, run_cons, step_product ho]
    exact hrun'
  · rw [hy, Pending.graft_reading (ho ▸ hf), ← hfirst]
    rfl

theorem reads_sum {a b : Formula α} {o : ArithOp} (ho : o.isProduct = false) (ha : a.Reads)
    (hb : b.Reads) : (node a o b).Reads := by
  refine ⟨fun h => ?_, fun s outer hs => ?_⟩
  · rw [isLevel, ho] at h
    cases h
  have hbare : a.needsParens o false = false := by simp [needsParens, ho]
  obtain ⟨x, f, hrun, hx⟩ := ha.sum s outer hs
  have hpending : Pending.IsLevel false (some (f.complete x, o)) := ho ▸ Pending.isLevel_some
  -- Behind the operator the first operand is complete, and pending with it.
  have hstart (ts : List (Token α)) : run (.before ⟨s, none⟩ outer) (a.tokens ++ .operator o :: ts) =
      run (.before ⟨some (f.complete x, o), none⟩ outer) ts := by
    rw [run_append, hrun, Option.bind_some, run_cons, step_sum ho]
    rfl
  rw [tokens, hbare]
  show ∃ y g, run _ (a.tokens ++ _) = _ ∧ _
  simp only [hstart]
  rw [Pending.graft_reading (ho ▸ hs), ← hx]
  cases hp : b.needsParens o true with
  | true => exact ⟨b.reading, _, hb.enclosed _ outer, rfl⟩
  | false => exact hb.sum _ outer hpending

theorem reads (e : Formula α) : e.Reads := by
  induction e with
  | leaf x => exact reads_leaf x
  | node a o b iha ihb =>
    cases ho : o.isProduct with
    | true => exact reads_product ho iha ihb
    | false => exact reads_sum ho iha ihb

theorem read?_tokens (e : Formula α) : read? e.tokens = some e.reading := by
  obtain ⟨x, f, hrun, hx⟩ := e.reads.sum none [] (Pending.isLevel_none false)
  rw [read?, hrun]
  exact congrArg some hx

end Formula

end PolySql

import PolySql.Tree.Operator

namespace PolySql

inductive ArithOp where
  | add
  | sub
  | mul
  | div
  | mod
  deriving DecidableEq

namespace ArithOp

def toBinary : ArithOp → BinaryOp
  | add => .add
  | sub => .sub
  | mul => .mul
  | div => .div
  | mod => .mod

def isProduct : ArithOp → Bool
  | add | sub => false
  | mul | div | mod => true

def compute? : ArithOp → Int → Int → Option Int
  | add, a, b => some (a + b)
  | sub, a, b => some (a - b)
  | mul, a, b => some (a * b)
  | div, a, b => if b = 0 then none else some (a.tdiv b)
  | mod, a, b => if b = 0 then none else some (a.tmod b)

end ArithOp

inductive Formula (α : Type) where
  | leaf (x : α)
  | node (l : Formula α) (o : ArithOp) (r : Formula α)

namespace Formula

variable {α β : Type}

def map (g : α → β) : Formula α → Formula β
  | leaf x => leaf (g x)
  | node a o b => node (a.map g) o (b.map g)

def shape (e : Formula α) : Formula Unit :=
  e.map fun _ => ()

def value? (f : α → Int) : Formula α → Option Int
  | leaf x => some (f x)
  | node a o b => do o.compute? (← a.value? f) (← b.value? f)

def isLevel (product : Bool) : Formula α → Bool
  | leaf _ => false
  | node _ o _ => o.isProduct == product

def needsParens (o : ArithOp) (isRight : Bool) (e : Formula α) : Bool :=
  (o.isProduct && e.isLevel false) ||
    (isRight && e.isLevel o.isProduct && (o != .add && o != .mul))

def graft (l : Formula α) (o : ArithOp) : Formula α → Formula α
  | leaf x => node l o (leaf x)
  | node a p b => if p.isProduct = o.isProduct then node (graft l o a) p b else node l o (node a p b)

def reading : Formula α → Formula α
  | leaf x => leaf x
  | node a o b =>
    if b.needsParens o true then node a.reading o b.reading else a.reading.graft o b.reading

def noQuotient : Formula α → Bool
  | leaf _ => true
  | node a o b =>
    match o with
    | .add | .sub => true
    | .mul => a.noQuotient && b.noQuotient
    | .div | .mod => false

def keepsValue : Formula α → Bool
  | leaf _ => true
  | node a o b => a.keepsValue && b.keepsValue && (o != .mul || b.noQuotient)

section Map
variable {g : α → β} (e : Formula α)

theorem map_map {γ : Type} {h : β → γ} : (e.map g).map h = e.map (h ∘ g) := by
  induction e with
  | leaf x => rfl
  | node a o b iha ihb => simp only [map, iha, ihb]

theorem shape_map : (e.map g).shape = e.shape :=
  e.map_map

theorem value?_map {f : β → Int} : (e.map g).value? f = e.value? (f ∘ g) := by
  induction e with
  | leaf x => rfl
  | node a o b iha ihb => simp only [map, value?, iha, ihb]

theorem isLevel_map (product : Bool) : (e.map g).isLevel product = e.isLevel product := by
  cases e <;> rfl

theorem noQuotient_map : (e.map g).noQuotient = e.noQuotient := by
  induction e with
  | leaf x => rfl
  | node a o b iha ihb => cases o <;> simp only [map, noQuotient, iha, ihb]

theorem keepsValue_map : (e.map g).keepsValue = e.keepsValue := by
  induction e with
  | leaf x => rfl
  | node a o b iha ihb => simp only [map, keepsValue, noQuotient_map, iha, ihb]

end Map

section Graft
variable {l a b r : Formula α} {o p : ArithOp} {product : Bool} {f : α → Int}

theorem graft_of_not_isLevel (h : r.isLevel o.isProduct = false) : l.graft o r = node l o r := by
  cases r with
  | leaf x => rfl
  | node a p b => rw [graft, if_neg (beq_eq_false_iff_ne.1 h)]

theorem isLevel_true_of_false {e : Formula α} (h : e.isLevel false = true) :
    e.isLevel true = false := by
  cases e with
  | leaf x => rfl
  | node a o b =>
    rw [isLevel, beq_iff_eq] at h
    rw [isLevel, h]
    rfl

theorem isLevel_graft : (l.graft o r).isLevel product = (o.isProduct == product) := by
  cases r with
  | leaf x => rfl
  | node a p b =>
    rw [graft]
    split
    · rename_i h
      rw [isLevel, h]
    · rfl

theorem isLevel_reading (e : Formula α) : e.reading.isLevel product = e.isLevel product := by
  cases e with
  | leaf x => rfl
  | node a o b =>
    rw [reading]
    split
    · rfl
    · exact isLevel_graft

theorem graft_node (h : p.isProduct = o.isProduct) :
    l.graft o (node a p b) = node (l.graft o a) p b := by
  rw [graft, if_pos h]

theorem graft_graft (h : p.isProduct = o.isProduct) :
    l.graft o (a.graft p b) = (l.graft o a).graft p b := by
  induction b with
  | leaf x => exact graft_node h
  | node c q d ihc _ =>
    by_cases hq : q.isProduct = p.isProduct
    · rw [graft_node hq, graft_node (hq.trans h), ihc, graft_node hq]
    · have hn : (node c q d).isLevel p.isProduct = false := beq_eq_false_iff_ne.2 hq
      rw [graft_of_not_isLevel hn, graft_of_not_isLevel hn, graft_node h]

theorem value?_graft_add : (l.graft .add r).value? f = (node l .add r).value? f := by
  induction r with
  | leaf x => rfl
  | node a p b iha _ =>
    rw [graft]
    split
    · rename_i hp
      rw [value?, iha]
      cases hl : l.value? f <;> cases ha : a.value? f <;> cases hb : b.value? f <;>
        cases p <;> simp [value?, ArithOp.compute?, hl, ha, hb, ArithOp.isProduct] at hp ⊢ <;> omega
    · rfl

theorem value?_graft_mul (h : r.noQuotient = true) :
    (l.graft .mul r).value? f = (node l .mul r).value? f := by
  induction r with
  | leaf x => rfl
  | node a p b iha _ =>
    rw [graft]
    split
    · rename_i hp
      cases p with
      | mul =>
        rw [noQuotient, Bool.and_eq_true] at h
        rw [value?, iha h.1]
        cases hl : l.value? f <;> cases ha : a.value? f <;> cases hb : b.value? f <;>
          simp [value?, ArithOp.compute?, hl, ha, hb, Int.mul_assoc]
      | div => cases h
      | mod => cases h
      | _ => cases hp
    · rfl

theorem noQuotient_of_isLevel (h : r.isLevel false = true) : r.noQuotient = true := by
  cases r with
  | leaf x => rfl
  | node a p b => cases p <;> first | rfl | cases h

theorem noQuotient_graft_mul (hl : l.noQuotient = true) (hr : r.noQuotient = true) :
    (l.graft .mul r).noQuotient = true := by
  induction r with
  | leaf x => rw [graft, noQuotient, hl, hr, Bool.and_self]
  | node a p b iha _ =>
    rw [graft]
    split
    · cases p with
      | mul =>
        rw [noQuotient, Bool.and_eq_true] at hr
        rw [noQuotient, iha hr.1, hr.2, Bool.and_self]
      | div => cases hr
      | mod => cases hr
      | _ => rfl
    · rw [noQuotient, hl, hr, Bool.and_self]

end Graft

section Reading
variable {f : α → Int}

theorem needsParens_of_isLevel {o : ArithOp} {b : Formula α} (h : b.needsParens o true = false)
    (hb : b.isLevel o.isProduct = true) : o = .add ∨ o = .mul := by
  cases o with
  | add => exact .inl rfl
  | mul => exact .inr rfl
  | _ => simp [needsParens, hb] at h

theorem noQuotient_reading {e : Formula α} (h : e.noQuotient = true) :
    e.reading.noQuotient = true := by
  induction e with
  | leaf x => rfl
  | node a o b iha ihb =>
    by_cases ho : (node a o b).isLevel false = true
    · exact noQuotient_of_isLevel ((isLevel_reading _).trans ho)
    · cases o with
      | mul =>
        rw [noQuotient, Bool.and_eq_true] at h
        rw [reading]
        split
        · rw [noQuotient, iha h.1, ihb h.2, Bool.and_self]
        · exact noQuotient_graft_mul (iha h.1) (ihb h.2)
      | div => cases h
      | mod => cases h
      | _ => exact absurd rfl ho

theorem value?_reading {e : Formula α} (h : e.keepsValue = true) :
    e.reading.value? f = e.value? f := by
  induction e with
  | leaf x => rfl
  | node a o b iha ihb =>
    simp only [keepsValue, Bool.and_eq_true, Bool.or_eq_true, bne_iff_ne] at h
    obtain ⟨⟨ha, hb⟩, hq⟩ := h
    have hnode : (node a.reading o b.reading).value? f = (node a o b).value? f := by
      rw [value?, value?, iha ha, ihb hb]
    rw [reading]
    split
    · exact hnode
    · rename_i hp
      rw [Bool.not_eq_true] at hp
      by_cases hl : b.isLevel o.isProduct = true
      · rcases needsParens_of_isLevel hp hl with rfl | rfl
        · exact value?_graft_add.trans hnode
        · have hq' := hq.resolve_left (fun h => h rfl)
          exact (value?_graft_mul (noQuotient_reading hq')).trans hnode
      · rw [graft_of_not_isLevel ((isLevel_reading b).trans (Bool.not_eq_true _ ▸ hl)), hnode]

end Reading

end Formula

end PolySql

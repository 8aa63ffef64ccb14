import Mathlib.Algebra.Group.Nat.Defs
import Mathlib.Data.List.Nodup
import PolySql.Proofs.Paging.Write

namespace PolySql

structure Engine (ρ κ : Type) where
  table : Option String → String → List ρ
  value : Expr → ρ → Option κ
  truth : Expr → ρ → Option Bool
  arrange : List Order → List ρ → List ρ
  perm_arrange : ∀ os rows, (arrange os rows).Perm rows

namespace Engine

variable {ρ κ : Type} [DecidableEq κ]

def isIn (xs : List (Option κ)) : Option κ → Option Bool
  | some x => if some x ∈ xs then some true else if none ∈ xs then none else some false
  | none => if xs.isEmpty then some false else none

def count? : Option Expr → Option (Option Int64)
  | none => some none
  | some e => e.intValue?.map some

variable (m : Engine ρ κ)

mutual

def accepts : Expr → ρ → Option Bool
  | .inSubquery e q negated, r => do
    let xs ← selected? q
    return (← isIn xs (m.value e r)) != negated
  | e, r => m.truth e r

def selected? : Select → Option (List (Option κ))
  | ⟨false, [⟨e, _⟩], some (.table schema name _), [], ws, [], [], os, l, o, _⟩ => do
    let limit ← count? l
    let offset ← count? o
    let rows := (m.table schema name).filter (meets ws)
    return (pageRows limit offset (m.arrange os rows)).map (m.value e)
  | _ => none

def meets : List Expr → ρ → Bool
  | [], _ => true
  | e :: es, r => accepts e r == some true && meets es r

end

theorem meets_singleton {e : Expr} : m.meets [e] = fun r => m.accepts e r == some true := by
  funext r
  simp [meets]

theorem accepts_inSubquery {e : Expr} {q : Select} {xs : List (Option κ)} (h : m.selected? q = some xs)
    (r : ρ) : m.accepts (.inSubquery e q false) r = isIn xs (m.value e r) := by
  rw [accepts, h]
  simp

theorem isIn_eq_some_true {xs : List (Option κ)} {x : Option κ} :
    isIn xs x = some true ↔ x.isSome ∧ x ∈ xs := by
  cases x with
  | none => by_cases h : xs = [] <;> simp [isIn, h]
  | some x => by_cases h : some x ∈ xs <;> by_cases hn : none ∈ xs <;> simp [isIn, h, hn]

theorem count?_of_hasCount {n : Option Int64} {o : Option Expr} (h : HasCount n o) :
    count? o = some n := by
  cases h <;> rfl

structure TellsApart (key : Expr) (rows : List ρ) : Prop where
  isSome_value : ∀ r ∈ rows, (m.value key r).isSome
  nodup_values : (rows.map (m.value key)).Nodup

variable {m}

theorem TellsApart.perm_filter_isIn {key : Expr} {rows page : List ρ} (h : m.TellsApart key rows)
    (hsub : page ⊆ rows) (hnodup : page.Nodup) :
    (rows.filter fun r => isIn (page.map (m.value key)) (m.value key r) == some true).Perm page := by
  have hrows := List.Nodup.of_map _ h.nodup_values
  refine (List.perm_ext_iff_of_nodup (hrows.filter _) hnodup).2 fun r => ?_
  rw [List.mem_filter, beq_iff_eq, isIn_eq_some_true, List.mem_map]
  constructor
  · rintro ⟨hr, -, r', hr', hvalue⟩
    rwa [← List.inj_on_of_nodup_map h.nodup_values (hsub hr') hr hvalue]
  · exact fun hr => ⟨hsub hr, h.isSome_value r (hsub hr), r, hr, rfl⟩

end Engine

section Page
variable {α : Type*} {limit offset : Option Int64} {rows : List α}

theorem sublist_pageRows : (pageRows limit offset rows).Sublist rows := by
  have hdrop := List.drop_sublist (offset.elim 0 fun o => o.toInt.toNat) rows
  cases limit with
  | none => exact hdrop
  | some l => exact (List.take_sublist _ _).trans hdrop

theorem pageRows_none : pageRows none none rows = rows := rfl

theorem pageRows_maxValue (h : rows.length < 2 ^ 63) :
    pageRows (some Int64.maxValue) offset rows = pageRows none offset rows := by
  have hmax : Int64.maxValue.toInt.toNat = 2 ^ 63 - 1 := by decide
  refine List.take_of_length_le ?_
  rw [hmax, List.length_drop]
  omega

end Page

end PolySql

import PolySql.Proofs.Arithmetic.Column

namespace PolySql

open Text Number

inductive Page where
  | limitOffset (limit offset : Option Int)
  | offsetFetch (offset : Int) (fetch : Option Int)
  | first (count : Int)
  | nothing
  | window (after : Int) (last : Option Int)

namespace Page

variable {α : Type*}

def firstRows (count : Option Int) (rows : List α) : List α :=
  count.elim rows fun n => rows.take n.toNat

def select (rows : List α) : Page → List α
  | limitOffset limit offset =>
    firstRows (limit.filter (· ≠ -1)) (rows.drop (offset.getD 0).toNat)
  | offsetFetch offset fetch => firstRows fetch (rows.drop offset.toNat)
  | first count => rows.take count.toNat
  | nothing => []
  | window after last =>
    (((rows.zipIdx 1).filter fun r => after < r.2).filter fun r => last.all fun l => r.2 ≤ l).map
      Prod.fst

theorem filter_lt_zipIdx (rows : List α) (after : Int) (start : Nat) :
    (rows.zipIdx start).filter (fun r => after < r.2) =
      (rows.drop (after + 1 - start).toNat).zipIdx (start + (after + 1 - start).toNat) := by
  induction rows generalizing start with
  | nil => simp
  | cons row rows ih =>
    rw [List.zipIdx_cons, List.filter_cons, ih]
    split
    · rename_i h
      have hzero : (after + 1 - start).toNat = 0 ∧ (after + 1 - (start + 1 : Nat)).toNat = 0 := by
        simp only [decide_eq_true_eq] at h
        omega
      rw [hzero.1, hzero.2]
      rfl
    · rename_i h
      have hsucc : (after + 1 - start).toNat = (after + 1 - (start + 1 : Nat)).toNat + 1 := by
        simp only [decide_eq_true_eq] at h
        omega
      rw [hsucc, List.drop_succ_cons, Nat.add_right_comm, Nat.add_assoc]

theorem filter_le_zipIdx (rows : List α) (last : Int) (start : Nat) :
    (rows.zipIdx start).filter (fun r => r.2 ≤ last) =
      (rows.take (last + 1 - start).toNat).zipIdx start := by
  induction rows generalizing start with
  | nil => simp
  | cons row rows ih =>
    rw [List.zipIdx_cons, List.filter_cons, ih]
    split
    · rename_i h
      have hsucc : (last + 1 - start).toNat = (last + 1 - (start + 1 : Nat)).toNat + 1 := by
        simp only [decide_eq_true_eq] at h
        omega
      rw [hsucc]
      rfl
    · rename_i h
      have hzero : (last + 1 - start).toNat = 0 ∧ (last + 1 - (start + 1 : Nat)).toNat = 0 := by
        simp only [decide_eq_true_eq] at h
        omega
      rw [hzero.1, hzero.2]
      rfl

theorem select_window (rows : List α) {offset : Int} (ho : 0 ≤ offset) (limit : Option Int)
    (hl : ∀ l ∈ limit, 0 ≤ l) :
    select rows (window offset (limit.map (· + offset))) =
      firstRows limit (rows.drop offset.toNat) := by
  have hdrop : (offset + 1 - (1 : Nat)).toNat = offset.toNat := by omega
  rw [select, filter_lt_zipIdx, hdrop]
  cases limit with
  | none =>
    simp only [Option.map_none, Option.all_none]
    rw [List.filter_eq_self.2 fun _ _ => rfl, List.zipIdx_map_fst]
    rfl
  | some l =>
    have hl := hl l rfl
    have htake : (l + offset + 1 - (1 + offset.toNat : Nat)).toNat = l.toNat := by omega
    simp only [Option.map_some, Option.all_some]
    rw [filter_le_zipIdx, htake, List.zipIdx_map_fst]
    rfl

end Page

def readCount? (word : String) (binds : List Value) : Option (Int × List Value) :=
  if word = "?" then
    match binds with
    | .int n :: rest => some (n.toInt, rest)
    | _ => none
  else (readInt? word.toList).map fun n => (n, binds)

def words (text : String) : List String :=
  (pieces ' ' text.toList).map String.ofList

def readClause? (binds : List Value) : List String → Option (Page × List Value)
  | [""] => some (.limitOffset none none, binds)
  | ["", "LIMIT", l] => do
    let (l, binds) ← readCount? l binds
    return (.limitOffset (some l) none, binds)
  | ["", "OFFSET", o] => do
    let (o, binds) ← readCount? o binds
    return (.limitOffset none (some o), binds)
  | ["", "LIMIT", l, "OFFSET", o] => do
    let (l, binds) ← readCount? l binds
    let (o, binds) ← readCount? o binds
    return (.limitOffset (some l) (some o), binds)
  | ["", "OFFSET", o, "ROWS"] => do
    let (o, binds) ← readCount? o binds
    return (.offsetFetch o none, binds)
  | ["", "OFFSET", o, "ROWS", "FETCH", "NEXT", l, "ROWS", "ONLY"] => do
    let (o, binds) ← readCount? o binds
    let (l, binds) ← readCount? l binds
    return (.offsetFetch o (some l), binds)
  | ["", "OFFSET", o, "ROWS", "FETCH", "FIRST", "(SELECT", "0)", "ROWS", "ONLY"] => do
    let (o, binds) ← readCount? o binds
    return (.offsetFetch o (some 0), binds)
  | ["", "FETCH", "FIRST", n, "ROW", "ONLY"] | ["", "FETCH", "FIRST", n, "ROWS", "ONLY"] => do
    let (n, binds) ← readCount? n binds
    return (.first n, binds)
  | _ => none

def readFrame? (before : String) (binds : List Value) : List String → Option (Page × List Value)
  | [")", "A", "WHERE", "1", "=", "0"] =>
    if before = "SELECT A.* FROM (" then some (.nothing, binds) else none
  | ")" :: "A)" :: "B" :: "WHERE" :: "B.internal$rownum" :: ">" :: after :: rest =>
    if before = "SELECT B.* FROM (SELECT A.*, row_number() over () AS internal$rownum FROM (" then do
      let (after, binds) ← readCount? after binds
      match rest with
      | [] => return (.window after none, binds)
      | ["AND", "B.internal$rownum", "<=", last] => do
        let (last, binds) ← readCount? last binds
        return (.window after (some last), binds)
      | ["AND", "B.internal$rownum", "<=", l, "+", o] => do
        let (l, binds) ← readCount? l binds
        let (o, binds) ← readCount? o binds
        return (.window after (some (l + o)), binds)
      | _ => none
    else none
  | _ => none

def readPage? (before inner outer : String) (binds : List Value) : Option Page := do
  let (page, rest) ←
    if before = "" ∧ outer = "" then readClause? binds (words inner)
    else if inner = "" then readFrame? before binds (words outer)
    else none
  if rest.isEmpty then some page else none

theorem words_joined {ws : List String} (hne : ws ≠ []) (h : ∀ w ∈ ws, ' ' ∉ w.toList) :
    words (joined " " ws) = ws := by
  induction ws with
  | nil => exact absurd rfl hne
  | cons w ws ih =>
    obtain ⟨hw, hws⟩ := List.forall_mem_cons.1 h
    cases ws with
    | nil => simp [words, joined, pieces_of_not_mem hw]
    | cons v ws =>
      have hrest := ih (List.cons_ne_nil v ws) hws
      rw [words] at hrest ⊢
      rw [joined_cons_cons, String.toList_append, String.toList_append, List.append_assoc]
      show (pieces ' ' (w.toList ++ ' ' :: (joined " " (v :: ws)).toList)).map _ = _
      rw [pieces_append, List.map_append, hrest, pieces_of_not_mem hw]
      simp

end PolySql

import PolySql.Proofs.Text.Sealed
import PolySql.Proofs.Tree.Statement
import PolySql.Proofs.Write.Emission
import PolySql.Proofs.Write.Select

namespace PolySql

open Emission Text

namespace Insert

def Fits (s : Insert) (row : List Expr) : Prop :=
  (!s.columns.isEmpty && row.length != s.columns.length) = false

end Insert

namespace Statement

def RowsFit : Statement → Prop
  | insert s =>
    match s.source with
    | .rows rs => ∀ row ∈ rs, s.Fits row
    | _ => True
  | _ => True

def NamesIn (d : Dialect) (T : String → Prop) : Statement → Prop
  | select _ => True
  | insert s =>
    T (d.quoteQualified s.schema s.table) ∧ T (joined ", " (s.columns.map d.quoteColumn)) ∧
      ∀ q ∈ ["", "INSERTED."], T (joined ", " (s.returning.map fun c => q ++ d.quoteColumn c))
  | update s => T (d.quoteQualified s.schema s.table) ∧ ∀ a ∈ s.assignments, T (d.quoteColumn a.column)
  | delete s => T (d.quoteQualified s.schema s.table)

theorem namesIn_of_names {d : Dialect} {T P : String → Prop} (hword : ∀ {s}, isTame s = true → T s)
    (happend : ∀ {s t}, T s → T t → T (s ++ t)) (hcolumn : ∀ {n}, P n → T (d.quoteColumn n))
    (hqualified : ∀ {schema n}, (∀ a ∈ schema, P a) → P n → T (d.quoteQualified schema n))
    {s : Statement} (h : ∀ n ∈ s.names, P n) : s.NamesIn d T := by
  have hcolumns {q : String} (hq : isTame q = true) {ns : List String} (hns : ∀ n ∈ ns, P n) :
      T (joined ", " (ns.map fun n => q ++ d.quoteColumn n)) :=
    joined_of_append (hword rfl) happend (hword rfl) (List.forall_mem_map.2 fun n hn =>
      happend (hword hq) (hcolumn (hns n hn)))
  have hschema {schema : Option String} (hs : ∀ a ∈ schema.toList, P a) : ∀ a ∈ schema, P a :=
    fun a ha => hs a (Option.mem_toList.2 ha)
  cases s with
  | select s => trivial
  | insert s =>
    obtain ⟨hs, hrest⟩ := List.forall_mem_append.1 h
    obtain ⟨ht, hrest⟩ := List.forall_mem_cons.1 hrest
    obtain ⟨hc, hr⟩ := List.forall_mem_append.1 hrest
    have hlist := hcolumns (q := "") rfl hc
    simp only [String.empty_append] at hlist
    refine ⟨hqualified (hschema hs) ht, hlist, List.forall_mem_cons.2 ⟨hcolumns rfl hr, ?_⟩⟩
    exact List.forall_mem_singleton.2 (hcolumns rfl hr)
  | update s =>
    obtain ⟨hs, hrest⟩ := List.forall_mem_append.1 h
    obtain ⟨ht, ha⟩ := List.forall_mem_cons.1 hrest
    exact ⟨hqualified (hschema hs) ht, fun a hmem => hcolumn (ha _ (List.mem_map_of_mem hmem))⟩
  | delete s =>
    obtain ⟨hs, ht⟩ := List.forall_mem_append.1 h
    exact hqualified (hschema hs) (List.forall_mem_singleton.1 ht)

end Statement

namespace Dialect

variable {d : Dialect} {T : String → Prop} {R : Prop → Emission → Emission → Prop}
  (hR : Congruence T R) (hT : d.Words T R) {f : Expr → Expr} {g : TableRef → TableRef}
  {h : Select → Select} {c : Node → Prop}
include hR hT

theorem writeRows_congr {s : Insert} {start : Nat} {rs : List (List Expr)}
    (hfit : ∀ row ∈ rs, s.Fits row)
    (hm : ∀ row ∈ rs, ∀ e ∈ row, R (c (.expr e)) (d.writeExpr e) (d.writeExpr (f e))) :
    R (∀ row ∈ rs, ∀ e ∈ row, c (.expr e)) (separated ", " (d.writeRows s.columns start rs))
      (separated ", " (d.writeRows s.columns start (rs.map (List.map f)))) := by
  have hrow (row : List Expr) (hr : s.Fits row) (index : Nat)
      (hm : ∀ e ∈ row, R (c (.expr e)) (d.writeExpr e) (d.writeExpr (f e))) :
      R (∀ e ∈ row, c (.expr e)) (d.writeRow s.columns index row)
        (d.writeRow s.columns index (row.map f)) := by
    unfold Insert.Fits at hr
    unfold writeRow
    rw [List.length_map, hr]
    exact parens_congr (x := true) hR hT rfl (writeExprs_congr hR hT hm)
  induction rs generalizing start with
  | nil => exact Congruence.congr (by simp) hR.nil
  | cons row rs ih =>
    obtain ⟨hr, hrs⟩ := List.forall_mem_cons.1 hfit
    obtain ⟨hrow', hrows⟩ := List.forall_mem_cons.1 hm
    have hhead := hrow row hr start hrow'
    cases rs with
    | nil => exact Congruence.congr (by simp) hhead
    | cons row' rs =>
      exact Congruence.congr List.forall_mem_cons.symm
        (hR.append (hR.append_true hhead (lit_congr hR hT rfl)) (ih hrs hrows))

theorem writeInsertSource_mapRoots {s : Insert} (hfit : (Statement.insert s).RowsFit)
    (hm : ∀ n ∈ s.source.roots, R (c n) (n.write d) ((n.map f g h).write d)) :
    R (∀ n ∈ s.source.roots, c n) (d.writeInsertSource s.columns s.source)
      (d.writeInsertSource s.columns (s.source.mapRoots f h)) := by
  unfold Statement.RowsFit at hfit
  cases hs : s.source with
  | rows rs =>
    simp only [hs] at hfit
    rw [hs, InsertSource.roots, List.forall_mem_map] at hm
    cases rs with
    | nil => exact Congruence.congr (by simp [InsertSource.roots]) hR.fault
    | cons row rs =>
      refine Congruence.congr ?_ (hR.true_append (lit_congr hR hT rfl)
        (writeRows_congr hR hT hfit fun row hr e he => hm e (List.mem_flatten_of_mem hr he)))
      rw [InsertSource.roots, List.forall_mem_map]
      simp only [List.mem_flatten, forall_exists_index, and_imp]
      exact ⟨fun h e l hl he => h l hl e he, fun h l hl e he => h e l hl he⟩
  | query q =>
    rw [hs] at hm
    have hq := List.forall_mem_singleton.1 hm
    exact Congruence.congr List.forall_mem_singleton.symm (hR.true_append (lit_congr hR hT rfl) hq)
  | defaults => exact Congruence.congr (by simp [InsertSource.roots]) (lit_congr hR hT rfl)

theorem writeInsert_mapRoots {s : Insert} (hn : (Statement.insert s).NamesIn d T)
    (hfit : (Statement.insert s).RowsFit)
    (hm : ∀ n ∈ s.source.roots, R (c n) (n.write d) ((n.map f g h).write d)) :
    R (∀ n ∈ s.source.roots, c n) (d.writeInsert s)
      (d.writeInsert { s with source := s.source.mapRoots f h }) := by
  obtain ⟨hname, hcolumns, hreturning⟩ := hn
  have hlit {s : String} (hs : isTame s = true) : R True (lit s) (lit s) := lit_congr hR hT hs
  have hcols : R True (d.writeColumns s.columns) (d.writeColumns s.columns) := by
    unfold writeColumns
    split
    · exact hR.nil
    · exact hR.append_true (hR.append_true (hlit rfl) (hR.lit hcolumns)) (hlit rfl)
  have hreturned (q : String) (hq : q ∈ ["", "INSERTED."]) :
      R True (d.writeReturned q s.returning) (d.writeReturned q s.returning) :=
    hR.lit (hreturning q hq)
  have hplain (output : Bool) : R (∀ n ∈ s.source.roots, c n) (d.writePlainInsert output s)
      (d.writePlainInsert output { s with source := s.source.mapRoots f h }) := by
    refine hR.true_append (hR.append_true (hR.append_true (hR.append_true (hlit rfl)
      (hR.lit hname)) hcols) ?_) (writeInsertSource_mapRoots hR hT hfit hm)
    cases output with
    | true => exact hR.append_true (hlit rfl) (hreturned _ (by simp))
    | false => exact hR.nil
  unfold writeInsert
  split
  · exact hplain false
  · cases d.capabilities.returning with
    | unsupported => exact hplain false
    | output => exact hplain true
    | returning =>
      exact hR.append_true (hR.append_true (hplain false) (hlit rfl)) (hreturned _ (by simp))
    | finalTable =>
      exact hR.true_append (hR.append_true (hR.append_true (hlit rfl) (hreturned _ (by simp)))
        (hlit rfl)) (parens_congr (x := true) hR hT rfl (hplain false))

theorem writeStatement_mapRoots (hf : Expr.KeepsShape f) {s : Statement} (hn : s.NamesIn d T)
    (hfit : s.RowsFit) (hm : ∀ n ∈ s.roots, R (c n) (n.write d) ((n.map f g h).write d)) :
    R (∀ n ∈ s.roots, c n) (d.writeStatement s) (d.writeStatement (s.mapRoots f h)) := by
  obtain ⟨hv, hw⟩ := List.forall_mem_append.1 hm
  have hlit {s : String} (hs : isTame s = true) : R True (lit s) (lit s) := lit_congr hR hT hs
  cases s with
  | select s => exact Congruence.congr (by simp [Statement.roots, Statement.values, Statement.rows,
      RowFilter.empty]) (hv _ (List.mem_singleton_self _))
  | insert s =>
    refine Congruence.congr ?_ (writeInsert_mapRoots hR hT hn hfit hv)
    simp [Statement.roots, Statement.values, Statement.rows, RowFilter.empty]
  | update s =>
    have ha := List.forall_mem_map.1 hv
    have hp := writeConjunction_congr hR hT hf (show isTame " WHERE " = true from rfl)
      (List.forall_mem_map.1 hw)
    have hassign : R (∀ a ∈ s.assignments, c (.expr a.value))
        (separated ", " (s.assignments.map d.writeAssignment))
        (separated ", " ((s.assignments.map (Assignment.map f)).map d.writeAssignment)) := by
      rw [List.map_map]
      exact hR.separated (hT.word rfl) fun a hmem =>
        hR.true_append (hR.append_true (hR.lit (hn.2 a hmem)) (hlit rfl)) (ha a hmem)
    have hfault : R True (if s.assignments.isEmpty then [.fault .noAssignment] else [])
        (if (s.assignments.map (Assignment.map f)).isEmpty then [.fault .noAssignment] else []) := by
      rw [List.isEmpty_map]
      split
      · exact hR.fault
      · exact hR.nil
    show R _ (d.writeUpdate s) (d.writeUpdate _)
    unfold writeUpdate
    rw [writePredicates_eq, writePredicates_eq]
    refine Congruence.congr ?_ (hR.append (hR.true_append (hR.append_true (hR.append_true
      (hR.true_append hfault (hlit rfl)) (hR.lit hn.1)) (hlit rfl)) hassign) hp)
    rw [Statement.roots, List.forall_mem_append, Statement.values, List.forall_mem_map,
      List.forall_mem_map]
  | delete s =>
    have hp := writeConjunction_congr hR hT hf (show isTame " WHERE " = true from rfl)
      (List.forall_mem_map.1 hw)
    show R _ (d.writeDelete s) (d.writeDelete _)
    unfold writeDelete
    rw [writePredicates_eq, writePredicates_eq]
    refine Congruence.congr ?_ (hR.true_append (hR.append_true (hlit rfl) (hR.lit hn)) hp)
    rw [Statement.roots, List.forall_mem_append, Statement.values, List.forall_mem_map]
    exact (and_iff_right (List.forall_mem_nil _)).symm

omit hR hT in
theorem isFaultless_writeRows {s : Insert} {start : Nat} {rs : List (List Expr)}
    (h : ∀ e ∈ d.writeRows s.columns start rs, e.IsFaultless) : ∀ row ∈ rs, s.Fits row := by
  induction rs generalizing start with
  | nil => rintro row ⟨⟩
  | cons row rs ih =>
    obtain ⟨hrow, hrs⟩ := List.forall_mem_cons.1 h
    refine List.forall_mem_cons.2 ⟨?_, ih hrs⟩
    unfold writeRow at hrow
    unfold Insert.Fits
    split at hrow
    · exact absurd (hrow _ (List.mem_singleton_self _)) (by simp [Piece.fault?])
    · rename_i hne
      simpa using hne

omit hR hT in
theorem rowsFit_of_isFaultless {s : Statement} (h : (d.writeStatement s).IsFaultless) :
    s.RowsFit := by
  cases s with
  | insert s =>
    have hplain {output : Bool} (hp : (d.writePlainInsert output s).IsFaultless) :
        (Statement.insert s).RowsFit := by
      have hsource := (isFaultless_append.1 hp).2
      unfold Statement.RowsFit
      dsimp only
      cases hs : s.source with
      | rows rs =>
        cases rs with
        | nil => rintro row ⟨⟩
        | cons row rs =>
          rw [hs] at hsource
          have hrows := (isFaultless_append.1 hsource).2
          exact isFaultless_writeRows (isFaultless_separated.1 hrows)
      | query q => trivial
      | defaults => trivial
    replace h : (d.writeInsert s).IsFaultless := h
    unfold writeInsert at h
    split at h
    · exact hplain h
    · split at h
      · exact hplain h
      · exact hplain h
      · exact hplain (isFaultless_append.1 (isFaultless_append.1 h).1).1
      · exact hplain (isFaultless_append.1 (isFaultless_append.1 (isFaultless_append.1 h).2).1).2
  | select s => trivial
  | update s => trivial
  | delete s => trivial

end Dialect

end PolySql

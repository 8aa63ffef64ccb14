import Mathlib.Algebra.GroupWithZero.Nat
import PolySql.Database.Table
import PolySql.Proofs.Number.Integer
import PolySql.Proofs.Text.Pieces

namespace PolySql.RowTable

open Text Number

def boxed (edge : String) (boxes : List String) : List Char :=
  boxes.flatMap fun b => (edge ++ b).toList

section Boxes
variable {edge : String} {boxes : List String}

theorem toList_joined (h : boxes ≠ []) :
    (edge ++ joined edge boxes ++ edge).toList = boxed edge boxes ++ edge.toList := by
  induction boxes with
  | nil => exact absurd rfl h
  | cons b bs ih =>
    cases bs with
    | nil => simp [boxed, joined]
    | cons b' bs =>
      have hrest := ih (List.cons_ne_nil _ _)
      simp only [String.toList_append, boxed, List.flatMap_cons, List.append_assoc] at hrest ⊢
      rw [joined_cons_cons, String.toList_append, String.toList_append]
      simp only [List.append_assoc]
      rw [hrest]

theorem length_boxed (hedge : edge.length = 1) :
    (boxed edge boxes).length = ((boxes.map String.length).map (· + 1)).sum := by
  rw [boxed, List.length_flatMap, List.map_map]
  refine congrArg List.sum (List.map_congr_left fun b _ => ?_)
  rw [String.length_toList, String.length_append, hedge, Nat.add_comm]
  rfl

theorem take_drop_boxed (hedge : edge.length = 1) {k : Nat} {b : String} (hb : boxes[k]? = some b) :
    ((boxed edge boxes ++ edge.toList).drop (boxed edge (boxes.take k)).length).take (b.length + 2) =
      (edge ++ b ++ edge).toList := by
  obtain ⟨hk, rfl⟩ := List.getElem?_eq_some_iff.1 hb
  have hsplit : boxes = boxes.take k ++ boxes[k] :: boxes.drop (k + 1) := by
    rw [← List.drop_eq_getElem_cons hk, List.take_append_drop]
  obtain ⟨rest, hrest⟩ : ∃ rest, boxed edge (boxes.drop (k + 1)) ++ edge.toList = edge.toList ++ rest := by
    cases boxes.drop (k + 1) with
    | nil => exact ⟨[], by simp [boxed]⟩
    | cons b' bs => exact ⟨b'.toList ++ boxed edge bs ++ edge.toList, by simp [boxed]⟩
  have hboxes : boxed edge boxes ++ edge.toList =
      boxed edge (boxes.take k) ++ ((edge ++ boxes[k] ++ edge).toList ++ rest) := by
    have hline := congrArg (fun bs => boxed edge bs ++ edge.toList) hsplit
    simp only [boxed, List.flatMap_append, List.flatMap_cons, List.append_assoc] at hline hrest ⊢
    rw [hline, hrest]
    simp only [String.toList_append, List.append_assoc]
  have hlength : (edge ++ boxes[k] ++ edge).toList.length = boxes[k].length + 2 := by
    simp only [String.length_toList, String.length_append, hedge]
    omega
  rw [hboxes, List.drop_left, ← hlength, List.take_left]

end Boxes

theorem not_mem_joined {c : Char} {sep : String} {ss : List String} (hsep : c ∉ sep.toList)
    (h : ∀ s ∈ ss, c ∉ s.toList) : c ∉ (joined sep ss).toList := by
  refine joined_of_append (P := fun s => c ∉ s.toList) List.not_mem_nil (fun hs ht => ?_) hsep h
  rw [String.toList_append, List.mem_append, not_or]
  exact ⟨hs, ht⟩

theorem length_repeated (c : Char) (n : Nat) : (repeated c n).length = n := by
  rw [repeated, String.length_ofList, List.length_replicate]

theorem length_shorten_of_lt {s : String} (h : maxWidth < s.length) :
    (shorten s).length = maxWidth := by
  have hlong : ¬ s.toList.length ≤ maxWidth := by
    rw [String.length_toList]
    omega
  have hlength : maxWidth - 3 ≤ s.toList.length := by omega
  rw [shorten, if_neg hlong, String.length_append, String.length_ofList, List.length_take,
    Nat.min_eq_left hlength]
  rfl

theorem shorten_eq {s : String} (h : s.length ≤ maxWidth) : shorten s = s :=
  if_pos (s.length_toList ▸ h)

theorem min_length_shorten (s : String) :
    min maxWidth (shorten s).length = min maxWidth s.length := by
  rcases Nat.lt_or_ge maxWidth s.length with h | h
  · rw [length_shorten_of_lt h]
    omega
  · rw [shorten_eq h]

theorem length_shorten_le (s : String) : (shorten s).length ≤ maxWidth := by
  rcases Nat.lt_or_ge maxWidth s.length with h | h
  · exact Nat.le_of_eq (length_shorten_of_lt h)
  · rwa [shorten_eq h]

theorem not_mem_shorten {c : Char} (hc : c ≠ '.') {s : String} (h : c ∉ s.toList) :
    c ∉ (shorten s).toList := by
  unfold shorten
  dsimp only
  split
  · exact h
  · rw [String.toList_append, String.toList_ofList, List.mem_append, not_or]
    exact ⟨fun hmem => h (List.mem_of_mem_take hmem), by simp [hc]⟩

def shown : Value → String
  | .float d => String.ofList (d.text.toList.take 10)
  | v => v.display

theorem cell_eq (v : Value) : cell v = shorten (shown v) := by
  cases v with
  | float d =>
    have hlength : (shown (.float d)).length ≤ maxWidth := by
      rw [shown, String.length_ofList, List.length_take, maxWidth]
      omega
    exact (shorten_eq hlength).symm
  | _ => rfl

def widest (r : RowSet) (k : Nat) : Nat :=
  ((r.columns[k]?.toList ++ r.rows.filterMap fun row => row[k]?.map shown).map String.length).foldr max 0

def width (r : RowSet) (k : Nat) : Nat :=
  min 50 (widest r k)

theorem foldl_max (a : Nat) (ns : List Nat) : ns.foldl max a = max a (ns.foldr max 0) := by
  induction ns generalizing a with
  | nil => simp
  | cons n ns ih => rw [List.foldl_cons, ih, List.foldr_cons, Nat.max_assoc]

theorem min_foldr_cellWidths (rows : List (List Value)) (k : Nat) :
    min maxWidth ((cellWidths rows k).foldr max 0) =
      min maxWidth
        (((rows.filterMap fun row => row[k]?.map shown).map String.length).foldr max 0) := by
  induction rows with
  | nil => rfl
  | cons row rows ih =>
    cases hv : row[k]? with
    | none => simpa [cellWidths, hv] using ih
    | some v =>
      have hcell := min_length_shorten (shown v)
      rw [← cell_eq] at hcell
      simp only [cellWidths] at ih
      simp only [cellWidths, List.filterMap_cons, hv, Option.map_some, List.map_cons, List.foldr_cons]
      omega

theorem columnWidth_eq {r : RowSet} {k : Nat} {label : String} (h : r.columns[k]? = some label) :
    columnWidth r.rows k label = width r k := by
  have hcells := min_foldr_cellWidths r.rows k
  rw [columnWidth, foldl_max, width, widest, h]
  simp only [Option.toList_some, List.singleton_append, List.map_cons, List.foldr_cons]
  show min maxWidth _ = min maxWidth _
  omega

theorem getElem?_widthsFrom (rows : List (List Value)) (index k : Nat) (labels : List String) :
    (widthsFrom rows index labels)[k]? = labels[k]?.map (columnWidth rows (index + k)) := by
  induction labels generalizing index k with
  | nil => rfl
  | cons label labels ih =>
    cases k with
    | zero => rfl
    | succ k => simpa [widthsFrom, Nat.add_assoc, Nat.add_comm 1] using ih (index + 1) k

theorem widths_eq (r : RowSet) : widths r = (List.range r.columns.length).map (width r) := by
  refine List.ext_getElem? fun k => ?_
  rw [widths, getElem?_widthsFrom, Nat.zero_add, List.getElem?_map]
  rcases Nat.lt_or_ge k r.columns.length with hk | hk
  · have hlabel := List.getElem?_eq_getElem hk
    rw [hlabel, Option.map_some, columnWidth_eq hlabel, List.getElem?_range hk, Option.map_some]
  · rw [List.getElem?_eq_none hk, List.getElem?_eq_none (by simpa using hk)]
    rfl

theorem le_foldr_max {n : Nat} {ns : List Nat} (h : n ∈ ns) : n ≤ ns.foldr max 0 := by
  induction ns with
  | nil => cases h
  | cons m ns ih =>
    rw [List.foldr_cons]
    rcases List.mem_cons.1 h with rfl | h
    · exact Nat.le_max_left ..
    · exact Nat.le_trans (ih h) (Nat.le_max_right ..)

theorem length_shorten_le_width {r : RowSet} {k : Nat} {s : String}
    (h : r.columns[k]? = some s ∨ ∃ row ∈ r.rows, ∃ v, row[k]? = some v ∧ shown v = s) :
    (shorten s).length ≤ width r k := by
  have hmem : s ∈ r.columns[k]?.toList ++ r.rows.filterMap fun row => row[k]?.map shown := by
    rw [List.mem_append, List.mem_filterMap]
    refine h.imp (fun hs => by simp [hs]) ?_
    rintro ⟨row, hrow, v, hv, rfl⟩
    exact ⟨row, hrow, by rw [hv, Option.map_some]⟩
  have hwidest : s.length ≤ widest r k := le_foldr_max (List.mem_map_of_mem hmem)
  have hcut := min_length_shorten s
  have hle := length_shorten_le s
  have hmax : maxWidth = 50 := rfl
  rw [width]
  omega

def lineWidth (r : RowSet) : Nat :=
  if r.columns = [] then 2
  else ((List.range r.columns.length).map fun k => width r k + 2).sum + r.columns.length + 1

def edgeOf (r : RowSet) (k : Nat) : Nat :=
  ((List.range k).map fun j => width r j + 3).sum

def Shows (r : RowSet) (k : Nat) (s : String) (l : List Char) : Prop :=
  (l.drop (edgeOf r k)).take (width r k + 4) =
    ("| " ++ s ++ repeated ' ' (width r k - s.length) ++ " |").toList

def cellBoxes (ws : List Nat) (cells : List String) : List String :=
  (ws.zip cells).map fun p => " " ++ filled p.1 p.2 ++ " "

theorem sum_map_succ (ns : List Nat) : (ns.map (· + 1)).sum = ns.sum + ns.length := by
  induction ns with
  | nil => rfl
  | cons n ns ih =>
    simp only [List.map_cons, List.sum_cons, List.length_cons, ih]
    omega

section Line
variable {r : RowSet} {edge : String} {boxes : List String}

theorem length_joined (hedge : edge.length = 1)
    (hboxes : boxes.map String.length = (widths r).map (· + 2)) :
    (edge ++ joined edge boxes ++ edge).toList.length = lineWidth r := by
  have hlength : boxes.length = r.columns.length := by
    simpa [widths_eq] using congrArg List.length hboxes
  unfold lineWidth
  split
  · rename_i hnone
    obtain rfl : boxes = [] := List.length_eq_zero_iff.1 (by rw [hlength, hnone, List.length_nil])
    simp only [String.length_toList, String.length_append, joined, String.length_empty, hedge]
  · rename_i hsome
    have hne : boxes ≠ [] := by
      rintro rfl
      exact hsome (List.length_eq_zero_iff.1 hlength.symm)
    rw [toList_joined hne, List.length_append, length_boxed hedge, sum_map_succ, hboxes, widths_eq,
      String.length_toList, hedge]
    simp [Function.comp_def]

theorem length_boxed_take (hedge : edge.length = 1)
    (hboxes : boxes.map String.length = (widths r).map (· + 2)) {k : Nat} (hk : k ≤ r.columns.length) :
    (boxed edge (boxes.take k)).length = edgeOf r k := by
  have htake : (List.range r.columns.length).take k = List.range k := by
    rw [List.take_range, Nat.min_eq_left hk]
  rw [length_boxed hedge, List.map_take, hboxes, widths_eq, ← List.map_take, ← List.map_take, htake,
    List.map_map, List.map_map]
  rfl

end Line

structure Fits (r : RowSet) (cells : List String) : Prop where
  covers : r.columns.length ≤ cells.length
  length_le {k : Nat} {s : String} : k < r.columns.length → cells[k]? = some s → s.length ≤ width r k

section Cells
variable {r : RowSet} {cells : List String} {k : Nat} {s : String}

theorem getElem?_widths (hk : k < r.columns.length) : (widths r)[k]? = some (width r k) := by
  rw [widths_eq, List.getElem?_map, List.getElem?_range hk, Option.map_some]

theorem getElem?_cellBoxes (hk : k < r.columns.length) (hs : cells[k]? = some s) :
    (cellBoxes (widths r) cells)[k]? = some (" " ++ filled (width r k) s ++ " ") := by
  have hzip : ((widths r).zip cells)[k]? = some (width r k, s) :=
    List.getElem?_zip_eq_some.2 ⟨getElem?_widths hk, hs⟩
  rw [cellBoxes, List.getElem?_map, hzip, Option.map_some]

theorem length_filled {w : Nat} (h : s.length ≤ w) : (" " ++ filled w s ++ " ").length = w + 2 := by
  have hblank : " ".length = 1 := rfl
  rw [filled, String.length_append, String.length_append, String.length_append, length_repeated, hblank]
  omega

theorem Fits.map_length (h : Fits r cells) :
    (cellBoxes (widths r) cells).map String.length = (widths r).map (· + 2) := by
  refine List.ext_getElem? fun k => ?_
  rw [List.getElem?_map, List.getElem?_map]
  rcases Nat.lt_or_ge k r.columns.length with hk | hk
  · have hs := List.getElem?_eq_getElem (Nat.lt_of_lt_of_le hk h.covers)
    rw [getElem?_cellBoxes hk hs, getElem?_widths hk, Option.map_some, Option.map_some,
      length_filled (h.length_le hk hs)]
  · have hwidths : (widths r).length ≤ k := by simpa [widths_eq] using hk
    have hboxes : (cellBoxes (widths r) cells).length ≤ k := by
      rw [cellBoxes, List.length_map, List.length_zip]
      omega
    rw [List.getElem?_eq_none hboxes, List.getElem?_eq_none hwidths]
    rfl

theorem Fits.length_line (h : Fits r cells) : (line (widths r) cells).toList.length = lineWidth r :=
  have hedge : "|".length = 1 := rfl
  length_joined hedge h.map_length

theorem Fits.shows (h : Fits r cells) (hk : k < r.columns.length) (hs : cells[k]? = some s) :
    Shows r k s (line (widths r) cells).toList := by
  have hbox := getElem?_cellBoxes hk hs
  have hne : cellBoxes (widths r) cells ≠ [] := by
    intro hnil
    rw [hnil] at hbox
    cases hbox
  have hline : (line (widths r) cells).toList =
      boxed "|" (cellBoxes (widths r) cells) ++ "|".toList := toList_joined hne
  have hedge : "|".length = 1 := rfl
  have hcell := take_drop_boxed hedge hbox
  rw [length_boxed_take (r := r) hedge h.map_length (Nat.le_of_lt hk), length_filled (h.length_le hk hs),
    ← hline] at hcell
  rw [Shows, hcell, filled]
  simp [String.append_assoc]

theorem not_mem_line {c : Char} (hedge : c ≠ '|') (hblank : c ≠ ' ')
    (h : ∀ k s, k < r.columns.length → cells[k]? = some s → c ∉ s.toList) :
    c ∉ (line (widths r) cells).toList := by
  have hbar : c ∉ "|".toList := by simpa using hedge
  have hboxes : ∀ box ∈ cellBoxes (widths r) cells, c ∉ box.toList := by
    intro box hbox
    obtain ⟨⟨w, s⟩, hp, rfl⟩ := List.mem_map.1 hbox
    obtain ⟨k, hk⟩ := List.getElem?_of_mem hp
    obtain ⟨hw, hs⟩ := List.getElem?_zip_eq_some.1 hk
    have hlt : k < r.columns.length := by
      have hlength := (List.getElem?_eq_some_iff.1 hw).1
      simpa [widths_eq] using hlength
    simp [filled, repeated, hblank, h k s hlt hs]
  have hjoined := not_mem_joined hbar hboxes
  show c ∉ ("|" ++ joined "|" (cellBoxes (widths r) cells) ++ "|").toList
  rw [String.toList_append, String.toList_append, List.mem_append, List.mem_append]
  simp only [hbar, hjoined, or_self, not_false_eq_true]

end Cells

section Separator
variable (r : RowSet)

theorem length_separator : (separator (widths r)).toList.length = lineWidth r := by
  have hedge : "+".length = 1 := rfl
  refine length_joined hedge ?_
  rw [List.map_map]
  exact List.map_congr_left fun w _ => length_repeated '-' (w + 2)

theorem not_mem_separator {c : Char} (hedge : c ≠ '+') (hdash : c ≠ '-') (ws : List Nat) :
    c ∉ (separator ws).toList := by
  have hplus : c ∉ "+".toList := by simpa using hedge
  have hjoined := not_mem_joined hplus (List.forall_mem_map.2 fun w (_ : w ∈ ws) =>
    show c ∉ (repeated '-' (w + 2)).toList by simp [repeated, hdash])
  rw [separator, String.toList_append, String.toList_append, List.mem_append, List.mem_append]
  simp only [hplus, hjoined, or_self, not_false_eq_true]

end Separator

theorem newline_not_mem_countLine (n : Nat) : '\n' ∉ (countLine n).toList := by
  have hn : '\n' ∉ (natText n).toList := not_mem_natText rfl n
  unfold countLine
  split <;> simp [hn]

theorem fits_columns (r : RowSet) : Fits r (r.columns.map shorten) where
  covers := Nat.le_of_eq (List.length_map ..).symm
  length_le {k s} _ hs := by
    rw [List.getElem?_map, Option.map_eq_some_iff] at hs
    obtain ⟨label, hlabel, rfl⟩ := hs
    exact length_shorten_le_width (.inl hlabel)

theorem fits_row {r : RowSet} {row : List Value} (hrow : row ∈ r.rows)
    (hwide : r.columns.length ≤ row.length) : Fits r (row.map cell) where
  covers := by rwa [List.length_map]
  length_le {k s} _ hs := by
    rw [List.getElem?_map, Option.map_eq_some_iff] at hs
    obtain ⟨v, hv, rfl⟩ := hs
    rw [cell_eq]
    exact length_shorten_le_width (.inr ⟨row, hrow, v, hv, rfl⟩)

theorem newline_not_mem_lines {r : RowSet} (hlabels : ∀ label ∈ r.columns, '\n' ∉ label.toList)
    (hvalues : ∀ row ∈ r.rows, ∀ v ∈ row.take r.columns.length, '\n' ∉ (cell v).toList) :
    ∀ l ∈ lines r, '\n' ∉ l.toList := by
  have hseparator : '\n' ∉ (separator (widths r)).toList :=
    not_mem_separator (by decide) (by decide) (widths r)
  have hheader : '\n' ∉ (line (widths r) (r.columns.map shorten)).toList := by
    refine not_mem_line (by decide) (by decide) fun k s _ hs => ?_
    rw [List.getElem?_map, Option.map_eq_some_iff] at hs
    obtain ⟨label, hlabel, rfl⟩ := hs
    exact not_mem_shorten (by decide) (hlabels label (List.mem_of_getElem? hlabel))
  have hrow : ∀ row ∈ r.rows, '\n' ∉ (line (widths r) (row.map cell)).toList := by
    refine fun row hrow => not_mem_line (by decide) (by decide) fun k s hk hs => ?_
    rw [List.getElem?_map, Option.map_eq_some_iff] at hs
    obtain ⟨v, hv, rfl⟩ := hs
    have htake : (row.take r.columns.length)[k]? = some v := by rw [List.getElem?_take, if_pos hk, hv]
    exact hvalues row hrow v (List.mem_of_getElem? htake)
  have hcount := newline_not_mem_countLine r.size
  simp only [lines, List.forall_mem_append, List.forall_mem_cons, List.forall_mem_map]
  exact ⟨⟨⟨hseparator, hheader, hseparator, List.forall_mem_nil _⟩, hrow⟩, hseparator, hcount,
    List.forall_mem_nil _⟩

theorem pieces_draw {r : RowSet} (h : ∀ l ∈ lines r, '\n' ∉ l.toList) :
    pieces '\n' (draw r).toList = (lines r).map String.toList :=
  pieces_joined (List.cons_ne_nil _ _) h

theorem draw_rectangular (r : RowSet) (hwide : ∀ row ∈ r.rows, r.columns.length ≤ row.length)
    (hlabels : ∀ label ∈ r.columns, '\n' ∉ label.toList)
    (hvalues : ∀ row ∈ r.rows, ∀ v ∈ row.take r.columns.length, '\n' ∉ (cell v).toList) :
    let drawn := pieces '\n' (draw r).toList
    drawn.length = r.size + 5 ∧ (∀ l ∈ drawn.dropLast, l.length = lineWidth r) ∧
      drawn.getLast? = some (countLine r.size).toList ∧
      (∃ l, drawn[1]? = some l ∧
        ∀ k label, r.columns[k]? = some label → label.length ≤ 50 → Shows r k label l) ∧
      ∀ i row, r.rows[i]? = some row → ∃ l, drawn[i + 3]? = some l ∧
        ∀ k v, k < r.columns.length → row[k]? = some v → (shown v).length ≤ 50 →
          Shows r k (shown v) l := by
  intro drawn
  let top := [separator (widths r), line (widths r) (r.columns.map shorten), separator (widths r)]
  let body := r.rows.map fun row => line (widths r) (row.map cell)
  have hdrawn : drawn =
      (top ++ body ++ [separator (widths r)]).map String.toList ++ [(countLine r.size).toList] := by
    have hpieces := pieces_draw (newline_not_mem_lines hlabels hvalues)
    simpa only [lines, top, body, List.map_append, List.map_cons, List.map_nil, List.append_assoc,
      List.cons_append, List.nil_append] using hpieces
  have hheader := fits_columns r
  have hfits (row : List Value) (hrow : row ∈ r.rows) : Fits r (row.map cell) :=
    fits_row hrow (hwide row hrow)
  rw [hdrawn]
  refine ⟨?_, ?_, List.getLast?_concat, ?_, ?_⟩
  · simp [top, body, RowSet.size]
  · rw [List.dropLast_concat, List.forall_mem_map]
    simp only [top, body, List.forall_mem_append, List.forall_mem_cons, List.forall_mem_map]
    exact ⟨⟨⟨length_separator r, hheader.length_line, length_separator r, List.forall_mem_nil _⟩,
      fun row hrow => (hfits row hrow).length_line⟩, length_separator r, List.forall_mem_nil _⟩
  · refine ⟨_, rfl, fun k label hlabel hlength => ?_⟩
    have hk := (List.getElem?_eq_some_iff.1 hlabel).1
    have hcell : (r.columns.map shorten)[k]? = some label := by
      rw [List.getElem?_map, hlabel, Option.map_some, shorten_eq hlength]
    exact hheader.shows hk hcell
  · intro i row hrow
    have hmem := List.mem_of_getElem? hrow
    refine ⟨(line (widths r) (row.map cell)).toList, ?_, fun k v hk hv hlength => ?_⟩
    · have hi : i < body.length := by
        rw [List.length_map]
        exact (List.getElem?_eq_some_iff.1 hrow).1
      have hbody : body[i]? = some (line (widths r) (row.map cell)) := by
        rw [List.getElem?_map, hrow, Option.map_some]
      show ((body ++ [separator (widths r)]).map String.toList ++ [(countLine r.size).toList])[i]? = _
      rw [List.map_append, List.append_assoc, List.getElem?_append_left (by simpa using hi),
        List.getElem?_map, hbody, Option.map_some]
    · have hcell : (row.map cell)[k]? = some (shown v) := by
        rw [List.getElem?_map, hv, Option.map_some, cell_eq, shorten_eq hlength]
      exact (hfits row hmem).shows hk hcell

def planRows : RowSet :=
  ⟨["StmtText", "EstimateRows"],
    [[.text "Constant Scan", .null, .text "\n"],
      [.text "SELECT [name] FROM [users] WHERE [id] = 5 OR [id] = 6\nOR [id] = 7", .int 1]]⟩

theorem draw_rectangular_planRows :
    (∀ row ∈ planRows.rows, planRows.columns.length ≤ row.length) ∧
      (∀ label ∈ planRows.columns, '\n' ∉ label.toList) ∧
      (∀ row ∈ planRows.rows, ∀ v ∈ row.take planRows.columns.length, '\n' ∉ (cell v).toList) ∧
      (pieces '\n' (draw planRows).toList).length = 7 ∧
      ∀ l ∈ (pieces '\n' (draw planRows).toList).dropLast, l.length = 69 := by
  have hwide : ∀ row ∈ planRows.rows, planRows.columns.length ≤ row.length := by decide
  have hlabels : ∀ label ∈ planRows.columns, '\n' ∉ label.toList := by decide
  have hvalues : ∀ row ∈ planRows.rows, ∀ v ∈ row.take planRows.columns.length,
      '\n' ∉ (cell v).toList := by decide
  obtain ⟨hsize, hlength, -⟩ := draw_rectangular planRows hwide hlabels hvalues
  exact ⟨hwide, hlabels, hvalues, hsize, hlength⟩

end PolySql.RowTable

import PolySql.Proofs.Arithmetic.Column
import PolySql.Proofs.Compile.Again
import PolySql.Proofs.Settle.Statement
import PolySql.Proofs.Text.Cut
import PolySql.Proofs.Text.Pieces
import PolySql.Proofs.Write.Emission
import PolySql.SqlServer.InsertText

namespace PolySql

open Emission Text

namespace Text

section Characters
variable {P : Char → Bool}

theorem all_double {c : Char} {t : List Char} (h : t.all P = true) : (double c t).all P = true :=
  List.all_eq_true.2 fun x hx => List.all_eq_true.1 h x (mem_double.1 hx)

theorem all_joined {sep : String} (hsep : sep.toList.all P = true) {ss : List String}
    (h : ∀ s ∈ ss, s.toList.all P = true) : (joined sep ss).toList.all P = true := by
  refine joined_of_append (P := fun s => s.toList.all P = true) rfl (fun hs ht => ?_) hsep h
  rw [String.toList_append, List.all_append, hs, ht]
  rfl

theorem all_piece {sep : Char} {t p : List Char} (h : t.all P = true) (hp : p ∈ pieces sep t) :
    p.all P = true :=
  List.all_eq_true.2 fun c hc => List.all_eq_true.1 h c (mem_of_mem_pieces hp hc)

end Characters

theorem trimEnd_append_blank (t : List Char) : trimEnd (t ++ [' ']) = trimEnd t := by
  rw [trimEnd, List.reverse_append]
  rfl

end Text

namespace SqlServer

section Characters
variable {P : Char → Bool} {n : String}

theorem all_quoteIdentifier (hopening : P '[' = true) (hclosing : P ']' = true)
    (h : n.toList.all P = true) : (quoteIdentifier n).toList.all P = true := by
  unfold quoteIdentifier
  split
  · exact h
  · rw [quoteBetween, String.toList_ofList, List.all_cons, List.all_append, hopening, all_double h,
      List.all_cons, hclosing]
    rfl

theorem all_quoteName (hopening : P '[' = true) (hclosing : P ']' = true) (hdot : P '.' = true)
    (h : n.toList.all P = true) : (quoteName n).toList.all P = true := by
  refine all_joined (by simpa using hdot) (List.forall_mem_map.2 fun p hp => ?_)
  refine all_quoteIdentifier hopening hclosing ?_
  rw [String.toList_ofList]
  exact all_piece h hp

theorem all_quoteColumn (hopening : P '[' = true) (hclosing : P ']' = true) (hdot : P '.' = true)
    (h : n.toList.all P = true) : (quoteUnlessStar quoteName n).toList.all P = true := by
  by_cases hstar : n = "*"
  · rwa [hstar] at h ⊢
  · rw [Dialect.quoteUnlessStar_of_ne hstar]
    exact all_quoteName hopening hclosing hdot h

def IsEnclosed (t : List Char) : Prop :=
  ∃ u, t = '[' :: (u ++ [']'])

theorem isEnclosed_of_isBracketed {t : List Char} (h : isBracketed t = true) : IsEnclosed t := by
  unfold isBracketed at h
  split at h
  · rename_i u hu
    exact ⟨u, between?_eq_some_iff.1 hu⟩
  · cases h

theorem isEnclosed_quoteIdentifier (n : String) : IsEnclosed (quoteIdentifier n).toList := by
  unfold quoteIdentifier
  split
  · exact isEnclosed_of_isBracketed ‹_›
  · exact ⟨_, String.toList_ofList⟩

theorem isEnclosed_quoteName (n : String) : IsEnclosed (quoteName n).toList := by
  unfold quoteName quoteParts
  have hne := pieces_ne_nil '.' n.toList
  generalize pieces '.' n.toList = ps at hne
  induction ps with
  | nil => exact absurd rfl hne
  | cons p ps ih =>
    have hp := isEnclosed_quoteIdentifier (String.ofList p)
    cases ps with
    | nil => exact hp
    | cons p' ps =>
      obtain ⟨u, hu⟩ := hp
      obtain ⟨v, hv⟩ := ih (List.cons_ne_nil _ _)
      refine ⟨u ++ [']', '.', '['] ++ v, ?_⟩
      rw [List.map_cons] at hv ⊢
      rw [List.map_cons, joined_cons_cons, String.toList_append, String.toList_append, hu, hv]
      simp

end Characters

namespace InsertText

variable {zone : Calendar.Timezone} {collation p : String} {s : Insert} {name r : List Char}

def HasWordTarget (s : Insert) : Prop :=
  s.table.toList.all isNameChar = true ∧ ∀ n ∈ s.schema, n.toList.all isNameChar = true

def target (s : Insert) : String :=
  quoteName (s.schema.elim s.table (· ++ "." ++ s.table))

def columnList (s : Insert) : String :=
  joined ", " (s.columns.map (quoteUnlessStar quoteName))

def head (s : Insert) : String :=
  "INSERT INTO " ++ target s ++ if s.columns.isEmpty then "" else " (" ++ columnList s ++ ")"

theorem toList_head_of_nil (h : s.columns = []) :
    (head s).toList = ("INSERT INTO " ++ target s).toList := by
  rw [head, h, List.isEmpty_nil, if_pos rfl, String.append_empty]

theorem toList_head_of_ne_nil (h : s.columns ≠ []) :
    (head s).toList =
      ("INSERT INTO " ++ target s).toList ++ ' ' :: '(' :: ((columnList s).toList ++ [')']) := by
  rw [head, if_neg (mt List.isEmpty_iff.1 h)]
  simp only [String.toList_append, List.append_assoc]
  rfl

theorem all_target (h : HasWordTarget s) : (target s).toList.all isNameChar = true := by
  refine all_quoteName rfl rfl rfl ?_
  obtain ⟨ht, hs⟩ := h
  cases hschema : s.schema with
  | none => exact ht
  | some n =>
    have hn := hs n hschema
    simp only [Option.elim_some, String.toList_append, List.all_append, hn, ht]
    rfl

theorem isEnclosed_target (s : Insert) : IsEnclosed (target s).toList :=
  isEnclosed_quoteName _

theorem quoteQualified_eq_target :
    (dialectWith zone collation).quoteQualified s.schema s.table = target s := by
  unfold Dialect.quoteQualified target
  cases s.schema <;> rfl

theorem sql_writeColumns (columns : List String) :
    ((dialectWith zone collation).writeColumns columns).sql p =
      if columns.isEmpty then ""
      else " (" ++ joined ", " (columns.map (quoteUnlessStar quoteName)) ++ ")" := by
  cases columns with
  | nil => rfl
  | cons c cs =>
    simp only [Dialect.writeColumns, List.isEmpty_cons, Bool.false_eq_true, if_false, sql_append,
      sql_lit]
    rfl

def outputClause (d : Dialect) (columns : List String) : String :=
  " OUTPUT " ++ joined ", " (columns.map fun c => "INSERTED." ++ d.quoteColumn c)

theorem sql_writePlainInsert (output : Bool) (s : Insert) :
    ((dialectWith zone collation).writePlainInsert output s).sql p =
      head s ++
        (if output then outputClause (dialectWith zone collation) s.returning else "") ++
        ((dialectWith zone collation).writeInsertSource s.columns s.source).sql p := by
  cases output <;>
    simp only [Dialect.writePlainInsert, Dialect.writeReturned, outputClause, head, columnList,
      sql_append, sql_lit, sql_nil, sql_writeColumns, quoteQualified_eq_target, String.append_assoc,
      String.append_empty, if_true, Bool.false_eq_true, if_false]

theorem not_mem_columnList (h : ∀ n ∈ s.columns, ')' ∉ n.toList) : ')' ∉ (columnList s).toList := by
  have hall : (columnList s).toList.all (· != ')') = true := by
    refine all_joined rfl (List.forall_mem_map.2 fun n hn => all_quoteColumn rfl rfl rfl ?_)
    exact List.all_eq_true.2 fun c hc => bne_iff_ne.2 fun heq => h n hn (heq ▸ hc)
  intro hmem
  exact bne_iff_ne.1 (List.all_eq_true.1 hall _ hmem) rfl

theorem fault?_writePlainInsert (d : Dialect) (output : Bool) (s : Insert) :
    (d.writePlainInsert output s).fault? = (d.writeInsertSource s.columns s.source).fault? := by
  have hlit (t : String) (e : Emission) : (lit t ++ e).fault? = e.fault? := rfl
  have hcolumns (e : Emission) : (d.writeColumns s.columns ++ e).fault? = e.fault? := by
    cases hs : s.columns <;> rfl
  cases output <;> simp only [Dialect.writePlainInsert, List.append_assoc, hlit, hcolumns] <;> rfl

def settledSource (catalog : Catalog) (s : Insert) : InsertSource :=
  let step := Select.settleStep capabilities catalog
  s.source.mapRoots (Expr.transform step) (Select.transform step false)

theorem settle_insert (catalog : Catalog) (s : Insert) :
    (Statement.insert s).settle capabilities catalog =
      .ok (.insert { s with source := settledSource catalog s }) :=
  Statement.settle_of_isUnlimited RowFilter.isUnlimited_empty

theorem writeInsert_eq (s : Insert) :
    (dialectWith zone collation).writeInsert s =
      (dialectWith zone collation).writePlainInsert (!s.returning.isEmpty) s := by
  unfold Dialect.writeInsert
  cases s.returning.isEmpty <;> rfl

theorem sql_compile_insert (zone : Calendar.Timezone) (collation : String) (catalog : Catalog)
    (s : Insert) :
    (compile (dialectWith zone collation) catalog (.insert s)).map (·.sql) =
      (((dialectWith zone collation).writeInsertSource s.columns
        (settledSource catalog s)).finish "?").map fun w =>
          head s ++
            (if s.returning.isEmpty then "" else outputClause (dialectWith zone collation) s.returning) ++
            w.1 := by
  have hfault := fault?_writePlainInsert (dialectWith zone collation) (!s.returning.isEmpty)
    { s with source := settledSource catalog s }
  rw [compile_of_settle (settle_insert catalog s), Dialect.writeStatement, writeInsert_eq, finish,
    finish, hfault]
  dsimp only
  split
  · rfl
  · show Except.ok (sql "?" _) = Except.ok _
    rw [sql_writePlainInsert]
    cases s.returning.isEmpty <;> rfl

theorem takeName?_append {isChar : Char → Bool} (hne : name ≠ []) (h : name.all isChar = true)
    (hr : ∀ c ∈ r.head?, isChar c = false) : takeName? isChar (name ++ r) = some (name, r) := by
  obtain ⟨htake, hdrop⟩ := span_append (List.all_eq_true.1 h) hr
  rw [takeName?, htake, hdrop, if_neg hne]

theorem takeName?_target (h : HasWordTarget s) (hr : ∀ c ∈ r.head?, isNameChar c = false) :
    takeName? isNameChar ((target s).toList ++ r) = some ((target s).toList, r) := by
  obtain ⟨t, ht⟩ := isEnclosed_target s
  refine takeName?_append (fun hnil => ?_) (all_target h) hr
  rw [ht] at hnil
  cases hnil

theorem words_target (s : Insert) (r : List Char) :
    let text := ("INSERT INTO " ++ target s).toList ++ r
    let word := "INTO ".toList ++ ((target s).toList ++ r)
    trimStart text = text ∧ (keyword? "insert" text).bind afterBlanks? = some word ∧
      (keyword? "into" word).bind afterBlanks? = some ((target s).toList ++ r) := by
  obtain ⟨t, ht⟩ := isEnclosed_target s
  rw [String.toList_append, ht]
  exact ⟨rfl, rfl, rfl⟩

theorem intoName?_target (h : HasWordTarget s) (hr : ∀ c ∈ r.head?, isNameChar c = false) :
    intoName? (" INTO ".toList ++ ((target s).toList ++ r)) = some ((target s).toList, r) := by
  obtain ⟨-, -, hinto⟩ := words_target s r
  show Option.or (((keyword? "into" ("INTO ".toList ++ ((target s).toList ++ r))).bind
    afterBlanks?).bind _) _ = _
  rw [hinto, Option.bind_some, takeName?_target h hr]
  rfl

theorem afterHead?_target (h : HasWordTarget s) (hr : ∀ c ∈ r.head?, isNameChar c = false) :
    afterHead? (("INSERT INTO " ++ target s).toList ++ r) =
      match trimStart r with
      | '(' :: list => some (((cut? ')' list).map (·.2)).getD (trimStart r))
      | _ => some (trimStart r) := by
  obtain ⟨htrim, hinsert, hinto⟩ := words_target s r
  unfold afterHead?
  dsimp only at htrim hinsert hinto ⊢
  rw [htrim, hinsert, Option.bind_eq_bind, Option.bind_some, hinto, Option.bind_some,
    takeName?_target h hr]
  rfl

end InsertText

end SqlServer

end PolySql

import PolySql.Proofs.Condition.Name
import PolySql.Proofs.Dialect.Quoting
import PolySql.Proofs.InsertText.Output

namespace PolySql

open Emission Text

namespace Text

theorem mem_undouble {c x : Char} {t : List Char} (hx : x ∈ t) : x ∈ undouble c t := by
  fun_induction undouble c t with
  | case1 => exact hx
  | case2 => exact hx
  | case3 y z r hc ih =>
    obtain ⟨rfl, rfl⟩ := hc
    simp only [List.mem_cons] at hx ⊢
    rcases hx with rfl | rfl | hx
    · exact .inl rfl
    · exact .inl rfl
    · exact .inr (ih hx)
  | case4 y z r hc ih =>
    rcases List.mem_cons.1 hx with rfl | hx
    · exact List.mem_cons_self ..
    · exact List.mem_cons_of_mem _ (ih hx)

theorem hasBareEnds_joined {sep : String} {ts : List String} (hne : ts ≠ [])
    (h : ∀ t ∈ ts, HasBareEnds t.toList) : HasBareEnds (joined sep ts).toList := by
  induction ts with
  | nil => exact absurd rfl hne
  | cons t ts ih =>
    obtain ⟨ht, hts⟩ := List.forall_mem_cons.1 h
    cases ts with
    | nil => exact ht
    | cons t' ts =>
      rw [joined_cons_cons, String.toList_append, String.toList_append]
      exact ht.append (ih (List.cons_ne_nil _ _) hts) _

theorem double_filter {P : Char → Bool} {c : Char} (hc : P c = false) (t : List Char) :
    (double c t).filter P = t.filter P := by
  induction t with
  | nil => rfl
  | cons x t ih =>
    unfold double
    split
    · rename_i hx
      subst hx
      simp [hc, ih]
    · simp [List.filter_cons, ih]

end Text

namespace SqlServer

theorem not_mem_quoteIdentifier {c : Char} {n : String} (hc : c ∉ ['[', ']']) (h : c ∉ n.toList) :
    c ∉ (quoteIdentifier n).toList := by
  have hopening : ('[' != c) = true := bne_iff_ne.2 fun heq => hc (heq ▸ by simp)
  have hclosing : (']' != c) = true := bne_iff_ne.2 fun heq => hc (heq ▸ by simp)
  have hall : n.toList.all (· != c) = true :=
    List.all_eq_true.2 fun x hx => bne_iff_ne.2 fun heq => h (heq ▸ hx)
  intro hmem
  have hne := List.all_eq_true.1 (all_quoteIdentifier hopening hclosing hall) c hmem
  exact bne_iff_ne.1 hne rfl

theorem pieces_quoteName (n : String) :
    pieces '.' (quoteName n).toList =
      (pieces '.' n.toList).map fun p => (quoteIdentifier (String.ofList p)).toList := by
  have hpart : ∀ p ∈ pieces '.' n.toList, '.' ∉ (quoteIdentifier (String.ofList p)).toList := by
    refine fun p hp => not_mem_quoteIdentifier (by decide) ?_
    rw [String.toList_ofList]
    exact not_mem_of_mem_pieces hp
  rw [quoteName, pieces_quoteParts, List.map_eq_flatMap]
  exact List.flatMap_congr fun p hp => pieces_of_not_mem (hpart p hp)

theorem bareName_quoteIdentifier (n : String) :
    bareName (quoteIdentifier n).toList = bareName n.toList := by
  unfold quoteIdentifier
  split
  · rfl
  · rw [quoteBetween, String.toList_ofList, bareName, bareName, List.filter_cons, List.filter_append,
      double_filter rfl]
    exact congrArg String.ofList (List.append_nil _)

theorem tableOf_quoteName (n : String) : tableOf (quoteName n) = tableOf n := by
  rw [tableOf, tableOf, pieces_quoteName, List.getLast?_map]
  cases (pieces '.' n.toList).getLast? with
  | none => rfl
  | some p =>
    show bareName (quoteIdentifier (String.ofList p)).toList = bareName p
    rw [bareName_quoteIdentifier, String.toList_ofList]

theorem tableOf_qualified (schema table : String) :
    tableOf (schema ++ "." ++ table) = tableOf table := by
  have hpieces : pieces '.' (schema ++ "." ++ table).toList =
      pieces '.' schema.toList ++ pieces '.' table.toList := by
    rw [String.toList_append, String.toList_append, List.append_assoc]
    exact pieces_append _ _
  rw [tableOf, tableOf, hpieces, List.getLast?_append_of_ne_nil _ (pieces_ne_nil _ _)]

def columnOf (name : String) : String :=
  if isBracketed name.toList then unquoteIdentifier name else name

theorem unquoteIdentifier_enclosed (u : List Char) :
    unquoteIdentifier (String.ofList ('[' :: (u ++ [']']))) = String.ofList (undouble ']' u) := by
  have hbetween : between? ['['] [']'] ('[' :: (u ++ [']'])) = some u := between?_eq_some_iff.2 rfl
  rw [unquoteIdentifier, String.toList_ofList, (hasBareEnds_between rfl rfl u).trim_eq,
    hbetween]

theorem unquoteIdentifier_quoteColumn {n : String} (h : '.' ∉ n.toList) :
    unquoteIdentifier (quoteUnlessStar quoteName n) = columnOf n := by
  by_cases hstar : n = "*"
  · rw [hstar]
    decide +kernel
  · have hname : quoteName n = quoteIdentifier n := by
      rw [quoteName, quoteParts, pieces_of_not_mem h]
      show quoteIdentifier (String.ofList n.toList) = _
      rw [String.ofList_toList]
    rw [Dialect.quoteUnlessStar_of_ne hstar, hname, quoteIdentifier, columnOf]
    split
    · rfl
    · rw [quoteBetween, unquoteIdentifier_enclosed, undouble_double, String.ofList_toList]

theorem mem_unquoteIdentifier {t : List Char} {c : Char} (hc : c ∉ ['[', ']']) (ht : IsEnclosed t)
    (h : c ∈ t) : c ∈ (unquoteIdentifier (String.ofList t)).toList := by
  obtain ⟨u, rfl⟩ := ht
  rw [unquoteIdentifier_enclosed, String.toList_ofList]
  refine mem_undouble ?_
  simp only [List.mem_cons, List.mem_append, List.not_mem_nil, or_false, not_or] at h hc
  rcases h with h | h | h
  · exact absurd h hc.1
  · exact h
  · exact absurd h hc.2

theorem mem_quoteName {n : String} (h : '.' ∈ n.toList) : '.' ∈ (quoteName n).toList := by
  obtain ⟨a, b, hab⟩ := List.append_of_mem h
  have hne (t : List Char) :
      (pieces '.' t).map (fun p => quoteIdentifier (String.ofList p)) ≠ [] :=
    mt List.map_eq_nil_iff.1 (pieces_ne_nil '.' t)
  rw [quoteName, quoteParts, hab, pieces_append, List.map_append,
    Dialect.joined_append (hne a) (hne b), String.toList_append, String.toList_append]
  exact List.mem_append_left _ (List.mem_append_right _ (List.mem_singleton_self _))

theorem unquoteIdentifier_quoteColumn_eq_iff {n name : String} (h : '.' ∉ name.toList) :
    unquoteIdentifier (quoteUnlessStar quoteName n) = name ↔ columnOf n = name := by
  by_cases hn : '.' ∈ n.toList
  · have hread : '.' ∈ (unquoteIdentifier (quoteUnlessStar quoteName n)).toList := by
      have hstar : n ≠ "*" := by
        rintro rfl
        exact absurd hn (by decide)
      have hmem := mem_unquoteIdentifier (by decide) (isEnclosed_quoteName n) (mem_quoteName hn)
      have hquote : quoteUnlessStar quoteName n = quoteName n := Dialect.quoteUnlessStar_of_ne hstar
      rwa [String.ofList_toList, ← hquote] at hmem
    have hcolumn : '.' ∈ (columnOf n).toList := by
      unfold columnOf
      split
      · rename_i hb
        have hmem := mem_unquoteIdentifier (by decide) (isEnclosed_of_isBracketed hb) hn
        rwa [String.ofList_toList] at hmem
      · exact hn
    constructor
    · intro heq
      exact absurd (heq ▸ hread) h
    · intro heq
      exact absurd (heq ▸ hcolumn) h
  · rw [unquoteIdentifier_quoteColumn hn]

end SqlServer

namespace SqlServer.InsertText

variable {s : Insert} {r : List Char}

theorem hasBareEnds_quoteColumn (n : String) :
    HasBareEnds (quoteUnlessStar quoteName n).toList := by
  by_cases hstar : n = "*"
  · rw [hstar]
    exact ⟨by decide, by rintro c ⟨⟩; rfl, by rintro c ⟨⟩; rfl⟩
  · obtain ⟨u, hu⟩ := isEnclosed_quoteName n
    rw [Dialect.quoteUnlessStar_of_ne hstar, hu]
    exact hasBareEnds_between rfl rfl u

theorem unquoteIdentifier_blank (t : List Char) :
    unquoteIdentifier (String.ofList (' ' :: t)) = unquoteIdentifier (String.ofList t) := by
  unfold unquoteIdentifier
  rw [String.toList_ofList, String.toList_ofList]
  rfl

theorem map_unquoteIdentifier_pieces {ts : List String} (hne : ts ≠ [])
    (h : ∀ t ∈ ts, ',' ∉ t.toList) :
    (pieces ',' (joined ", " ts).toList).map (fun p => unquoteIdentifier (String.ofList p)) =
      ts.map unquoteIdentifier := by
  induction ts with
  | nil => exact absurd rfl hne
  | cons t ts ih =>
    obtain ⟨ht, hts⟩ := List.forall_mem_cons.1 h
    cases ts with
    | nil =>
      show (pieces ',' t.toList).map _ = _
      rw [pieces_of_not_mem ht]
      simp
    | cons t' ts =>
      have htext : (joined ", " (t :: t' :: ts)).toList =
          t.toList ++ ',' :: ' ' :: (joined ", " (t' :: ts)).toList := by
        simp [joined_cons_cons]
      have hrest := ih (List.cons_ne_nil _ _) hts
      rw [htext, pieces_append, pieces_of_not_mem ht, pieces, if_neg (by decide)]
      cases hps : pieces ',' (joined ", " (t' :: ts)).toList with
      | nil => exact absurd hps (pieces_ne_nil _ _)
      | cons p ps =>
        rw [hps] at hrest
        simp only [List.singleton_append, List.map_cons, String.ofList_toList,
          unquoteIdentifier_blank]
        rw [← List.map_cons (f := unquoteIdentifier), ← hrest, List.map_cons]

theorem not_mem_quoteColumn {c : Char} {n : String} (hc : c ∉ ['[', ']', '.']) (h : c ∉ n.toList) :
    c ∉ (quoteUnlessStar quoteName n).toList := by
  have hne : ∀ x ∈ ['[', ']', '.'], (x != c) = true := fun x hx => bne_iff_ne.2 fun heq => hc (heq ▸ hx)
  have hall : n.toList.all (· != c) = true :=
    List.all_eq_true.2 fun x hx => bne_iff_ne.2 fun heq => h (heq ▸ hx)
  intro hmem
  have hquoted := all_quoteColumn (hne _ (by simp)) (hne _ (by simp)) (hne _ (by simp)) hall
  exact bne_iff_ne.1 (List.all_eq_true.1 hquoted c hmem) rfl

theorem hasBareEnds_columnList (hne : s.columns ≠ []) : HasBareEnds (columnList s).toList :=
  hasBareEnds_joined (mt List.map_eq_nil_iff.1 hne)
    (List.forall_mem_map.2 fun n _ => hasBareEnds_quoteColumn n)

theorem columns_columnList (hne : s.columns ≠ []) (h : ∀ n ∈ s.columns, ',' ∉ n.toList) :
    (pieces ',' (trim (columnList s).toList)).map (fun p => unquoteIdentifier (String.ofList p)) =
      s.columns.map fun n => unquoteIdentifier (quoteUnlessStar quoteName n) := by
  have hcomma : ∀ t ∈ s.columns.map (quoteUnlessStar quoteName), ',' ∉ t.toList :=
    List.forall_mem_map.2 fun n hn => not_mem_quoteColumn (by decide) (h n hn)
  rw [(hasBareEnds_columnList hne).trim_eq, columnList,
    map_unquoteIdentifier_pieces (mt List.map_eq_nil_iff.1 hne) hcomma, List.map_map]
  rfl

theorem listText?_append {t : List Char} (hne : t ≠ []) (h : ')' ∉ t) (r : List Char) :
    listText? (t ++ ')' :: r) = some t := by
  cases t with
  | nil => exact absurd rfl hne
  | cons c t =>
    simp only [List.mem_cons, not_or] at h
    rw [List.cons_append, listText?, cut?_append h.2]
    rfl

theorem split_name {name r : List Char} (h : name.all isNameChar = true) :
    (name ++ ' ' :: r).takeWhile (· != ' ') = name ∧
      (name ++ ' ' :: r).dropWhile (· != ' ') = ' ' :: r := by
  have hne : ∀ c ∈ name, (c != ' ') = true := by
    intro c hc
    refine bne_iff_ne.2 ?_
    rintro rfl
    cases List.all_eq_true.1 h _ hc
  exact span_append hne (by rintro c ⟨⟩; rfl)

theorem lastList?_eq_none {name : List Char} (h : '(' ∉ name) (r : List Char) :
    lastList? name r = none := by
  fun_induction lastList? name r with
  | case1 => rfl
  | case2 => rfl
  | case3 r c x name ih =>
    simp only [List.mem_cons, not_or] at h ih
    rw [ih ⟨h.2.1, h.2.2⟩, if_neg (Ne.symm h.2.1)]
    rfl

theorem takeWhile_subset_of_prefix {P : Char → Bool} {t u : List Char} (h : t <+: u) :
    t.takeWhile P ⊆ u.takeWhile P := by
  obtain ⟨v, rfl⟩ := h
  rw [List.takeWhile_append]
  split
  · exact List.Subset.trans (List.takeWhile_subset P) (List.subset_append_left t _)
  · exact List.Subset.refl _

theorem columnsAfterName?_eq_none {name t : List Char} {c : Char} (h : name.all isNameChar = true)
    (hc : c ≠ '(') : columnsAfterName? (name ++ ' ' :: c :: t) = none := by
  obtain ⟨htake, hdrop⟩ := split_name (r := c :: t) h
  have hparen : '(' ∉ name := fun hmem => by cases List.all_eq_true.1 h _ hmem
  have hlist : listInWord? (name ++ ' ' :: c :: t) = none := by
    refine lastList?_eq_none (fun hmem => ?_) _
    have hprefix : ((name ++ ' ' :: c :: t).reverse.dropWhile (· != ')')).reverse <+:
        name ++ ' ' :: c :: t := by
      rw [← List.reverse_suffix, List.reverse_reverse]
      exact List.dropWhile_suffix _
    have hname := takeWhile_subset_of_prefix hprefix hmem
    rw [htake] at hname
    exact hparen hname
  unfold columnsAfterName?
  rw [hlist, hdrop, Option.or_none]
  split
  · rfl
  · split
    · rename_i heq
      exact absurd (List.cons.inj (List.cons.inj heq).2).1 hc
    · rfl

theorem columnsText?_target (s : Insert) (r : List Char) :
    columnsText? (("INSERT INTO " ++ target s).toList ++ r) =
      (columnsAfterName? ((target s).toList ++ r)).or
        (columnsText? (("INSERT INTO " ++ target s).toList ++ r).tail) := by
  have hkeyword (u : List Char) : keyword? "insert into " ("INSERT INTO ".toList ++ u) = some u := rfl
  obtain ⟨t, ht⟩ : ∃ t, "INSERT INTO ".toList = 'I' :: t := ⟨_, rfl⟩
  rw [String.toList_append, List.append_assoc]
  have hfirst := hkeyword ((target s).toList ++ r)
  rw [ht, List.cons_append] at hfirst ⊢
  rw [columnsText?, hfirst, Option.bind_some, List.tail_cons]

theorem columnsText?_head (htarget : HasWordTarget s) (hne : s.columns ≠ [])
    (h : ∀ n ∈ s.columns, ')' ∉ n.toList) (r : List Char) :
    columnsText? ((head s).toList ++ r) = some (columnList s).toList := by
  obtain ⟨htake, hdrop⟩ :=
    split_name (r := '(' :: ((columnList s).toList ++ ')' :: r)) (all_target htarget)
  have hname : (target s).toList ≠ [] := by
    obtain ⟨u, hu⟩ := isEnclosed_target s
    rw [hu]
    exact List.cons_ne_nil _ _
  rw [toList_head_of_ne_nil hne, List.append_assoc, List.cons_append, List.cons_append,
    List.append_assoc, columnsText?_target, List.singleton_append, columnsAfterName?, htake, hdrop,
    if_neg hname]
  show (Option.or (Option.or (listText? _) _) _) = _
  rw [listText?_append (hasBareEnds_columnList hne).ne_nil (not_mem_columnList h)]
  rfl

theorem columnsText?_eq_none {t : List Char}
    (h : afterFirstBy? sameLetter "insert into ".toList t = none) : columnsText? t = none := by
  induction t with
  | nil => rfl
  | cons c t ih =>
    unfold afterFirstBy? at h
    split at h
    · cases h
    · rename_i hkeyword
      rw [columnsText?, keyword?, hkeyword, ih h]
      rfl

section Table
variable {sql : String} (hsql : sql.toList = ("INSERT INTO " ++ target s).toList ++ r)
include hsql

theorem isInsert_eq_true : isInsert sql = true := by
  rw [isInsert, hsql, String.toList_append]
  rfl

theorem qualifiedTable?_eq (htarget : HasWordTarget s) (hr : ∀ c ∈ r.head?, isNameChar c = false) :
    qualifiedTable? sql = some (target s) := by
  have hinsert : afterInsert? sql.toList = some (" INTO ".toList ++ ((target s).toList ++ r)) := by
    rw [hsql, String.toList_append]
    rfl
  rw [qualifiedTable?, hinsert, Option.bind_some, intoName?_target htarget hr]
  show some (String.ofList (target s).toList) = _
  rw [String.ofList_toList]

end Table

theorem tableOf_target (s : Insert) : tableOf (target s) = tableOf s.table := by
  rw [target, tableOf_quoteName]
  cases s.schema with
  | none => rfl
  | some n => exact tableOf_qualified n s.table

theorem exists_toList_sql_of_compile {zone : Calendar.Timezone} {collation : String}
    {catalog : Catalog} {c : Compiled}
    (hc : compile (dialectWith zone collation) catalog (.insert s) = .ok c) :
    ∃ x t, c.sql.toList = (head s).toList ++ ' ' :: x :: t ∧ x ≠ '(' := by
  have hsql := sql_compile_insert zone collation catalog s
  rw [hc] at hsql
  obtain ⟨w, hw, htext⟩ := exists_of_map_eq_ok hsql.symm
  obtain ⟨hfaultless, rfl⟩ := of_finish_eq_ok "?" hw
  obtain ⟨x, t, ht, -, hx⟩ := exists_sql_writeInsertSource hfaultless "?"
  dsimp only at htext
  rw [← htext]
  split
  · exact ⟨x, t, by rw [String.append_empty, String.toList_append, ht], hx⟩
  · rw [String.toList_append, String.toList_append, List.append_assoc, outputClause,
      String.toList_append]
    exact ⟨'O', _, rfl, by decide⟩

theorem identityTable?_eq {catalog : Catalog} {sql : String} {identity : Column}
    (hsql : sql.toList = ("INSERT INTO " ++ target s).toList ++ ' ' :: r) (htarget : HasWordTarget s)
    (hidentity : catalog.identityColumn? (tableOf s.table) = some identity) :
    identityTable? catalog sql =
      (columns? sql).bind fun columns =>
        if identity.name ∈ columns then some (target s) else none := by
  rw [identityTable?, isInsert_eq_true hsql,
    qualifiedTable?_eq hsql htarget (by rintro x ⟨⟩; rfl)]
  show (catalog.identityColumn? (tableOf (target s))).bind _ = _
  rw [tableOf_target, hidentity]
  rfl

theorem identityTable?_compile (zone : Calendar.Timezone) (collation : String) (catalog : Catalog)
    (s : Insert) {c : Compiled} {identity : Column}
    (hc : compile (dialectWith zone collation) catalog (.insert s) = .ok c)
    (hidentity : (catalog.columns (tableOf s.table)).filter Column.isIdentity = [identity])
    (htarget : HasWordTarget s) (hcolumns : ∀ n ∈ s.columns, ',' ∉ n.toList ∧ ')' ∉ n.toList)
    (hdot : '.' ∉ identity.name.toList)
    (hphrase : s.columns = [] →
      afterFirstBy? sameLetter "insert into ".toList c.sql.toList.tail = none) :
    identityTable? catalog c.sql =
      if identity.name ∈ s.columns.map columnOf then
        some ((dialectWith zone collation).quoteQualified s.schema s.table)
      else none := by
  have hfound : catalog.identityColumn? (tableOf s.table) = some identity := by
    rw [Catalog.identityColumn?, ← List.head?_filter, hidentity]
    rfl
  obtain ⟨x, t, hsql, hx⟩ := exists_toList_sql_of_compile hc
  rw [quoteQualified_eq_target]
  by_cases hnil : s.columns = []
  · rw [toList_head_of_nil hnil] at hsql
    have hnone : columns? c.sql = none := by
      rw [columns?, hsql, columnsText?_target, columnsAfterName?_eq_none (all_target htarget) hx,
        ← hsql, columnsText?_eq_none (hphrase hnil)]
      rfl
    rw [identityTable?_eq hsql htarget hfound, hnone, hnil]
    rfl
  · have hcolumns? : columns? c.sql =
        some (s.columns.map fun n => unquoteIdentifier (quoteUnlessStar quoteName n)) := by
      rw [columns?, hsql, columnsText?_head htarget hnil fun n hn => (hcolumns n hn).2,
        Option.map_some, columns_columnList hnil fun n hn => (hcolumns n hn).1]
    rw [toList_head_of_ne_nil hnil, List.append_assoc, List.cons_append] at hsql
    rw [identityTable?_eq hsql htarget hfound, hcolumns?, Option.bind_some]
    refine if_congr ?_ rfl rfl
    simp only [List.mem_map, unquoteIdentifier_quoteColumn_eq_iff hdot]

theorem identityTable?_compile_listed :
    let s : Insert :=
      { schema := some "dbo", table := "t", columns := ["a b", "[id]"], returning := []
        source := .rows [[.value (.text "INSERT INTO x (y)"), .bind (.int 1)]] }
    let identity : Column := ⟨"id", "int identity", false, none, none⟩
    let catalog : Catalog := ⟨fun _ => [], fun table => if table = "t" then [identity] else []⟩
    ∃ c, compile dialect catalog (.insert s) = .ok c ∧
      identityTable? catalog c.sql = some "[dbo].[t]" := by
  intro s identity catalog
  have htarget : HasWordTarget s := by
    refine ⟨by decide, ?_⟩
    rintro n ⟨⟩
    decide
  have hidentity : (catalog.columns (tableOf s.table)).filter Column.isIdentity = [identity] := by
    have htable : catalog.columns (tableOf s.table) = [identity] := if_pos (by decide +kernel)
    rw [htable, List.filter_cons_of_pos (by decide +kernel)]
    rfl
  refine ⟨_, rfl, (identityTable?_compile .utc caseSensitiveCollation catalog s rfl hidentity htarget
    (by decide) (by decide) (by rintro ⟨⟩)).trans ?_⟩
  decide +kernel

end SqlServer.InsertText

end PolySql

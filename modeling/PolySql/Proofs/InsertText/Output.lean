import Mathlib.Data.List.Basic
import PolySql.Proofs.InsertText.Target
import PolySql.Proofs.Write.Equations

namespace PolySql.SqlServer.InsertText

open Emission Text

variable {zone : Calendar.Timezone} {collation p : String} {s : Insert}

theorem exists_sql_writeSelect (zone : Calendar.Timezone) (collation p : String) (q : Select) :
    ∃ t, (((dialectWith zone collation).writeSelect q).sql p).toList = 'S' :: t := by
  have hcore (b : Bool) : ((if b then [.fault .noProjection] else []) : Emission).sql p = "" := by
    cases b <;> rfl
  have hpaged (core lock : Emission) (limit offset : Option Dialect.PageBound) :
      (dialectWith zone collation).writePaged core lock limit offset =
        core ++ (Dialect.writeOffsetFetch limit offset ++ lock) := by
    rw [← List.append_assoc]
    rfl
  rw [Dialect.writeSelect_eq, hpaged, Dialect.writeBody]
  simp only [List.append_assoc]
  rw [sql_append, hcore, String.empty_append, sql_append, sql_lit, String.toList_append]
  split
  · exact ⟨_, rfl⟩
  · exact ⟨_, rfl⟩

theorem exists_sql_writeInsertSource {columns : List String} {source : InsertSource}
    (h : ((dialectWith zone collation).writeInsertSource columns source).IsFaultless) (p : String) :
    ∃ c t, (((dialectWith zone collation).writeInsertSource columns source).sql p).toList =
        ' ' :: c :: t ∧ isBlank c = false ∧ c ≠ '(' := by
  cases source with
  | rows rows =>
    cases rows with
    | nil => cases List.forall_mem_singleton.1 h
    | cons row rows =>
      rw [Dialect.writeInsertSource, sql_append, sql_lit, String.toList_append]
      · exact ⟨'V', _, rfl, rfl, by decide⟩
      · rintro ⟨⟩
  | query q =>
    obtain ⟨t, ht⟩ := exists_sql_writeSelect zone collation p q
    refine ⟨'S', t, ?_, rfl, by decide⟩
    rw [Dialect.writeInsertSource, sql_append, sql_lit, String.toList_append, ht]
    rfl
  | defaults =>
    rw [Dialect.writeInsertSource, sql_lit]
    exact ⟨'D', _, rfl, rfl, by decide⟩

theorem withOutput_eq {d : Dialect} {columns : List String} {sql : String} {front rest r : List Char}
    (hne : columns ≠ []) (hout : contains (upper sql) " OUTPUT " = false)
    (hsql : sql.toList = front ++ ' ' :: rest) (hread : afterHead? sql.toList = some r)
    (hr : r = ' ' :: rest ∨ r = rest) (hfront : ∀ c ∈ front.getLast?, isBlank c = false)
    (hrest : ∀ c ∈ rest.head?, isBlank c = false) :
    withOutput d columns sql =
      String.ofList front ++ outputClause d columns ++ String.ofList (' ' :: rest) := by
  have hhead : trimEnd (sql.toList.take (sql.toList.length - r.length)) = front := by
    rw [hsql]
    rcases hr with rfl | rfl
    · rw [List.length_append, Nat.add_sub_cancel, List.take_left, trimEnd_of_getLast? hfront]
    · have hlength : (front ++ ' ' :: r).length - r.length = (front ++ [' ']).length := by
        simp only [List.length_append, List.length_cons, List.length_nil]
        omega
      rw [hlength, List.append_cons front ' ' r, List.take_left, trimEnd_append_blank,
        trimEnd_of_getLast? hfront]
  have htail : trimStart r = rest := by
    rcases hr with rfl | rfl
    · exact trimStart_of_head? hrest
    · exact trimStart_of_head? hrest
  have hempty : columns.isEmpty = false := by
    cases columns with
    | nil => exact absurd rfl hne
    | cons c cs => rfl
  rw [withOutput, hempty, hout]
  simp only [Bool.or_self, Bool.false_eq_true, if_false, hread, hhead, htail, outputClause,
    String.append_assoc]
  rw [← String.ofList_append]
  rfl

theorem isBlank_getLast?_head (h : HasWordTarget s) :
    ∀ c ∈ (head s).toList.getLast?, isBlank c = false := by
  intro c hc
  by_cases hnil : s.columns = []
  · obtain ⟨t, ht⟩ := isEnclosed_target s
    have hne : (target s).toList ≠ [] := by
      rw [ht]
      exact List.cons_ne_nil _ _
    rw [toList_head_of_nil hnil, String.toList_append, List.getLast?_append_of_ne_nil _ hne] at hc
    have hname := List.all_eq_true.1 (all_target h) c (List.mem_of_getLast? hc)
    rw [isNameChar, Bool.and_eq_true, Bool.not_eq_true'] at hname
    exact hname.2
  · rw [toList_head_of_ne_nil hnil, ← List.cons_append, ← List.cons_append, ← List.append_assoc,
      List.getLast?_concat] at hc
    cases hc
    rfl

theorem afterHead?_head (h : HasWordTarget s) (hcolumns : ∀ c ∈ s.columns, ')' ∉ c.toList)
    {c : Char} {t : List Char} (hc : isBlank c = false) (hparen : c ≠ '(') :
    ∃ r, afterHead? ((head s).toList ++ ' ' :: c :: t) = some r ∧
      (r = ' ' :: c :: t ∨ r = c :: t) := by
  by_cases hnil : s.columns = []
  · refine ⟨c :: t, ?_, .inr rfl⟩
    have hblank : trimStart (' ' :: c :: t) = c :: t := by
      show trimStart (c :: t) = c :: t
      exact trimStart_of_head? (by rintro x ⟨⟩; exact hc)
    rw [toList_head_of_nil hnil, afterHead?_target h (by rintro x ⟨⟩; rfl), hblank]
    split
    · rename_i list heq
      exact absurd (List.cons.inj heq).1 hparen
    · rfl
  · refine ⟨' ' :: c :: t, ?_, .inl rfl⟩
    have hlist := not_mem_columnList hcolumns
    rw [toList_head_of_ne_nil hnil, List.append_assoc, List.cons_append, List.cons_append,
      List.append_assoc, afterHead?_target h (by rintro x ⟨⟩; rfl)]
    show some ((((cut? ')' _).map Prod.snd).getD _)) = _
    rw [List.singleton_append, cut?_append hlist]
    rfl

theorem withOutput_head {columns : List String} {source : String}
    (h : HasWordTarget s) (hcolumns : ∀ c ∈ s.columns, ')' ∉ c.toList) (hne : columns ≠ [])
    (hsource : ∃ c t, source.toList = ' ' :: c :: t ∧ isBlank c = false ∧ c ≠ '(')
    (hout : contains (upper (head s ++ source)) " OUTPUT " = false) :
    withOutput (dialectWith zone collation) columns (head s ++ source) =
      head s ++ outputClause (dialectWith zone collation) columns ++ source := by
  obtain ⟨c, t, ht, hc, hparen⟩ := hsource
  have hsql : (head s ++ source).toList = (head s).toList ++ ' ' :: c :: t := by
    rw [String.toList_append, ht]
  obtain ⟨r, hread, hr⟩ := afterHead?_head h hcolumns hc hparen (t := t)
  rw [← hsql] at hread
  rw [withOutput_eq hne hout hsql hread hr (isBlank_getLast?_head h) (by rintro x ⟨⟩; exact hc),
    String.ofList_toList, ← ht, String.ofList_toList]

section Map
variable {ε α β γ : Type} {x : Except ε α} {f g : α → β}

theorem exists_of_map_eq_ok {b : β} (h : x.map f = .ok b) : ∃ a, x = .ok a ∧ f a = b := by
  cases x with
  | error e => cases h
  | ok a => exact ⟨a, rfl, Except.ok.inj h⟩

theorem map_congr_of_ok (h : ∀ a, x = .ok a → f a = g a) : x.map f = x.map g := by
  cases x with
  | error e => rfl
  | ok a => exact congrArg Except.ok (h a rfl)

theorem map_map (x : Except ε α) (f : α → β) (k : β → γ) : (x.map f).map k = x.map (k ∘ f) := by
  cases x <;> rfl

end Map

theorem sql_compile_returning (zone : Calendar.Timezone) (collation : String) (catalog : Catalog)
    (s : Insert) (columns : List String) (hreturning : s.returning = []) (htarget : HasWordTarget s)
    (hcolumns : ∀ c ∈ s.columns, ')' ∉ c.toList) (hne : columns ≠ [])
    (hout : ∀ c, compile (dialectWith zone collation) catalog (.insert s) = .ok c →
      contains (upper c.sql) " OUTPUT " = false) :
    (compile (dialectWith zone collation) catalog (.insert { s with returning := columns })).map
        (·.sql) =
      (compile (dialectWith zone collation) catalog (.insert s)).map fun c =>
        withOutput (dialectWith zone collation) columns c.sql := by
  have hplain := sql_compile_insert zone collation catalog s
  have hreturned := sql_compile_insert zone collation catalog { s with returning := columns }
  rw [hreturning, List.isEmpty_nil, if_pos rfl] at hplain
  rw [if_neg (mt List.isEmpty_iff.1 hne)] at hreturned
  rw [hreturned]
  show _ = (compile _ catalog (.insert s)).map (withOutput _ columns ∘ Compiled.sql)
  rw [← map_map, hplain, map_map]
  refine map_congr_of_ok fun w hw => ?_
  obtain ⟨hfaultless, rfl⟩ := of_finish_eq_ok "?" hw
  obtain ⟨c, hc, hsql⟩ := exists_of_map_eq_ok (hplain.trans (congrArg _ hw))
  have htext := hout c hc
  dsimp only at hsql
  rw [hsql, String.append_empty] at htext
  simp only [Function.comp_apply, String.append_empty]
  rw [withOutput_head htarget hcolumns hne
    (exists_sql_writeInsertSource hfaultless "?") htext]
  rfl

theorem sql_compile_returning_listed :
    let s : Insert :=
      { schema := some "dbo", table := "t", columns := ["a (b", "into"], returning := []
        source := .rows [[.value (.text "INSERT INTO x (y)"), .bind (.int 1)]] }
    HasWordTarget s ∧
      (compile dialect ⟨fun _ => [], fun _ => []⟩ (.insert { s with returning := ["id", "*"] })).map
          (·.sql) =
        (compile dialect ⟨fun _ => [], fun _ => []⟩ (.insert s)).map fun c =>
          withOutput dialect ["id", "*"] c.sql := by
  intro s
  have htarget : HasWordTarget s := by
    refine ⟨by decide, ?_⟩
    rintro n ⟨⟩
    decide
  refine ⟨htarget, sql_compile_returning .utc caseSensitiveCollation _ s ["id", "*"] rfl htarget
    (by decide) (by decide) ?_⟩
  intro c hc
  obtain rfl := Except.ok.inj hc
  decide +kernel

end PolySql.SqlServer.InsertText

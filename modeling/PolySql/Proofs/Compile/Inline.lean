import PolySql.Proofs.Compile.Again
import PolySql.Proofs.Inline.Statement

namespace PolySql

open Emission Text

variable {d : Dialect} {catalog : Catalog}

namespace Text

theorem exists_placeholder {state : Option Char} {t : List Char} (h : hasPlaceholder state t = true) :
    ∃ t₁ t₂, t = t₁ ++ '?' :: t₂ ∧ hasPlaceholder state t₁ = false ∧ scan state t₁ = none := by
  induction t generalizing state with
  | nil => cases h
  | cons c t ih =>
    by_cases hc : (state.isNone && c == '?') = true
    · simp only [Bool.and_eq_true, Option.isNone_iff_eq_none, beq_iff_eq] at hc
      obtain ⟨rfl, rfl⟩ := hc
      exact ⟨[], t, rfl, rfl, rfl⟩
    · rw [Bool.not_eq_true] at hc
      rw [hasPlaceholder, hc, Bool.false_or] at h
      obtain ⟨t₁, t₂, rfl, hp, hs⟩ := ih h
      exact ⟨c :: t₁, t₂, rfl, by rw [hasPlaceholder, hc, hp]; rfl, hs⟩

def closers : List Char :=
  ['\'', '"', ']']

theorem mem_closers_of_scan {state : Option Char} {t : List Char} {c : Char}
    (hstate : ∀ k ∈ state, k ∈ closers) (h : scan state t = some c) : c ∈ closers := by
  induction t generalizing state with
  | nil => exact hstate c h
  | cons k t ih =>
    refine ih (fun c hc => ?_) h
    cases state with
    | none =>
      simp only [scanChar, regionEnd?, Option.mem_def] at hc
      split at hc
      · rename_i hk
        obtain rfl := Option.some.inj hc
        rcases hk with rfl | rfl <;> decide
      · split at hc
        · obtain rfl := Option.some.inj hc
          decide
        · cases hc
    | some k' =>
      simp only [scanChar, Option.mem_def] at hc
      split at hc
      · cases hc
      · obtain rfl := Option.some.inj hc
        exact hstate _ rfl

end Text

open SqlServer.Plan in
theorem isSealed_of_interpolate {p t u u' : String} (hd : d.quote (.int 1) = "1") (hp : IsSealed p)
    (hu : (u.toList.all fun c => !closers.contains c) = true) (hne : u ≠ u')
    (h : interpolate d (p ++ (t ++ u)) [.int 1] = p ++ (t ++ u')) : IsSealed t := by
  have hstart : interpolate d (p ++ (t ++ u)) [.int 1] =
      p ++ interleave ((segmentsFrom none (t.toList ++ u.toList)).map String.ofList) ["1"] := by
    unfold interpolate splitPlaceholders segments
    rw [String.toList_append, segmentsFrom_append _ hp.hasPlaceholder_eq, hp.scan_eq,
      interleave_joinFirst (segmentsFrom_ne_nil _ _), String.ofList_toList, String.toList_append,
      List.map_singleton, hd]
  rw [hstart, String.append_right_inj] at h
  have hplaceholder : hasPlaceholder none t.toList = false := by
    refine Bool.eq_false_iff.2 fun hpos => ?_
    obtain ⟨t₁, t₂, ht, hp₁, hs₁⟩ := exists_placeholder hpos
    rw [ht, List.append_assoc, segmentsFrom_append _ hp₁, hs₁, List.cons_append,
      segmentsFrom_placeholder, interleave_joinFirst (List.cons_ne_nil _ _),
      interleave_placeholder (segmentsFrom_ne_nil _ _)] at h
    have hchars := congrArg String.toList h
    simp [ht] at hchars
  refine ⟨hplaceholder, ?_⟩
  cases hs : scan none t.toList with
  | none => rfl
  | some close =>
    have hclose := mem_closers_of_scan (by rintro k ⟨⟩) hs
    have hmem : close ∉ u.toList := by
      intro hm
      have hc := List.all_eq_true.1 hu close hm
      rw [List.contains_iff_mem.2 hclose] at hc
      cases hc
    have hinside := (scan_inside hmem).2
    rw [segmentsFrom_append _ hplaceholder, hs, segmentsFrom_of_not_hasPlaceholder hinside] at h
    refine absurd ?_ hne
    have hwhole : t ++ u = t ++ u' := by
      rw [← h]
      simp [joinFirst, SqlServer.Plan.interleave]
    exact (String.append_right_inj t).1 hwhole

def keyedPage (table : String) (limit : Expr) : Statement :=
  .select
    { Select.ofTable (.table none table none) with
      projections := [⟨.value (.int 1), none⟩]
      limit := some limit }

def orderedPage (table column : String) (limit : Expr) : Statement :=
  .select
    { Select.ofTable (.table none table none) with
      projections := [⟨.value (.int 1), none⟩]
      orders := [⟨.column (some table) column, .asc, none⟩]
      limit := some limit
      offset := some (.value (.int 0)) }

theorem settle_keyedPage {table column : String} (h : catalog.orderingColumn? table = some column)
    (limit : Expr) :
    (keyedPage table limit).settle SqlServer.capabilities catalog =
      .ok (orderedPage table column limit) := by
  have hkey : keyOrder? catalog (some (.table none table none)) =
      some ⟨.column (some table) column, .asc, none⟩ := by
    show (catalog.orderingColumn? table >>= _) = _
    rw [h]
    rfl
  refine congrArg (fun s => Except.ok (Statement.select s)) ?_
  rw [Select.settle, Select.transform_eq, Select.IsUnprobed.settleStep fun _ => rfl]
  show (({ Select.ofTable (.table none table none) with
    projections := [⟨.value (.int 1), none⟩]
    orders := (keyOrder? catalog (some (.table none table none))).toList
    limit := some limit
    offset := some (.value (.int 0)) } : Select)) = _
  rw [hkey]
  rfl

def pageHead (d : Dialect) (table : String) : Emission :=
  lit "SELECT " ++ lit "1" ++ lit " FROM " ++ lit (d.quoteTable table) ++ lit " ORDER BY " ++
    lit (d.quoteTable table) ++ lit "."

def pageTail (limit : Emission) : Emission :=
  lit " " ++ lit "ASC" ++ lit " OFFSET " ++ lit "0" ++ lit " ROWS" ++ lit " FETCH NEXT " ++ limit ++
    lit " ROWS ONLY"

theorem compile_keyedPage {zone : Calendar.Timezone} {collation table column : String}
    (h : catalog.orderingColumn? table = some column) :
    let d := SqlServer.dialectWith zone collation
    (∃ c, compile d catalog (keyedPage table (.bind (.int 1))) = .ok c ∧ c.binds = [.int 1] ∧
        c.sql = (pageHead d table).sql "?" ++
          (d.quoteColumn column ++ (pageTail [.bind (.int 1)]).sql "?")) ∧
      compile d catalog (keyedPage table (.value (.int 1))) =
        .ok ⟨(pageHead d table).sql "?" ++ (d.quoteColumn column ++ (pageTail (lit "1")).sql "?"), [],
          orderedPage table column (.value (.int 1))⟩ := by
  intro d
  have hcompile (e : Expr) := compile_of_settle (d := d) (settle_keyedPage h e)
  rw [hcompile, hcompile]
  have hbind : d.writeStatement (orderedPage table column (.bind (.int 1))) =
      pageHead d table ++ (lit (d.quoteColumn column) ++ pageTail [.bind (.int 1)]) :=
    rfl
  have hvalue : d.writeStatement (orderedPage table column (.value (.int 1))) =
      pageHead d table ++ (lit (d.quoteColumn column) ++ pageTail (lit "1")) :=
    rfl
  rw [hbind, hvalue]
  refine ⟨⟨_, rfl, rfl, ?_⟩, ?_⟩
  · rw [← sql_lit "?" (d.quoteColumn column), ← sql_append, ← sql_append]
    rfl
  · rw [← sql_lit "?" (d.quoteColumn column), ← sql_append, ← sql_append]
    rfl

theorem isInlinable_keyedPage {table : String} (ht : d.AcceptsName table) (v : Value) :
    (keyedPage table (.bind v)).IsInlinable d where
  trees := by
    have hleaf {e : Expr} (h : e.parts = []) (he : (Node.expr e).IsInlinable d) :
        (Node.expr e).Throughout Node.children (Node.IsInlinable d) :=
      Node.throughout_of_eq_nil h he
    refine List.forall_mem_singleton.2 (.intro ?_ ?_)
    · exact ⟨List.forall_mem_singleton.2 (by rintro a ⟨⟩), by rintro k ⟨⟩, fun _ => rfl⟩
    · refine List.forall_mem_cons.2 ⟨hleaf rfl trivial, List.forall_mem_cons.2 ⟨?_, ?_⟩⟩
      · exact Node.throughout_of_eq_nil rfl ⟨by rintro a ⟨⟩, ht, by rintro a ⟨⟩⟩
      · exact List.forall_mem_singleton.2 (hleaf rfl trivial)
  names := trivial

def InlinesAll (d : Dialect) (catalog : Catalog) : Prop :=
  ∀ s : Statement, s.IsInlinable d → ∀ c, compile d catalog s = .ok c →
    ∃ c', compile d catalog s.inline = .ok c' ∧ c'.binds = [] ∧
      SqlServer.Plan.interpolate d c.sql c.binds = c'.sql ∧ placeholderCount c.sql = c.binds.length

theorem inlinesAll_of_ordersBySealedNames (hn : d.SealsNames) (hd : d.OrdersBySealedNames catalog) :
    InlinesAll d catalog := by
  intro s hs c hc
  obtain ⟨ht, hw⟩ := of_compile_eq_ok hc
  obtain ⟨hfaultless, htext⟩ := of_finish_eq_ok _ hw
  obtain ⟨hsql, hbinds⟩ := Prod.mk.inj htext
  have hwrite := hs.inlinesTo_write hn hd ht (Dialect.rowsFit_of_isFaultless hfaultless)
  have hsettle : s.inline.settle d.capabilities catalog = .ok c.statement.inline := by
    rw [hs.settle_inline hn hd, ht]
    rfl
  have hcompile := compile_of_settle hsettle
  rw [hwrite.eq, finish_of_isFaultless _ (isFaultless_inline d hfaultless)] at hcompile
  refine ⟨_, hcompile, binds_inline d _, ?_, ?_⟩
  · rw [hsql, hbinds, hn.placeholder_eq]
    exact interpolate_sql hwrite.isSealed
  · rw [hsql, hbinds, hn.placeholder_eq]
    exact placeholderCount_sql hwrite.isSealed

theorem ordersBySealedNames_of_inlinesAll {zone : Calendar.Timezone} {collation : String}
    (h : InlinesAll (SqlServer.dialectWith zone collation) catalog) :
    (SqlServer.dialectWith zone collation).OrdersBySealedNames catalog := by
  intro _ table htable column hcolumn
  obtain ⟨⟨c, hc, hbinds, hsql⟩, hliteral⟩ := compile_keyedPage hcolumn
  obtain ⟨c', hc', -, hinterpolate, -⟩ := h _ (isInlinable_keyedPage htable (.int 1)) c hc
  obtain rfl := Except.ok.inj (hc'.symm.trans hliteral)
  rw [hsql, hbinds] at hinterpolate
  -- Nothing behind the name leaves quoted text, and the bind is not its literal.
  refine isSealed_of_interpolate rfl ?_ (by decide) (by decide) hinterpolate
  have htext := (Dialect.IsBuiltIn.sqlServer zone).sealsNames.quoteTable htable
  have hplain {s : String} (hs : isPlain s = true) : IsSealed s := isSealed_of_isPlain hs
  simp only [pageHead, sql_append, sql_lit]
  exact ((((hplain (s := "SELECT " ++ "1" ++ " FROM ") rfl).append htext).append
    (hplain rfl)).append htext).append (hplain rfl)

theorem inlinesAll_iff (hd : d.IsBuiltIn) :
    InlinesAll d catalog ↔ d.OrdersBySealedNames catalog := by
  refine ⟨fun h => ?_, inlinesAll_of_ordersBySealedNames hd.sealsNames⟩
  cases hd with
  | sqlServer zone => exact ordersBySealedNames_of_inlinesAll h
  | generic => rintro ⟨⟩
  | postgres => rintro ⟨⟩
  | sqlite => rintro ⟨⟩
  | db2 => rintro ⟨⟩

def bracketedKey : Catalog :=
  ⟨fun _ => ["a]?"], fun _ => []⟩

theorem not_ordersBySealedNames_bracketedKey :
    ¬ SqlServer.dialect.OrdersBySealedNames bracketedKey := by
  intro h
  have hsealed := h rfl "t" (fun _ => by decide) "a]?" rfl
  exact absurd hsealed.hasPlaceholder_eq (by decide)

theorem inlinesAll_iff_bracketedKey : ¬ InlinesAll SqlServer.dialect bracketedKey :=
  fun h => not_ordersBySealedNames_bracketedKey ((inlinesAll_iff (.sqlServer .utc)).1 h)

end PolySql

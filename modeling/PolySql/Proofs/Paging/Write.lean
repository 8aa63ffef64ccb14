import PolySql.Proofs.Number.Integer
import PolySql.Proofs.Paging.Page
import PolySql.Proofs.Settle.Width
import PolySql.Proofs.Write.Equations

namespace PolySql

open Emission Text Number

namespace Emission

inductive Counts (n : Int64) : Emission → Prop
  | number : Counts n (lit (intText n.toInt))
  | bind : Counts n [.bind (.int n)]

variable {n : Int64} {e : Emission}

theorem not_mem_blank_intText (n : Int) : ' ' ∉ (intText n).toList :=
  not_mem_intText rfl (by decide) n

theorem Counts.not_mem_sql (h : e.Counts n) : ' ' ∉ (e.sql "?").toList := by
  cases h with
  | number =>
    rw [sql_lit]
    exact not_mem_blank_intText n.toInt
  | bind => exact (by decide : ' ' ∉ "?".toList)

theorem readCount?_intText (n : Int) (binds : List Value) :
    readCount? (intText n) binds = some (n, binds) := by
  have hne : intText n ≠ "?" := by
    intro h
    have hread := readInt?_intText n
    rw [h] at hread
    cases hread
  simp [readCount?, hne, readInt?_intText]

theorem Counts.read (h : e.Counts n) (rest : List Value) :
    readCount? (e.sql "?") (e.binds ++ rest) = some (n.toInt, rest) := by
  cases h with
  | number =>
    rw [sql_lit]
    exact readCount?_intText n.toInt rest
  | bind => rfl

section Bind
variable {β : Type} (f : Int × List Value → Option β)

theorem bind_readCount?_intText (n : Int) (binds : List Value) :
    (readCount? (intText n) binds).bind f = f (n, binds) := by
  rw [readCount?_intText, Option.bind_some]

theorem Counts.bind_read (h : e.Counts n) (rest : List Value) :
    (readCount? (e.sql "?") (e.binds ++ rest)).bind f = f (n.toInt, rest) := by
  rw [h.read, Option.bind_some]

theorem Counts.bind_read_nil (h : e.Counts n) :
    (readCount? (e.sql "?") e.binds).bind f = f (n.toInt, []) := by
  have hread := h.bind_read f []
  rwa [List.append_nil] at hread

end Bind

theorem words_eq {text : String} {w : List String} (hne : w ≠ [])
    (hb : ∀ v ∈ w, ' ' ∉ v.toList) (h : text.toList = (joined " " w).toList) : words text = w := by
  rw [String.toList_inj.1 h, words_joined hne hb]

def IsClause (page : Page) (clause : Emission) : Prop :=
  readClause? clause.binds (words (clause.sql "?")) = some (page, [])

theorem IsClause.of_words {page : Page} {clause : Emission} {w : List String} {b : List Value}
    (hne : w ≠ []) (hblank : ∀ v ∈ w, ' ' ∉ v.toList)
    (htext : (clause.sql "?").toList = (joined " " w).toList) (hbinds : clause.binds = b)
    (hread : readClause? b w = some (page, [])) : clause.IsClause page := by
  rw [IsClause, words_eq hne hblank htext, hbinds]
  exact hread

section Clauses
variable {l o : Emission} {L O : Int64}

theorem isClause_nil : IsClause (.limitOffset none none) [] :=
  .of_words (w := [""]) (by simp) (by simp) rfl rfl rfl

theorem Counts.isClause_limit (hl : l.Counts L) :
    (lit " LIMIT " ++ l).IsClause (.limitOffset (some L.toInt) none) := by
  refine .of_words (w := ["", "LIMIT", l.sql "?"]) (b := l.binds) (by simp)
    (by simp [hl.not_mem_sql]) (by simp [sql_append, joined]) rfl ?_
  -- The words choose the reader's case by computation, so only its counts are left to read.
  exact hl.bind_read_nil _

theorem Counts.isClause_offset (ho : o.Counts O) :
    (lit " OFFSET " ++ o).IsClause (.limitOffset none (some O.toInt)) := by
  refine .of_words (w := ["", "OFFSET", o.sql "?"]) (b := o.binds) (by simp)
    (by simp [ho.not_mem_sql]) (by simp [sql_append, joined]) rfl ?_
  exact ho.bind_read_nil _

theorem Counts.isClause_allOffset (ho : o.Counts O) :
    (lit " LIMIT -1" ++ (lit " OFFSET " ++ o)).IsClause (.limitOffset (some (-1)) (some O.toInt)) := by
  refine .of_words (w := ["", "LIMIT", "-1", "OFFSET", o.sql "?"]) (b := o.binds) (by simp)
    (by simp [ho.not_mem_sql]) (by simp [sql_append, joined]) rfl ?_
  exact ho.bind_read_nil _

theorem Counts.isClause_limitOffset (hl : l.Counts L) (ho : o.Counts O) :
    (lit " LIMIT " ++ l ++ (lit " OFFSET " ++ o)).IsClause
      (.limitOffset (some L.toInt) (some O.toInt)) := by
  refine .of_words (w := ["", "LIMIT", l.sql "?", "OFFSET", o.sql "?"]) (b := l.binds ++ o.binds)
    (by simp) (by simp [hl.not_mem_sql, ho.not_mem_sql]) (by simp [sql_append, joined])
    (by simp [binds_append, binds_lit]) ?_
  exact (hl.bind_read _ o.binds).trans (ho.bind_read_nil _)

theorem Counts.isClause_offsetRows (ho : o.Counts O) :
    (lit " OFFSET " ++ o ++ lit " ROWS").IsClause (.offsetFetch O.toInt none) := by
  refine .of_words (w := ["", "OFFSET", o.sql "?", "ROWS"]) (b := o.binds) (by simp)
    (by simp [ho.not_mem_sql]) (by simp [sql_append, joined]) (by simp [binds_append, binds_lit]) ?_
  exact ho.bind_read_nil _

theorem Counts.isClause_fetchNone (ho : o.Counts O) :
    (lit " OFFSET " ++ o ++ lit " ROWS" ++ lit " FETCH FIRST (SELECT 0) ROWS ONLY").IsClause
      (.offsetFetch O.toInt (some 0)) := by
  refine .of_words
    (w := ["", "OFFSET", o.sql "?", "ROWS", "FETCH", "FIRST", "(SELECT", "0)", "ROWS", "ONLY"])
    (b := o.binds) (by simp) (by simp [ho.not_mem_sql]) (by simp [sql_append, joined])
    (by simp [binds_append, binds_lit]) ?_
  exact ho.bind_read_nil _

theorem Counts.isClause_fetchNext (ho : o.Counts O) (hl : l.Counts L) :
    (lit " OFFSET " ++ o ++ lit " ROWS" ++ (lit " FETCH NEXT " ++ l ++ lit " ROWS ONLY")).IsClause
      (.offsetFetch O.toInt (some L.toInt)) := by
  refine .of_words
    (w := ["", "OFFSET", o.sql "?", "ROWS", "FETCH", "NEXT", l.sql "?", "ROWS", "ONLY"])
    (b := o.binds ++ l.binds) (by simp) (by simp [hl.not_mem_sql, ho.not_mem_sql])
    (by simp [sql_append, joined]) (by simp [binds_append, binds_lit]) ?_
  exact (ho.bind_read _ l.binds).trans (hl.bind_read_nil _)

theorem isClause_fetchFirst (n : Int) :
    (lit (" FETCH FIRST " ++ intText n ++ " ROWS ONLY")).IsClause (.first n) := by
  refine .of_words (w := ["", "FETCH", "FIRST", intText n, "ROWS", "ONLY"]) (by simp)
    (by simp [not_mem_blank_intText]) (by simp [joined]) rfl ?_
  exact bind_readCount?_intText _ n []

theorem isClause_fetchFirstOne : (lit " FETCH FIRST 1 ROW ONLY").IsClause (.first 1) := by
  have hread {v : String} (hv : readCount? v [] = some (1, [])) :
      readClause? [] ["", "FETCH", "FIRST", v, "ROW", "ONLY"] = some (.first 1, []) := by
    change (readCount? v []).bind _ = _
    rw [hv]
    rfl
  have hone : readCount? "1" [] = some (1, []) := readCount?_intText 1 []
  exact .of_words (by simp) (by simp) (by simp [joined]) rfl (hread hone)

end Clauses

section Frames
variable {l o : Emission} {L O : Int64}

def windowHead : String :=
  "SELECT B.* FROM (SELECT A.*, row_number() over () AS internal$rownum FROM ("

def IsFrame (page : Page) (before : String) (behind : Emission) : Prop :=
  readFrame? before behind.binds (words (behind.sql "?")) = some (page, [])

theorem IsFrame.of_words {page : Page} {before : String} {behind : Emission} {w : List String}
    {b : List Value} (hne : w ≠ []) (hblank : ∀ v ∈ w, ' ' ∉ v.toList)
    (htext : (behind.sql "?").toList = (joined " " w).toList) (hbinds : behind.binds = b)
    (hread : readFrame? before b w = some (page, [])) : behind.IsFrame page before := by
  rw [IsFrame, words_eq hne hblank htext, hbinds]
  exact hread

theorem isFrame_nothing : (lit ") A WHERE 1 = 0").IsFrame .nothing "SELECT A.* FROM (" :=
  .of_words (w := [")", "A", "WHERE", "1", "=", "0"]) (by simp) (by simp) (by simp [joined]) rfl rfl

theorem isFrame_after (n : Int) :
    (lit ") A) B WHERE B.internal$rownum > " ++ lit (intText n)).IsFrame (.window n none) windowHead := by
  refine .of_words (w := [")", "A)", "B", "WHERE", "B.internal$rownum", ">", intText n]) (by simp)
    (by simp [not_mem_blank_intText]) (by simp [sql_append, joined]) rfl ?_
  change (if windowHead = windowHead then (readCount? (intText n) []).bind _ else none) = _
  rw [if_pos rfl]
  exact bind_readCount?_intText _ n []

theorem isFrame_last (n last : Int) :
    (lit ") A) B WHERE B.internal$rownum > " ++ lit (intText n) ++
      (lit " AND B.internal$rownum <= " ++ lit (intText last))).IsFrame (.window n (some last))
      windowHead := by
  refine .of_words
    (w := [")", "A)", "B", "WHERE", "B.internal$rownum", ">", intText n, "AND", "B.internal$rownum",
      "<=", intText last])
    (by simp) (by simp [not_mem_blank_intText]) (by simp [sql_append, joined]) rfl ?_
  change (if windowHead = windowHead then (readCount? (intText n) []).bind _ else none) = _
  rw [if_pos rfl]
  exact (bind_readCount?_intText _ n []).trans (bind_readCount?_intText _ last [])

theorem Counts.isFrame_sum (hl : l.Counts L) (ho : o.Counts O) (n : Int) :
    (lit ") A) B WHERE B.internal$rownum > " ++ lit (intText n) ++
      (lit " AND B.internal$rownum <= " ++ (l ++ lit " + " ++ o))).IsFrame
      (.window n (some (L.toInt + O.toInt))) windowHead := by
  refine .of_words
    (w := [")", "A)", "B", "WHERE", "B.internal$rownum", ">", intText n, "AND", "B.internal$rownum",
      "<=", l.sql "?", "+", o.sql "?"])
    (b := l.binds ++ o.binds) (by simp)
    (by simp [not_mem_blank_intText, hl.not_mem_sql, ho.not_mem_sql])
    (by simp [sql_append, joined]) (by simp [binds_append, binds_lit]) ?_
  change (if windowHead = windowHead then (readCount? (intText n) (l.binds ++ o.binds)).bind _
    else none) = _
  rw [if_pos rfl]
  exact (bind_readCount?_intText _ n _).trans
    ((hl.bind_read _ o.binds).trans (ho.bind_read_nil _))

end Frames

def PagesBy (placeholder : String) (e : Emission) (page : Page) (core lock : Emission)
    (binds : List Value) : Prop :=
  ∃ before inner outer : String,
    e.sql placeholder =
        before ++ core.sql placeholder ++ inner ++ lock.sql placeholder ++ outer ∧
      e.binds = core.binds ++ binds ∧ readPage? before inner outer binds = some page

theorem IsClause.pagesBy {page : Page} {core lock clause : Emission} (h : clause.IsClause page)
    (hlock : lock.binds = []) : PagesBy "?" (core ++ clause ++ lock) page core lock clause.binds := by
  refine ⟨"", clause.sql "?", "", ?_, ?_, ?_⟩
  · simp [sql_append, String.append_assoc]
  · simp [binds_append, hlock]
  · rw [IsClause] at h
    simp [readPage?, h]

theorem IsFrame.pagesBy {page : Page} {before : String} {core lock behind : Emission}
    (h : behind.IsFrame page before) (hbefore : before ≠ "") (hlock : lock.binds = []) :
    PagesBy "?" (lit before ++ (core ++ lock) ++ behind) page core lock behind.binds := by
  refine ⟨before, "", behind.sql "?", ?_, ?_, ?_⟩
  · simp [sql_append, String.append_assoc]
  · simp [binds_append, binds_lit, hlock]
  · rw [IsFrame] at h
    simp [readPage?, hbefore, h]

end Emission

inductive HasCount : Option Int64 → Option Expr → Prop
  | absent : HasCount none none
  | value (n : Int64) : HasCount (some n) (some (.value (.int n)))
  | bind (n : Int64) : HasCount (some n) (some (.bind (.int n)))

inductive CountBound : Option Int64 → Option Dialect.PageBound → Prop
  | absent : CountBound none none
  | count {n : Int64} {e : Emission} : e.Counts n → CountBound (some n) (some ⟨some n, e, e⟩)

theorem HasCount.countBound {d : Dialect} (hd : d.HasStandardLiterals) {n : Option Int64}
    {e : Option Expr} (h : HasCount n e) : CountBound n (d.writeBound e) := by
  cases h with
  | absent => exact .absent
  | value n =>
    have hcounts : Counts n (d.writeExpr (.value (.int n))) := by
      rw [Dialect.writeExpr, hd.quote]
      exact .number
    exact .count hcounts
  | bind n => exact .count .bind

def pageRows {α : Type*} (limit offset : Option Int64) (rows : List α) : List α :=
  Page.firstRows (limit.map Int64.toInt) (rows.drop (offset.elim 0 fun o => o.toInt.toNat))

namespace Page

variable {L O : Option Int64}

def Keeps (limit offset : Option Int64) (page : Page) : Prop :=
  ∀ (α : Type) (rows : List α), page.select rows = pageRows limit offset rows

theorem keeps_limitOffset (hL : ∀ l ∈ L, 0 ≤ l.toInt) :
    (limitOffset (L.map Int64.toInt) (O.map Int64.toInt)).Keeps L O := by
  intro α rows
  cases L with
  | none => cases O <;> rfl
  | some l =>
    have hl : l.toInt ≠ -1 := by
      have := hL l rfl
      omega
    cases O <;> simp [select, pageRows, Option.filter, hl]

theorem keeps_allOffset (o : Int64) : (limitOffset (some (-1)) (some o.toInt)).Keeps none (some o) := by
  intro α rows
  simp [select, pageRows, Option.filter]

theorem keeps_offsetFetch (o : Int64) : (offsetFetch o.toInt (L.map Int64.toInt)).Keeps L (some o) :=
  fun _ _ => rfl

theorem keeps_first (l : Int64) : (first l.toInt).Keeps (some l) none :=
  fun _ _ => rfl

theorem keeps_nothing : nothing.Keeps (some 0) O := by
  intro α rows
  simp [select, pageRows, firstRows]

theorem keeps_window {o : Int64} (hL : ∀ l ∈ L, 0 ≤ l.toInt) (ho : 0 ≤ o.toInt) :
    (window o.toInt (L.map fun l => l.toInt + o.toInt)).Keeps L (some o) := by
  intro α rows
  have hl : ∀ l ∈ L.map Int64.toInt, 0 ≤ l := by simpa using hL
  have hwindow := select_window rows ho (L.map Int64.toInt) hl
  rwa [Option.map_map] at hwindow

end Page

namespace Dialect

variable {d : Dialect} {L O : Option Int64} {l o : Option PageBound} {core lock : Emission}

theorem isClause_limitOffset (hl : CountBound L l) (ho : CountBound O o) (hL : ∀ n ∈ L, 0 ≤ n.toInt) :
    ∃ page, (d.writeLimitOffset l o).IsClause page ∧ page.Keeps L O := by
  cases hl with
  | absent =>
    cases ho with
    | absent => exact ⟨_, isClause_nil, Page.keeps_limitOffset hL⟩
    | count ho =>
      cases hr : d.capabilities.offsetRequiresLimit with
      | true =>
        simp only [writeLimitOffset, hr]
        exact ⟨_, ho.isClause_allOffset, Page.keeps_allOffset _⟩
      | false =>
        simp only [writeLimitOffset, hr]
        exact ⟨_, ho.isClause_offset, Page.keeps_limitOffset hL⟩
  | count hl =>
    cases ho with
    | absent =>
      simp only [writeLimitOffset, List.append_nil]
      exact ⟨_, hl.isClause_limit, Page.keeps_limitOffset hL⟩
    | count ho => exact ⟨_, hl.isClause_limitOffset ho, Page.keeps_limitOffset hL⟩

def boundBinds (b : Option PageBound) : List Value :=
  b.elim [] fun b => b.plain.binds

theorem isClause_offsetFetch (hl : CountBound L l) (ho : CountBound O o) (hmissing : O = none → L = none) :
    ∃ page, (writeOffsetFetch l o).IsClause page ∧ page.Keeps L O ∧
      (L = some 0 → (writeOffsetFetch l o).binds = boundBinds o) := by
  cases ho with
  | absent =>
    obtain rfl := hmissing rfl
    cases hl with
    | absent => exact ⟨_, isClause_nil, fun _ _ => rfl, by simp⟩
  | @count O o ho =>
    cases hl with
    | absent =>
      simp only [writeOffsetFetch, List.append_nil]
      exact ⟨_, ho.isClause_offsetRows, Page.keeps_offsetFetch _, by simp⟩
    | @count L l hl =>
      by_cases hzero : L = 0
      · subst hzero
        have hw : writeOffsetFetch (some ⟨some 0, l, l⟩) (some ⟨some O, o, o⟩) =
            lit " OFFSET " ++ o ++ lit " ROWS" ++ lit " FETCH FIRST (SELECT 0) ROWS ONLY" := rfl
        rw [hw]
        refine ⟨_, ho.isClause_fetchNone, Page.keeps_offsetFetch (L := some 0) _, fun _ => ?_⟩
        simp [binds_append, binds_lit, boundBinds]
      · simp only [writeOffsetFetch, Option.some.injEq, hzero, if_false]
        exact ⟨_, ho.isClause_fetchNext hl, Page.keeps_offsetFetch _, by simp⟩

theorem isClause_fetchFirst (hl : CountBound L l) :
    ∃ page, (writeFetchFirst l).IsClause page ∧ page.Keeps L none := by
  cases hl with
  | absent => exact ⟨_, isClause_nil, fun _ _ => rfl⟩
  | @count L l hl =>
    by_cases hone : L = 1
    · subst hone
      exact ⟨_, isClause_fetchFirstOne, Page.keeps_first 1⟩
    · simp only [writeFetchFirst, hone, if_false]
      exact ⟨_, Emission.isClause_fetchFirst _, Page.keeps_first L⟩

theorem writeRowWindow_eq (body : Emission) (l : Option PageBound) (O : Int64) (o : Emission) :
    writeRowWindow body l ⟨some O, o, o⟩ =
      lit windowHead ++ body ++ (lit ") A) B WHERE B.internal$rownum > " ++ lit (intText O.toInt) ++
        l.elim [] fun l => lit " AND B.internal$rownum <= " ++ writeLastRow l ⟨some O, o, o⟩) := by
  cases l <;> simp [writeRowWindow, windowHead, rowNumber]

theorem writeLastRow_eq {L O : Int64} (l o : Emission) :
    writeLastRow ⟨some L, l, l⟩ ⟨some O, o, o⟩ =
      (add? L O).elim (l ++ lit " + " ++ o) fun n => lit (intText n.toInt) := by
  cases h : add? L O <;> simp [writeLastRow, h]

theorem isFrame_rowWindow (hl : CountBound L l) {O : Int64} {o : Emission} (ho : o.Counts O)
    (hL : ∀ n ∈ L, 0 ≤ n.toInt) (hO : 0 ≤ O.toInt) :
    ∃ page behind, behind.IsFrame page windowHead ∧
      (∀ body, writeRowWindow body l ⟨some O, o, o⟩ = lit windowHead ++ body ++ behind) ∧
      page.Keeps L (some O) ∧ (L = some 0 → behind.binds = []) := by
  have hkeeps := Page.keeps_window hL hO
  have hw := fun body => writeRowWindow_eq body l O o
  cases hl with
  | absent =>
    simp only [Option.elim_none, List.append_nil] at hw
    exact ⟨_, _, isFrame_after _, hw, hkeeps, by simp⟩
  | @count L l hl =>
    simp only [Option.elim_some, writeLastRow_eq] at hw
    rw [Option.map_some] at hkeeps
    cases hsum : add? L O with
    | some n =>
      have hlast : n.toInt = L.toInt + O.toInt := Number.toInt_of_int64? hsum
      rw [← hlast] at hkeeps
      rw [hsum] at hw
      exact ⟨_, _, isFrame_last _ _, hw, hkeeps, fun _ => rfl⟩
    | none =>
      rw [hsum] at hw
      refine ⟨_, _, hl.isFrame_sum ho _, hw, hkeeps, ?_⟩
      rintro ⟨⟩
      rw [Number.add?_zero] at hsum
      cases hsum

theorem pagesBy_writePaged (hl : CountBound L l) (ho : CountBound O o) (hL : ∀ n ∈ L, 0 ≤ n.toInt)
    (hO : ∀ n ∈ O, 0 ≤ n.toInt) (hlock : lock.binds = [])
    (hmissing : d.capabilities.paging = .offsetFetch → O = none → L = none) :
    ∃ page binds, PagesBy "?" (d.writePaged core lock l o) page core lock binds ∧ page.Keeps L O ∧
      (d.capabilities.paging ≠ .limitOffset → L = some 0 → binds.Sublist (boundBinds o)) := by
  cases hp : d.capabilities.paging with
  | limitOffset =>
    have hw : d.writePaged core lock l o = core ++ d.writeLimitOffset l o ++ lock := by
      simp [writePaged, writePaging, hp]
    obtain ⟨page, hclause, hkeeps⟩ := isClause_limitOffset (d := d) hl ho hL
    exact ⟨page, _, hw ▸ hclause.pagesBy hlock, hkeeps, by simp⟩
  | offsetFetch =>
    have hw : d.writePaged core lock l o = core ++ writeOffsetFetch l o ++ lock := by
      simp [writePaged, writePaging, hp]
    obtain ⟨page, hclause, hkeeps, hzero⟩ := isClause_offsetFetch hl ho (hmissing hp)
    exact ⟨page, _, hw ▸ hclause.pagesBy hlock, hkeeps, fun _ hL => hzero hL ▸ List.Sublist.refl _⟩
  | fetchFirst =>
    cases ho with
    | @count O o ho =>
      have hw : d.writePaged core lock l (some ⟨some O, o, o⟩) =
          writeRowWindow (core ++ lock) l ⟨some O, o, o⟩ := by
        simp [writePaged, hp]
      obtain ⟨page, behind, hframe, hwindow, hkeeps, hzero⟩ := isFrame_rowWindow hl ho hL (hO O rfl)
      rw [hw, hwindow]
      exact ⟨page, _, hframe.pagesBy (by decide) hlock, hkeeps,
        fun _ hL => hzero hL ▸ List.nil_sublist _⟩
    | absent =>
      by_cases hzero : L = some 0
      · subst hzero
        cases hl with
        | @count L l hl =>
          have hw : d.writePaged core lock (some ⟨some 0, l, l⟩) none =
              lit "SELECT A.* FROM (" ++ (core ++ lock) ++ lit ") A WHERE 1 = 0" := by
            simp [writePaged, hp]
          rw [hw]
          exact ⟨_, _, isFrame_nothing.pagesBy (by decide) hlock, Page.keeps_nothing,
            fun _ _ => List.Sublist.refl _⟩
      · have hw : d.writePaged core lock l none = core ++ writeFetchFirst l ++ lock := by
          cases hl with
          | absent => simp [writePaged, writePaging, hp]
          | count hl =>
            rw [Option.some.injEq] at hzero
            simp [writePaged, writePaging, hp, hzero]
        obtain ⟨page, hclause, hkeeps⟩ := isClause_fetchFirst hl
        exact ⟨page, _, hw ▸ hclause.pagesBy hlock, hkeeps, fun _ h => absurd h hzero⟩

end Dialect

end PolySql

import PolySql.Proofs.Condition.Predicate

namespace PolySql

open Condition Emission Text

namespace Dialect

def ReadsAs (d : Dialect) (reads : List Lexeme → Condition → Prop) (s : String) (c : Condition) :
    Prop :=
  ∃ xs, d.LexesTo s xs ∧ reads xs c

variable {d : Dialect} {s t : String} {c e : Condition}

theorem ReadsAs.conjuncts (h : d.ReadsAs ReadsNegated s c) : d.ReadsAs ReadsConjuncts s c :=
  h.imp fun _ h => ⟨h.1, h.2.conjuncts⟩

theorem ReadsAs.disjuncts (h : d.ReadsAs ReadsConjuncts s c) : d.ReadsAs ReadsDisjuncts s c :=
  h.imp fun _ h => ⟨h.1, h.2.disjuncts⟩

theorem ReadsAs.enclosed (h : d.ReadsAs ReadsDisjuncts s c) :
    d.ReadsAs ReadsNegated ("(" ++ s ++ ")") c := by
  obtain ⟨xs, hlex, hread⟩ := h
  exact ⟨_, hlex.enclosed, hread.enclosed⟩

theorem ReadsAs.not (hd : d.QuotesPlainly) (h : d.ReadsAs ReadsNegated s c) :
    d.ReadsAs ReadsNegated ("NOT " ++ s) c.not := by
  obtain ⟨xs, hlex, hread⟩ := h
  exact ⟨_, (lexesTo_not hd).blank hlex, hread.not⟩

theorem ReadsAs.and (hd : d.QuotesPlainly) (hc : d.ReadsAs ReadsConjuncts s c)
    (he : d.ReadsAs ReadsConjuncts t e) : d.ReadsAs ReadsConjuncts (s ++ " AND " ++ t) (c.and e) := by
  obtain ⟨xs, hs, hc⟩ := hc
  obtain ⟨ys, ht, he⟩ := he
  have hlex := hs.phrase (k := " AND ") ht (lexesTo_and hd) rfl
  rw [List.append_assoc] at hlex
  exact ⟨_, hlex, hc.and he⟩

theorem ReadsAs.or (hd : d.QuotesPlainly) (hc : d.ReadsAs ReadsDisjuncts s c)
    (he : d.ReadsAs ReadsDisjuncts t e) : d.ReadsAs ReadsDisjuncts (s ++ " OR " ++ t) (c.or e) := by
  obtain ⟨xs, hs, hc⟩ := hc
  obtain ⟨ys, ht, he⟩ := he
  have hor := lexesTo_reserved hd (v := "OR") (x := .or) (by simp [reserved])
  have hlex := hs.phrase (k := " OR ") ht hor rfl
  rw [List.append_assoc] at hlex
  exact ⟨_, hlex, hc.or he⟩

theorem ReadsAs.condition? (h : d.ReadsAs ReadsDisjuncts s c) :
    ∃ x, d.condition? s = some x ∧ Reassociates x c := by
  obtain ⟨xs, hlex, hread⟩ := h
  rw [Dialect.condition?, hlex.lexemes_eq]
  exact hread.read?

structure Reads (d : Dialect) (p : Predicate) : Prop where
  disjuncts : d.ReadsAs ReadsDisjuncts (d.text p.toExpr) (p.condition d)
  conjuncts : isOr p.toExpr = false → d.ReadsAs ReadsConjuncts (d.text p.toExpr) (p.condition d)
  negated : p.toExpr.isBinary = false → d.ReadsAs ReadsNegated (d.text p.toExpr) (p.condition d)

variable {p q : Predicate}

theorem reads_of_negated (h : d.ReadsAs ReadsNegated (d.text p.toExpr) (p.condition d)) : d.Reads p :=
  ⟨h.conjuncts.disjuncts, fun _ => h.conjuncts, fun _ => h⟩

theorem reads_of_conjuncts (h : d.ReadsAs ReadsConjuncts (d.text p.toExpr) (p.condition d))
    (hbinary : p.toExpr.isBinary = true) : d.Reads p := by
  refine ⟨h.disjuncts, fun _ => h, fun hno => ?_⟩
  rw [hbinary] at hno
  cases hno

theorem reads_of_disjuncts (h : d.ReadsAs ReadsDisjuncts (d.text p.toExpr) (p.condition d))
    (hor : isOr p.toExpr = true) (hbinary : p.toExpr.isBinary = true) : d.Reads p := by
  refine ⟨h, fun hno => ?_, fun hno => ?_⟩
  · rw [hor] at hno
    cases hno
  · rw [hbinary] at hno
    cases hno

theorem Reads.conjunct (h : d.Reads p) {b : Bool} (hb : isOr p.toExpr = true → b = true) :
    d.ReadsAs ReadsConjuncts (if b then "(" ++ d.text p.toExpr ++ ")" else d.text p.toExpr)
      (p.condition d) := by
  cases b with
  | true => exact h.disjuncts.enclosed.conjuncts
  | false =>
    refine h.conjuncts (Bool.eq_false_iff.2 fun hor => ?_)
    cases hb hor

theorem Reads.operand (h : d.Reads p) {b : Bool} (hb : p.toExpr.isBinary = true → b = true) :
    d.ReadsAs ReadsNegated (if b then "(" ++ d.text p.toExpr ++ ")" else d.text p.toExpr)
      (p.condition d) := by
  cases b with
  | true => exact h.disjuncts.enclosed
  | false =>
    refine h.negated (Bool.eq_false_iff.2 fun hbinary => ?_)
    cases hb hbinary

theorem sideNeedsParens_and (isRight : Bool) (e : Expr) :
    sideNeedsParens .and isRight e = isOr e := by
  cases e with
  | binary l op r => cases op <;> cases isRight <;> rfl
  | _ => rfl

theorem sideNeedsParens_or (isRight : Bool) (e : Expr) : sideNeedsParens .or isRight e = false := by
  cases e with
  | binary l op r => cases op <;> cases isRight <;> rfl
  | _ => rfl

theorem text_binary (l : Expr) (op : BinaryOp) (r : Expr) :
    d.text (.binary l op r) =
      (if sideNeedsParens op false l then "(" ++ d.text l ++ ")" else d.text l) ++
        (" " ++ d.writeOperator op ++ " ") ++
        (if sideNeedsParens op true r then "(" ++ d.text r ++ ")" else d.text r) := by
  simp only [text, writeExpr, sql_append, sql_lit, sql_parenthesizedIf, String.append_assoc]

theorem condition_test {t : Test Term} (ht : ∀ e negated, t ≠ .inList e [] negated) :
    (Predicate.test t).condition d = .test (t.map fun a => d.text a.1) := by
  cases t with
  | inList e list negated =>
    cases list with
    | nil => exact absurd rfl (ht e negated)
    | cons a list => rfl
  | _ => rfl

theorem test_map_ne_inList {t : Test Term} {f : Term → String}
    (ht : ∀ e negated, t ≠ .inList e [] negated) (e : String) (negated : Bool) :
    t.map f ≠ .inList e [] negated := by
  cases t with
  | inList e' list negated' =>
    cases list with
    | nil => exact absurd rfl (ht e' negated')
    | cons a list => simp [Test.map]
  | _ => simp [Test.map]

theorem reads_test (hd : d.QuotesPlainly) {t : Test Term}
    (h : ∀ a ∈ t.operands, d.IsOperand (d.text a.1)) : d.Reads (.test t) := by
  by_cases ht : ∃ e negated, t = .inList e [] negated
  · obtain ⟨e, negated, rfl⟩ := ht
    refine reads_of_negated ⟨_, ?_, readsNegated_constant negated⟩
    cases negated with
    | false => exact lexesTo_reserved hd (v := "1=0") (by simp [reserved])
    | true => exact lexesTo_reserved hd (v := "1=1") (by simp [reserved])
  · have hne (e : Term) (negated : Bool) : t ≠ .inList e [] negated := fun h => ht ⟨e, negated, h⟩
    refine reads_of_negated ⟨_, lexesTo_test hd hne h, ?_⟩
    rw [condition_test hne]
    exact readsNegated_test (test_map_ne_inList hne)

theorem reads (hd : d.QuotesParts) (hp : d.placeholder = "?") {p : Predicate}
    (hn : ∀ a ∈ p.operands, d.KeepsNames a.1) : d.Reads p := by
  induction p with
  | test t => exact reads_test hd.plainly fun a ha => isOperand_text hd hp a.2 (hn a ha)
  | not p ih =>
    have htext : d.text (Predicate.not p).toExpr =
        "NOT " ++ if p.toExpr.isBinary then "(" ++ d.text p.toExpr ++ ")" else d.text p.toExpr := by
      simp only [text, Predicate.toExpr, writeExpr, sql_append, sql_lit, sql_parenthesizedIf]
      rfl
    refine reads_of_negated ?_
    rw [htext]
    exact ((ih hn).operand id).not hd.plainly
  | and p q ihp ihq =>
    obtain ⟨hp, hq⟩ := List.forall_mem_append.1 hn
    refine reads_of_conjuncts ?_ rfl
    rw [Predicate.toExpr, text_binary, sideNeedsParens_and, sideNeedsParens_and]
    exact ((ihp hp).conjunct id).and hd.plainly ((ihq hq).conjunct id)
  | or p q ihp ihq =>
    obtain ⟨hp, hq⟩ := List.forall_mem_append.1 hn
    refine reads_of_disjuncts ?_ rfl rfl
    rw [Predicate.toExpr, text_binary, sideNeedsParens_or, sideNeedsParens_or]
    exact (ihp hp).disjuncts.or hd.plainly (ihq hq).disjuncts
  | group p ih =>
    have htext : d.text (Predicate.group p).toExpr =
        if !isGrouped p.toExpr then "(" ++ d.text p.toExpr ++ ")" else d.text p.toExpr := by
      simp only [text, Predicate.toExpr, writeExpr, sql_parenthesizedIf]
    refine reads_of_negated ?_
    rw [htext]
    refine (ih hn).operand fun hbinary => ?_
    cases he : p.toExpr <;> rw [he] at hbinary <;> first | rfl | cases hbinary

def ReadsClause (d : Dialect) (keyword : String) : List Condition → String → Prop
  | [], s => s = ""
  | c :: cs, s =>
    ∃ t x, s = keyword ++ t ∧ d.condition? t = some x ∧ Reassociates x (Condition.all c cs)

theorem readsAs_joined (hd : d.QuotesPlainly) {text : Predicate → String} {p : Predicate}
    {ps : List Predicate}
    (h : ∀ q ∈ p :: ps, d.ReadsAs ReadsConjuncts (text q) (q.condition d)) :
    d.ReadsAs ReadsConjuncts (joined " AND " ((p :: ps).map text))
      (Condition.all (p.condition d) (ps.map fun q => q.condition d)) := by
  induction ps generalizing p with
  | nil => exact h p (List.mem_singleton_self p)
  | cons q ps ih =>
    obtain ⟨hp, hps⟩ := List.forall_mem_cons.1 h
    exact hp.and hd (ih hps)

theorem sql_conjunction (keyword : String) {ps : List Predicate} (hne : ps ≠ []) :
    (conjunction keyword (d.writePredicates (ps.map Predicate.toExpr))).sql d.placeholder =
      keyword ++ joined " AND " (ps.map fun p =>
        if isOr p.toExpr && ps.length > 1 then "(" ++ d.text p.toExpr ++ ")"
        else d.text p.toExpr) := by
  have hempty : (d.writePredicates (ps.map Predicate.toExpr)).isEmpty = false := by
    simp [writePredicates_eq, hne]
  rw [conjunction, hempty]
  simp only [Bool.false_eq_true, if_false, sql_append, sql_lit, sql_separated, writePredicates_eq,
    List.map_map, List.length_map, Function.comp_def, sql_parenthesizedIf]
  rfl

theorem IsBuiltIn.readsClause_conjunction (h : d.IsBuiltIn) (keyword : String) {ps : List Predicate}
    (hn : ∀ p ∈ ps, ∀ a ∈ p.operands, d.KeepsNames a.1) :
    d.ReadsClause keyword (ps.map fun p => p.condition d)
      ((conjunction keyword (d.writePredicates (ps.map Predicate.toExpr))).sql d.placeholder) := by
  have hd := h.quotesParts.plainly
  have hreads (p : Predicate) (hp : p ∈ ps) : d.Reads p :=
    reads h.quotesParts h.sealsNames.placeholder_eq (hn p hp)
  cases ps with
  | nil => rfl
  | cons p ps =>
    rw [sql_conjunction keyword (List.cons_ne_nil p ps)]
    suffices hall : d.ReadsAs ReadsDisjuncts _
        (Condition.all (p.condition d) (ps.map fun q => q.condition d)) by
      obtain ⟨x, hx, hsame⟩ := hall.condition?
      exact ⟨_, x, rfl, hx, hsame⟩
    cases ps with
    | nil =>
      have hsingle := (hreads p (List.mem_singleton_self p)).disjuncts
      simpa [joined, Condition.all] using hsingle
    | cons q ps =>
      refine (readsAs_joined hd fun p hp => ?_).disjuncts
      refine (hreads p hp).conjunct fun hor => ?_
      simp [hor]

theorem IsBuiltIn.readsClause_conjunction_bracketed :
    let column (n : String) : Term := ⟨.column (some "t") n, .column (some "t") n⟩
    let one : Term := ⟨.value (.int 1), .value (.int 1)⟩
    let parameter : Term := ⟨.bind (.int 2), .bind (.int 2)⟩
    let ps : List Predicate :=
      [.or (.test (.between (column "[a]]b]") one parameter false))
          (.test (.compare (column "c") .lt one)),
        .not (.test (.inList (column "c") [] true))]
    let text :=
      (conjunction " WHERE " (SqlServer.dialect.writePredicates (ps.map Predicate.toExpr))).sql "?"
    text = " WHERE ([t].[a]]b] BETWEEN 1 AND ? OR [t].[c] < 1) AND NOT 1=1" ∧
      SqlServer.dialect.ReadsClause " WHERE " (ps.map fun p => p.condition SqlServer.dialect) text := by
  have hplain : SqlServer.dialect.KeepsName "t" ∧ SqlServer.dialect.KeepsName "c" := by
    constructor <;> rintro - p hp hb <;> cases List.mem_singleton.1 hp <;> cases hb
  have hbracketed : SqlServer.dialect.KeepsName "[a]]b]" := by
    rintro - p hp -
    cases List.mem_singleton.1 hp
    exact ⟨"a]b", rfl⟩
  have hcolumn {n : String} (hn : SqlServer.dialect.KeepsName n) :
      SqlServer.dialect.KeepsNames (.column (some "t") n) :=
    Node.throughout_of_eq_nil rfl ⟨fun a ha => Option.some.inj ha ▸ hplain.1, hn⟩
  have hvalue (v : Value) : SqlServer.dialect.KeepsNames (.value v) :=
    Node.throughout_of_eq_nil rfl trivial
  have hbind (v : Value) : SqlServer.dialect.KeepsNames (.bind v) :=
    Node.throughout_of_eq_nil rfl trivial
  refine ⟨by decide +kernel, IsBuiltIn.readsClause_conjunction (.sqlServer .utc) " WHERE " ?_⟩
  simp only [Predicate.operands, Test.operands, List.cons_append, List.nil_append,
    List.forall_mem_cons, List.not_mem_nil, false_imp_iff, implies_true, and_true]
  exact ⟨⟨hcolumn hbracketed, hvalue _, hbind _, hcolumn hplain.2, hvalue _⟩, hcolumn hplain.2⟩

example : SqlServer.dialect.condition? "[a] = 1 OR [b] BETWEEN 1 AND 2 AND NOT [c] IS NULL" =
    some (.or (.test (.compare "[a]" .eq "1"))
      (.and (.test (.between "[b]" "1" "2" false)) (.not (.test (.isNull "[c]" false))))) := by
  rfl

end Dialect

end PolySql

import PolySql.Proofs.Arithmetic.Operand
import PolySql.Proofs.Text.Pieces

namespace PolySql

open Formula Number Text

namespace Dialect

variable {d : Dialect}

def QuotesPlainly (d : Dialect) : Prop :=
  (d.openingQuote = '"' ∧ d.closingQuote = '"') ∨ (d.openingQuote = '[' ∧ d.closingQuote = ']')

def IsQuoted (d : Dialect) (w : List Char) : Prop :=
  ∃ t, w = d.openingQuote :: t ∧
    ∀ u, d.isWordFrom .closed u = true → d.isWordFrom .inside (t ++ u) = true

theorem isQuoted_quoteBetween (hd : d.QuotesPlainly) (s : String) :
    d.IsQuoted (quoteBetween d.openingQuote d.closingQuote s).toList := by
  refine ⟨double d.closingQuote s.toList ++ [d.closingQuote], String.toList_ofList, fun u hu => ?_⟩
  have hclose : isBreak d.closingQuote = false := by
    rcases hd with ⟨-, h⟩ | ⟨-, h⟩ <;> rw [h] <;> rfl
  rw [List.append_assoc, List.singleton_append]
  induction s.toList with
  | nil =>
    rw [double, List.nil_append, isWordFrom, nextQuoting, if_pos rfl, hu]
    rfl
  | cons c t ih =>
    rw [double]
    split
    · simpa [isWordFrom, nextQuoting, hclose] using ih
    · rename_i hc
      simpa [isWordFrom, nextQuoting, hc] using ih

theorem IsQuoted.isWordFrom (hd : d.QuotesPlainly) {w u : List Char} (hw : d.IsQuoted w)
    (hu : d.isWordFrom .closed u = true) : d.isWordFrom .outside (w ++ u) = true := by
  obtain ⟨t, rfl, ht⟩ := hw
  have hopen : isBreak d.openingQuote = false := by
    rcases hd with ⟨h, -⟩ | ⟨h, -⟩ <;> rw [h] <;> rfl
  rw [List.cons_append, Dialect.isWordFrom, hopen, nextQuoting, if_pos rfl, ht u hu]
  rfl

theorem IsQuoted.dotted (hd : d.QuotesPlainly) {v w : List Char} (hv : d.IsQuoted v)
    (hw : d.IsQuoted w) : d.IsQuoted (v ++ '.' :: w) := by
  obtain ⟨t, rfl, ht⟩ := hv
  refine ⟨t ++ '.' :: w, rfl, fun u hu => ?_⟩
  have hdot : d.nextQuoting .closed '.' = .outside := by
    rcases hd with ⟨h, h'⟩ | ⟨h, h'⟩ <;> simp [nextQuoting, h, h']
  rw [List.append_assoc]
  refine ht _ ?_
  rw [List.cons_append, Dialect.isWordFrom, hdot, hw.isWordFrom hd hu]
  rfl

theorem IsQuoted.readsAsOperand (hd : d.QuotesPlainly) {w : String} (hw : d.IsQuoted w.toList) :
    d.ReadsAsOperand w ∧ readInt? w.toList = none := by
  have hword := hw.isWordFrom hd (u := []) rfl
  rw [List.append_nil] at hword
  obtain ⟨t, ht, -⟩ := hw
  have hplain : operator? w.toList = none ∧ readInt? w.toList = none := by
    rw [ht]
    rcases hd with ⟨h, -⟩ | ⟨h, -⟩ <;> rw [h] <;> constructor
    · cases t <;> rfl
    · simp [readInt?, readNat?]
    · cases t <;> rfl
    · simp [readInt?, readNat?]
  refine ⟨⟨hword, ?_⟩, hplain.2⟩
  rw [wordTokens, hplain.1, ht]
  show [Token.operand (String.ofList (d.openingQuote :: t))] = _
  rw [← ht, String.ofList_toList]

theorem isQuoted_quoteParts (hd : d.QuotesPlainly) {quote : String → String} {s : String}
    (h : ∀ p ∈ pieces '.' s.toList, d.IsQuoted (quote (String.ofList p)).toList) :
    d.IsQuoted (quoteParts quote s).toList := by
  unfold quoteParts
  have hne := pieces_ne_nil '.' s.toList
  generalize pieces '.' s.toList = ps at h hne
  induction ps with
  | nil => exact absurd rfl hne
  | cons p ps ih =>
    obtain ⟨hp, hps⟩ := List.forall_mem_cons.1 h
    cases ps with
    | nil => exact hp
    | cons p' ps =>
      have hdotted := hp.dotted hd (ih hps (List.cons_ne_nil _ _))
      simpa [joined, String.toList_append, List.append_assoc] using hdotted

theorem isQuoted_quoteName {zone : Calendar.Timezone} {collation n : String}
    (h : '[' ∉ n.toList ∧ ']' ∉ n.toList) :
    (SqlServer.dialectWith zone collation).IsQuoted (SqlServer.quoteName n).toList := by
  have hd : (SqlServer.dialectWith zone collation).QuotesPlainly := .inr ⟨rfl, rfl⟩
  refine isQuoted_quoteParts hd fun p hp => ?_
  rw [quoteIdentifier_of_not_mem (not_mem_piece h hp).1]
  exact isQuoted_quoteBetween hd _

structure QuotesNames (d : Dialect) : Prop where
  plainly : d.QuotesPlainly
  literals : d.HasStandardLiterals
  quoteColumn {n : String} : d.AcceptsName n → n ≠ "*" → d.IsQuoted (d.quoteColumn n).toList
  quoteTable {n : String} : d.AcceptsName n → d.IsQuoted (d.quoteTable n).toList

theorem quoteUnlessStar_of_ne {quote : String → String} {n : String} (h : n ≠ "*") :
    quoteUnlessStar quote n = quote n := by
  rw [quoteUnlessStar, beq_eq_false_iff_ne.2 h]
  rfl

theorem quotesNames_of_doubleQuotes (hliterals : d.HasStandardLiterals)
    (hopening : d.openingQuote = '"') (hclosing : d.closingQuote = '"')
    (hcolumn : d.quoteColumn = quoteUnlessStar (quoteBetween '"' '"'))
    (htable : d.quoteTable = quoteParts (quoteBetween '"' '"')) : d.QuotesNames := by
  have hd : d.QuotesPlainly := .inl ⟨hopening, hclosing⟩
  have hquoted (s : String) : d.IsQuoted (quoteBetween '"' '"' s).toList := by
    have h := isQuoted_quoteBetween hd s
    rwa [hopening, hclosing] at h
  refine ⟨hd, hliterals, fun _ hn => ?_, fun _ => ?_⟩
  · rw [hcolumn, quoteUnlessStar_of_ne hn]
    exact hquoted _
  · rw [htable]
    exact isQuoted_quoteParts hd fun p _ => hquoted _

theorem IsBuiltIn.quotesNames (h : d.IsBuiltIn) : d.QuotesNames := by
  cases h with
  | sqlServer zone =>
    refine ⟨.inr ⟨rfl, rfl⟩, ⟨rfl, rfl⟩, fun hn hstar => ?_, fun hn => isQuoted_quoteName (hn rfl)⟩
    show Dialect.IsQuoted _ (quoteUnlessStar SqlServer.quoteName _).toList
    rw [quoteUnlessStar_of_ne hstar]
    exact isQuoted_quoteName (hn rfl)
  | _ => exact quotesNames_of_doubleQuotes ⟨rfl, rfl⟩ rfl rfl rfl rfl

theorem QuotesNames.readsFormulas (h : d.QuotesNames) : d.ReadsFormulas :=
  readsFormulas_of_quote h.literals (h.plainly.imp And.left And.left)

theorem QuotesNames.isLegible_column (h : d.QuotesNames) {table : Option String} {name : String}
    (ht : ∀ a ∈ table, d.AcceptsName a) (hn : d.AcceptsName name) (hstar : name ≠ "*") :
    (Operand.column table name).IsLegible d := by
  refine IsQuoted.readsAsOperand h.plainly ?_
  have hcolumn := h.quoteColumn hn hstar
  cases table with
  | none => exact (congrArg (d.IsQuoted ·.toList) String.empty_append).mpr hcolumn
  | some a =>
    have hdotted := (h.quoteTable (ht a rfl)).dotted h.plainly hcolumn
    simpa [Operand.text, String.toList_append] using hdotted

end Dialect

theorem not_mem_intText {c : Char} (hdigit : c.isDigit = false) (hminus : c ≠ '-') (n : Int) :
    c ∉ (intText n).toList := by
  intro h
  rcases isDigit_or_of_mem_intText h with hd | hd
  · rw [hd] at hdigit
    cases hdigit
  · exact hminus hd

theorem intText_ne_star (n : Int) : intText n ≠ "*" := by
  intro h
  have hstar : '*' ∈ (intText n).toList := by
    rw [h]
    decide
  exact not_mem_intText rfl (by decide) n hstar

namespace Dialect

variable {d : Dialect}

theorem quoteBetween_intText {opening closing : Char} (hdigit : closing.isDigit = false)
    (hminus : closing ≠ '-') (n : Int) :
    quoteBetween opening closing (intText n) =
      String.ofList (opening :: ((intText n).toList ++ [closing])) := by
  rw [quoteBetween, double_of_not_mem (not_mem_intText hdigit hminus n)]

theorem acceptsName_intText (n : Int) : d.AcceptsName (intText n) := fun _ =>
  ⟨not_mem_intText rfl (by decide) n, not_mem_intText rfl (by decide) n⟩

theorem quoteName_intText (n : Int) :
    SqlServer.quoteName (intText n) = String.ofList ('[' :: ((intText n).toList ++ [']'])) := by
  have hname := acceptsName_intText (d := SqlServer.dialect) n rfl
  rw [SqlServer.quoteName, quoteParts, pieces_of_not_mem (not_mem_intText rfl (by decide) n)]
  show SqlServer.quoteIdentifier (String.ofList (intText n).toList) = _
  rw [String.ofList_toList, quoteIdentifier_of_not_mem hname.1]
  exact quoteBetween_intText rfl (by decide) n

theorem IsBuiltIn.quoteColumn_intText (h : d.IsBuiltIn) (n : Int) :
    d.quoteColumn (intText n) =
      String.ofList (d.openingQuote :: ((intText n).toList ++ [d.closingQuote])) := by
  have hdouble : quoteUnlessStar (quoteBetween '"' '"') (intText n) =
      String.ofList ('"' :: ((intText n).toList ++ ['"'])) :=
    (quoteUnlessStar_of_ne (intText_ne_star n)).trans (quoteBetween_intText rfl (by decide) n)
  cases h with
  | sqlServer zone =>
    exact (quoteUnlessStar_of_ne (intText_ne_star n)).trans (quoteName_intText n)
  | _ => exact hdouble

end Dialect

namespace Operand

variable {d : Dialect}

def numbered (n : Int) : Operand :=
  column none (intText n)

theorem isLegible_numbered (h : d.IsBuiltIn) (n : Int) : (numbered n).IsLegible d :=
  h.quotesNames.isLegible_column (by rintro a ⟨⟩) (Dialect.acceptsName_intText n) (intText_ne_star n)

theorem text_numbered_injective (h : d.IsBuiltIn) {m n : Int}
    (heq : (numbered m).text d = (numbered n).text d) : m = n := by
  have hquoted : d.quoteColumn (intText m) = d.quoteColumn (intText n) := by
    simpa [numbered, text] using heq
  rw [h.quoteColumn_intText, h.quoteColumn_intText, String.ofList_inj] at hquoted
  have hchars := List.append_cancel_right (List.cons.inj hquoted).2
  exact intText_injective (String.toList_inj.1 hchars)

theorem exists_value_numbered (h : d.IsBuiltIn) :
    ∃ columns : String → Int, ∀ n, (numbered n).value d columns = n := by
  have hone (s : String) : ∃ m : Int, ∀ n, (numbered n).text d = s → m = n := by
    by_cases hs : ∃ m, (numbered m).text d = s
    · obtain ⟨m, rfl⟩ := hs
      exact ⟨m, fun n hn => text_numbered_injective h hn.symm⟩
    · exact ⟨0, fun n hn => absurd ⟨n, hn⟩ hs⟩
  obtain ⟨columns, hcolumns⟩ := Classical.skolem.1 hone
  exact ⟨columns, fun n => hcolumns _ n rfl⟩

end Operand

end PolySql

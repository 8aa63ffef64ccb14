import PolySql.Proofs.Condition.Operand

namespace PolySql

open Condition Text

namespace Dialect

def isNameChar (c : Char) : Bool :=
  Text.isWordChar c || ['$', '#', '@'].contains c

variable {d : Dialect} {v : String}

inductive IsNamePart (d : Dialect) : String → Prop
  | star : d.IsNamePart "*"
  | quoted (s : String) : d.IsNamePart (quoteBetween d.openingQuote d.closingQuote s)
  | word {v : String} : v ≠ "" → v.toList.all isNameChar = true → d.IsNamePart v

structure IsName (d : Dialect) (v : String) : Prop where
  reserved?_eq : reserved? v = none
  parts : ∃ ps, ps ≠ [] ∧ v = joined "." ps ∧ ∀ p ∈ ps, d.IsNamePart p

theorem IsNamePart.spans (hd : d.QuotesPlainly) (h : d.IsNamePart v) {depth : Nat} {w : List Char} :
    d.Spans depth depth w v.toList := by
  cases h with
  | star => exact spans_of_isBare hd rfl
  | quoted s =>
    rw [quoteBetween, String.toList_ofList]
    rcases hd with ⟨hopen, hclose⟩ | ⟨hopen, hclose⟩ <;>
      exact spans_quoted (by simp [closing?, hopen]) (by rw [hopen]; rfl) (by simp [hclose]) _
  | word hne hall =>
    exact spans_of_isBare hd (List.all_eq_true.2 fun c hc =>
      isBare_of_all (List.all_eq_true.1 hall c hc) (by decide))

theorem IsNamePart.ne_empty (h : d.IsNamePart v) : v ≠ "" := by
  cases h with
  | star => decide
  | quoted s =>
    intro h
    simpa [quoteBetween] using congrArg String.toList h
  | word hne => exact hne

theorem spans_joined_parts (hd : d.QuotesPlainly) {ps : List String} (h : ∀ p ∈ ps, d.IsNamePart p)
    {depth : Nat} {w : List Char} : d.Spans depth depth w (joined "." ps).toList := by
  induction ps generalizing w with
  | nil => exact spans_nil depth w
  | cons p ps ih =>
    obtain ⟨hp, hps⟩ := List.forall_mem_cons.1 h
    cases ps with
    | nil => exact hp.spans hd
    | cons p' ps =>
      have htext : (joined "." (p :: p' :: ps)).toList =
          p.toList ++ '.' :: (joined "." (p' :: ps)).toList := by
        simp [joined]
      rw [htext]
      exact (hp.spans hd).separated hd rfl (endsAt_of_not_isDivider rfl) (ih hps)

theorem IsName.isOperand (hd : d.QuotesPlainly) (h : d.IsName v) : d.IsOperand v := by
  obtain ⟨hr, ps, hne, rfl, hps⟩ := h
  refine ⟨hr, fun hempty => ?_, fun _ => spans_joined_parts hd hps⟩
  cases ps with
  | nil => exact hne rfl
  | cons p ps =>
    refine (hps p (List.mem_cons_self ..)).ne_empty ?_
    cases ps with
    | nil => exact hempty
    | cons p' ps => simp [joined] at hempty

def IsQuotedName (d : Dialect) (v : String) : Prop :=
  ∃ ps, ps ≠ [] ∧ v = joined "." ps ∧ ∀ p ∈ ps, ∃ s, p = quoteBetween d.openingQuote d.closingQuote s

def KeepsName (d : Dialect) (name : String) : Prop :=
  d.name = "mssql" → ∀ p ∈ pieces '.' name.toList, SqlServer.isBracketed p = true →
    ∃ s, String.ofList p = quoteBetween '[' ']' s

theorem joined_append {sep : String} {ps qs : List String} (hps : ps ≠ []) (hqs : qs ≠ []) :
    joined sep (ps ++ qs) = joined sep ps ++ sep ++ joined sep qs := by
  induction ps with
  | nil => exact absurd rfl hps
  | cons p ps ih =>
    cases ps with
    | nil =>
      cases qs with
      | nil => exact absurd rfl hqs
      | cons q qs => rfl
    | cons p' ps =>
      rw [List.cons_append, List.cons_append, joined_cons_cons, ← List.cons_append,
        ih (List.cons_ne_nil _ _), joined_cons_cons]
      simp only [String.append_assoc]

theorem mem_joined {sep p : String} {ps : List String} (hp : p ∈ ps) {c : Char}
    (hc : c ∈ p.toList) : c ∈ (joined sep ps).toList := by
  induction ps with
  | nil => cases hp
  | cons q ps ih =>
    cases ps with
    | nil => exact List.mem_singleton.1 hp ▸ hc
    | cons q' ps =>
      rw [joined_cons_cons, String.toList_append, String.toList_append]
      rcases List.mem_cons.1 hp with rfl | hp
      · exact List.mem_append_left _ (List.mem_append_left _ hc)
      · exact List.mem_append_right _ (ih hp)

theorem isName_of_mem (hd : d.QuotesPlainly) {ps : List String} (h : ∀ p ∈ ps, d.IsNamePart p)
    {s : String} (hs : quoteBetween d.openingQuote d.closingQuote s ∈ ps) :
    d.IsName (joined "." ps) := by
  have hopening : d.openingQuote ∈ (quoteBetween d.openingQuote d.closingQuote s).toList := by
    simp [quoteBetween]
  refine ⟨reserved?_of_mem (mem_joined hs hopening) ?_, ps, List.ne_nil_of_mem hs, rfl, h⟩
  rcases hd with ⟨hd, -⟩ | ⟨hd, -⟩ <;> rw [hd] <;> decide

theorem isQuotedName_quoteParts {quote : String → String} {n : String}
    (h : ∀ p ∈ pieces '.' n.toList,
      ∃ s, quote (String.ofList p) = quoteBetween d.openingQuote d.closingQuote s) :
    d.IsQuotedName (quoteParts quote n) := by
  refine ⟨_, mt List.map_eq_nil_iff.1 (pieces_ne_nil '.' n.toList), rfl, ?_⟩
  exact List.forall_mem_map.2 h

theorem isQuotedName_quoteBetween (s : String) :
    d.IsQuotedName (quoteBetween d.openingQuote d.closingQuote s) :=
  ⟨[_], List.cons_ne_nil _ _, rfl, List.forall_mem_singleton.2 ⟨s, rfl⟩⟩

theorem isNamePart_of_quoted {p : String}
    (h : ∃ s, p = quoteBetween d.openingQuote d.closingQuote s) : d.IsNamePart p := by
  obtain ⟨s, rfl⟩ := h
  exact .quoted s

theorem IsQuotedName.isName (hd : d.QuotesPlainly) (h : d.IsQuotedName v) : d.IsName v := by
  obtain ⟨ps, hne, rfl, hps⟩ := h
  obtain ⟨p, hp⟩ := List.exists_mem_of_ne_nil ps hne
  obtain ⟨s, rfl⟩ := hps p hp
  exact isName_of_mem hd (fun p hp => isNamePart_of_quoted (hps p hp)) hp

theorem IsQuotedName.dotted (hd : d.QuotesPlainly) (h : d.IsQuotedName v) {qs : List String}
    (hne : qs ≠ []) (hqs : ∀ q ∈ qs, d.IsNamePart q) : d.IsName (v ++ "." ++ joined "." qs) := by
  obtain ⟨ps, hne', rfl, hps⟩ := h
  obtain ⟨p, hp⟩ := List.exists_mem_of_ne_nil ps hne'
  obtain ⟨s, rfl⟩ := hps p hp
  rw [← joined_append hne' hne]
  refine isName_of_mem hd (List.forall_mem_append.2 ⟨fun p hp => ?_, hqs⟩) (List.mem_append_left _ hp)
  exact isNamePart_of_quoted (hps p hp)

structure QuotesParts (d : Dialect) : Prop where
  plainly : d.QuotesPlainly
  literals : d.HasStandardLiterals
  quoteColumn_star : d.quoteColumn "*" = "*"
  quoteColumn {n : String} : d.KeepsName n → n ≠ "*" → d.IsQuotedName (d.quoteColumn n)
  quoteTable {n : String} : d.KeepsName n → d.IsQuotedName (d.quoteTable n)

theorem QuotesParts.isName_column (h : d.QuotesParts) {table : Option String} {name : String}
    (ht : ∀ a ∈ table, d.KeepsName a) (hn : d.KeepsName name) :
    d.IsName (table.elim "" (fun a => d.quoteTable a ++ ".") ++ d.quoteColumn name) := by
  by_cases hstar : name = "*"
  · rw [hstar, h.quoteColumn_star]
    have hpart : ∀ q ∈ ["*"], d.IsNamePart q := List.forall_mem_singleton.2 .star
    cases table with
    | none =>
      show d.IsName "*"
      exact ⟨rfl, ["*"], List.cons_ne_nil _ _, rfl, hpart⟩
    | some a => exact (h.quoteTable (ht a rfl)).dotted h.plainly (List.cons_ne_nil _ _) hpart
  · have hquoted := h.quoteColumn hn hstar
    cases table with
    | none =>
      show d.IsName ("" ++ d.quoteColumn name)
      rw [String.empty_append]
      exact hquoted.isName h.plainly
    | some a =>
      obtain ⟨qs, hne, hqs, hparts⟩ := hquoted
      show d.IsName (d.quoteTable a ++ "." ++ d.quoteColumn name)
      rw [hqs]
      exact (h.quoteTable (ht a rfl)).dotted h.plainly hne fun q hq =>
        isNamePart_of_quoted (hparts q hq)

theorem quotesParts_of_doubleQuotes (hliterals : d.HasStandardLiterals)
    (hopening : d.openingQuote = '"') (hclosing : d.closingQuote = '"')
    (hcolumn : d.quoteColumn = quoteUnlessStar (quoteBetween '"' '"'))
    (htable : d.quoteTable = quoteParts (quoteBetween '"' '"')) : d.QuotesParts where
  plainly := .inl ⟨hopening, hclosing⟩
  literals := hliterals
  quoteColumn_star := by rw [hcolumn]; rfl
  quoteColumn {n} _ hn := by
    have hquoted := isQuotedName_quoteBetween (d := d) n
    rw [hopening, hclosing] at hquoted
    rwa [hcolumn, quoteUnlessStar_of_ne hn]
  quoteTable {n} _ := by
    rw [htable]
    exact isQuotedName_quoteParts fun p _ => ⟨String.ofList p, by rw [hopening, hclosing]⟩

theorem KeepsName.exists_quoteIdentifier_eq {n : String} (hn : d.KeepsName n)
    (hname : d.name = "mssql") {p : List Char} (hp : p ∈ pieces '.' n.toList) :
    ∃ s, SqlServer.quoteIdentifier (String.ofList p) = quoteBetween '[' ']' s := by
  unfold SqlServer.quoteIdentifier
  split
  · rename_i hb
    rw [String.toList_ofList] at hb
    exact hn hname p hp hb
  · exact ⟨_, rfl⟩

theorem IsBuiltIn.quotesParts (h : d.IsBuiltIn) : d.QuotesParts := by
  cases h with
  | sqlServer zone =>
    refine ⟨.inr ⟨rfl, rfl⟩, ⟨rfl, rfl⟩, rfl, fun hn hstar => ?_, fun hn => ?_⟩
    · show Dialect.IsQuotedName _ (quoteUnlessStar SqlServer.quoteName _)
      rw [quoteUnlessStar_of_ne hstar]
      exact isQuotedName_quoteParts fun p hp => hn.exists_quoteIdentifier_eq rfl hp
    · exact isQuotedName_quoteParts fun p hp => hn.exists_quoteIdentifier_eq rfl hp
  | _ => exact quotesParts_of_doubleQuotes ⟨rfl, rfl⟩ rfl rfl rfl rfl

end Dialect

end PolySql

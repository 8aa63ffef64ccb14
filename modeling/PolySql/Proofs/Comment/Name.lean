import PolySql.Proofs.Condition.Predicate
import PolySql.Proofs.Text.Comment
import PolySql.Proofs.Write.Congruence

namespace PolySql

open Emission Text

namespace Dialect

variable {d : Dialect} {v n : String}

def KeepsLabel (d : Dialect) (name : String) : Prop :=
  d.name = "mssql" → SqlServer.isBracketed name.toList = true → d.IsQuotedName name

structure QuotesLabels (d : Dialect) : Prop extends d.QuotesParts where
  placeholder_eq : d.placeholder = "?"
  quoteIdentifier {n : String} : d.KeepsLabel n → d.IsQuotedName (d.quoteIdentifier n)
  concat : isTame d.concatOperator = true
  collation : ∀ s ∈ d.caseSensitiveCollation, isTame s = true

theorem quotesLabels_of_doubleQuotes (hparts : d.QuotesParts) (hplaceholder : d.placeholder = "?")
    (hidentifier : d.quoteIdentifier = quoteBetween d.openingQuote d.closingQuote)
    (hconcat : isTame d.concatOperator = true)
    (hcollation : ∀ s ∈ d.caseSensitiveCollation, isTame s = true) : d.QuotesLabels :=
  { hparts with
    placeholder_eq := hplaceholder
    quoteIdentifier := fun _ => hidentifier ▸ isQuotedName_quoteBetween _
    concat := hconcat
    collation := hcollation }

theorem IsBuiltIn.quotesLabels (h : d.IsBuiltIn) : d.QuotesLabels := by
  have hparts := h.quotesParts
  cases h with
  | generic => exact quotesLabels_of_doubleQuotes hparts rfl rfl rfl (by rintro s ⟨⟩)
  | postgres => exact quotesLabels_of_doubleQuotes hparts rfl rfl rfl (by rintro s ⟨⟩)
  | sqlite => exact quotesLabels_of_doubleQuotes hparts rfl rfl rfl (by rintro s ⟨⟩; rfl)
  | db2 => exact quotesLabels_of_doubleQuotes hparts rfl rfl rfl (by rintro s ⟨⟩)
  | sqlServer zone =>
    refine { hparts with
      placeholder_eq := rfl
      quoteIdentifier := fun {n} hn => ?_
      concat := show isTame "+" = true from rfl
      collation := by rintro s ⟨⟩; rfl }
    show Dialect.IsQuotedName _ (SqlServer.quoteIdentifier n)
    unfold SqlServer.quoteIdentifier
    split
    · exact hn rfl ‹_›
    · exact isQuotedName_quoteBetween n

theorem IsQuotedName.isUncommented (hd : d.QuotesPlainly) (h : d.IsQuotedName v) :
    IsUncommented v := by
  obtain ⟨ps, -, rfl, hps⟩ := h
  refine isUncommented_joined (isUncommented_of_isTame rfl) fun p hp => ?_
  obtain ⟨s, rfl⟩ := hps p hp
  refine isUncommented_quoteBetween ?_ s
  rcases hd with ⟨hopening, hclosing⟩ | ⟨hopening, hclosing⟩ <;> rw [hopening, hclosing] <;> rfl

theorem IsQuotedName.exists_eq (h : d.IsQuotedName v) : ∃ t, v.toList = d.openingQuote :: t := by
  obtain ⟨ps, hne, rfl, hps⟩ := h
  cases ps with
  | nil => exact absurd rfl hne
  | cons p ps =>
    obtain ⟨s, rfl⟩ := hps p (List.mem_cons_self ..)
    cases ps with
    | nil => exact ⟨_, String.toList_ofList⟩
    | cons p' ps =>
      rw [joined_cons_cons, String.toList_append, String.toList_append, quoteBetween,
        String.toList_ofList]
      exact ⟨_, rfl⟩

end Dialect

namespace Node

def IsContained (d : Dialect) : Node → Prop
  | .expr (.raw text binds) => text = Select.topOne ∧ ∃ n, binds = [.int n]
  | .expr (.function n _ _) => IsUncommented n
  | .expr (.column t n) => (∀ a ∈ t, d.KeepsName a) ∧ d.KeepsName n
  | .expr (.wildcard t) => ∀ a ∈ t, d.KeepsName a
  | .expr _ => True
  | .table (.table schema n label) =>
    (∀ a ∈ schema, d.KeepsName a) ∧ d.KeepsName n ∧ ∀ a ∈ label, d.KeepsName a ∧ d.KeepsLabel a
  | .table (.derived _ label) => d.KeepsLabel label
  | .table (.raw _) => False
  | .select s =>
    (∀ p ∈ s.projections, ∀ a ∈ p.label, d.KeepsName a) ∧ ∀ k ∈ s.lock, IsUncommented k.text

end Node

namespace Dialect

variable {d : Dialect} {catalog : Catalog}

theorem keepsName_of_not_mem {n : String} (h : '[' ∉ n.toList) : d.KeepsName n := by
  intro _ p hp hb
  rw [isBracketed_of_not_mem fun hc => h (mem_of_mem_pieces hp hc)] at hb
  cases hb

theorem KeepsName.qualified {schema name : String} (hs : d.KeepsName schema)
    (hn : d.KeepsName name) : d.KeepsName (schema ++ "." ++ name) := by
  intro hname p hp
  have hsplit : (schema ++ "." ++ name).toList = schema.toList ++ '.' :: name.toList := by
    simp [String.toList_append]
  rw [hsplit, pieces_append, List.mem_append] at hp
  exact hp.elim (hs hname p) (hn hname p)

namespace QuotesLabels

variable (hd : d.QuotesLabels) {n : String}
include hd

theorem isUncommented_column (hn : d.KeepsName n) : IsUncommented (d.quoteColumn n) := by
  by_cases hstar : n = "*"
  · rw [hstar, hd.quoteColumn_star]
    exact isUncommented_of_isTame rfl
  · exact (hd.quoteColumn hn hstar).isUncommented hd.plainly

theorem isUncommented_table (hn : d.KeepsName n) : IsUncommented (d.quoteTable n) :=
  (hd.quoteTable hn).isUncommented hd.plainly

theorem isUncommented_label (hn : d.KeepsLabel n) : IsUncommented (d.quoteIdentifier n) :=
  (hd.quoteIdentifier hn).isUncommented hd.plainly

theorem isUncommented_qualified {schema : Option String} (hs : ∀ a ∈ schema, d.KeepsName a)
    (hn : d.KeepsName n) : IsUncommented (d.quoteQualified schema n) := by
  cases schema with
  | none => exact hd.isUncommented_table hn
  | some a => exact hd.isUncommented_table ((hs a rfl).qualified hn)

end QuotesLabels

def KeepsKeys (d : Dialect) (catalog : Catalog) : Prop :=
  ∀ table, ∀ column ∈ catalog.orderingColumn? table, d.KeepsName column

end Dialect

theorem Node.IsContained.namesIn {d : Dialect} {n : Node} (hd : d.QuotesLabels)
    (h : n.IsContained d) : n.NamesIn d IsUncommented := by
  cases n with
  | expr e =>
    cases e with
    | function f as dist => exact h
    | _ => trivial
  | table t =>
    cases t with
    | table schema n label =>
      obtain ⟨hs, hn, hl⟩ := h
      exact ⟨hd.isUncommented_qualified hs hn, fun a ha => hd.isUncommented_label (hl a ha).2⟩
    | derived q label => exact hd.isUncommented_label h
    | raw text => exact h.elim
  | select s => exact ⟨fun p hp a ha => hd.isUncommented_column (h.1 p hp a ha), h.2⟩

end PolySql

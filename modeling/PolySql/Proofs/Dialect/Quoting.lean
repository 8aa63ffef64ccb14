import PolySql.Dialect.Generic
import PolySql.Proofs.Text.Cut
import PolySql.Proofs.Text.Pieces

namespace PolySql

open Text

namespace Text

def readBetween? (opening closing : Char) (text : String) : Option String :=
  (between? [opening] [closing] text.toList).map fun name => String.ofList (undouble closing name)

theorem readBetween?_quoteBetween (opening closing : Char) (name : String) :
    readBetween? opening closing (quoteBetween opening closing name) = some name := by
  have hinside : between? [opening] [closing] (quoteBetween opening closing name).toList =
      some (double closing name.toList) := by
    rw [between?_eq_some_iff, quoteBetween, String.toList_ofList]
    rfl
  rw [readBetween?, hinside, Option.map_some, undouble_double, String.ofList_toList]

theorem quoteBetween_injective (opening closing : Char) :
    Function.Injective (quoteBetween opening closing) := by
  intro m n h
  have hread := readBetween?_quoteBetween opening closing m
  rw [h, readBetween?_quoteBetween] at hread
  exact (Option.some.inj hread).symm

theorem flatMap_inj_of_length {α β : Type} {f : α → List β} {k : Nat}
    (hf : Function.Injective f) {as bs : List α} (has : ∀ a ∈ as, (f a).length = k + 1)
    (hbs : ∀ b ∈ bs, (f b).length = k + 1) (h : as.flatMap f = bs.flatMap f) : as = bs := by
  induction as generalizing bs with
  | nil =>
    cases bs with
    | nil => rfl
    | cons b bs =>
      have hb := hbs b (List.mem_cons_self ..)
      rw [List.flatMap_nil, List.flatMap_cons, eq_comm, List.append_eq_nil_iff] at h
      rw [h.1] at hb
      cases hb
  | cons a as ih =>
    obtain ⟨ha, has⟩ := List.forall_mem_cons.1 has
    cases bs with
    | nil =>
      rw [List.flatMap_nil, List.flatMap_cons, List.append_eq_nil_iff] at h
      rw [h.1] at ha
      cases ha
    | cons b bs =>
      obtain ⟨hb, hbs⟩ := List.forall_mem_cons.1 hbs
      obtain ⟨hhead, hrest⟩ := List.append_inj h (ha.trans hb.symm)
      rw [hf hhead, ih has hbs hrest]

theorem pieces_quoteParts (quote : String → String) (name : String) :
    pieces '.' (quoteParts quote name).toList =
      (pieces '.' name.toList).flatMap fun p => pieces '.' (quote (String.ofList p)).toList := by
  have hne : (pieces '.' name.toList).map (fun p => quote (String.ofList p)) ≠ [] :=
    mt List.map_eq_nil_iff.1 (pieces_ne_nil '.' name.toList)
  exact (pieces_joined_eq_flatMap hne).trans (List.flatMap_map ..)

theorem quoteParts_injective {quote : String → String} {k : Nat} (hquote : Function.Injective quote)
    (hdots : ∀ p, '.' ∉ p → (quote (String.ofList p)).toList.count '.' = k) :
    Function.Injective (quoteParts quote) := by
  have hpart : Function.Injective fun p => pieces '.' (quote (String.ofList p)).toList := fun p q h =>
    String.ofList_injective (hquote (String.toList_injective (pieces_injective '.' h)))
  have hlength {name : String} : ∀ p ∈ pieces '.' name.toList,
      (pieces '.' (quote (String.ofList p)).toList).length = k + 1 := fun p hp => by
    rw [length_pieces, hdots p (not_mem_of_mem_pieces hp)]
  intro m n h
  -- with k dots in each part, k + 1 pieces of the text belong to one part
  have hpieces := congrArg (fun s => pieces '.' s.toList) h
  simp only [pieces_quoteParts] at hpieces
  have hparts := flatMap_inj_of_length hpart hlength hlength hpieces
  exact String.toList_injective (pieces_injective '.' hparts)

theorem count_quoteBetween (opening closing : Char) {p : List Char} (hp : '.' ∉ p) :
    (quoteBetween opening closing (String.ofList p)).toList.count '.' =
      [opening, closing].count '.' := by
  -- a closing quote that is a dot is not doubled, as the part has none
  have hinside : (double closing p).count '.' = 0 := List.count_eq_zero.2 (mt mem_double.1 hp)
  rw [quoteBetween, String.toList_ofList, String.toList_ofList, List.count_cons, List.count_append,
    hinside, Nat.zero_add, ← List.count_cons]

end Text

namespace Dialect

variable {d : Dialect}

structure QuotesByDefault (d : Dialect) : Prop where
  quoteIdentifier_eq : d.quoteIdentifier = quoteBetween d.openingQuote d.closingQuote
  quoteTable_eq : d.quoteTable = quoteParts d.quoteIdentifier

theorem quotesByDefault_of_quotes (name : String) (capabilities : Capabilities) (opening closing : Char)
    (nativeTypes : NativeTypes) (typeMap : TypeMap) (classifier : Classifier) :
    QuotesByDefault { name, capabilities, nativeTypes, typeMap, classifier,
                      openingQuote := opening, closingQuote := closing } :=
  ⟨rfl, rfl⟩

namespace QuotesByDefault

theorem quoteIdentifier_injective (h : d.QuotesByDefault) : Function.Injective d.quoteIdentifier := by
  rw [h.quoteIdentifier_eq]
  exact quoteBetween_injective d.openingQuote d.closingQuote

theorem quoteTable_injective (h : d.QuotesByDefault) : Function.Injective d.quoteTable := by
  have hdots (p : List Char) (hp : '.' ∉ p) : (d.quoteIdentifier (String.ofList p)).toList.count '.' =
      [d.openingQuote, d.closingQuote].count '.' := by
    rw [h.quoteIdentifier_eq]
    exact count_quoteBetween d.openingQuote d.closingQuote hp
  rw [h.quoteTable_eq]
  exact quoteParts_injective h.quoteIdentifier_injective hdots

theorem readBetween?_quoteIdentifier (h : d.QuotesByDefault) (name : String) :
    readBetween? d.openingQuote d.closingQuote (d.quoteIdentifier name) = some name := by
  rw [h.quoteIdentifier_eq]
  exact readBetween?_quoteBetween d.openingQuote d.closingQuote name

theorem tells_names_apart (h : d.QuotesByDefault) :
    Function.Injective d.quoteIdentifier ∧ Function.Injective d.quoteTable ∧
      ∀ name, readBetween? d.openingQuote d.closingQuote (d.quoteIdentifier name) = some name :=
  ⟨h.quoteIdentifier_injective, h.quoteTable_injective, h.readBetween?_quoteIdentifier⟩

theorem tells_names_apart_brackets :
    let d : Dialect := { name := "brackets", capabilities := .ansi, openingQuote := '[',
                         closingQuote := ']', nativeTypes := Generic.nativeTypes,
                         typeMap := Generic.typeMap, classifier := Classifier.generic }
    d.QuotesByDefault ∧ d.quoteTable "a].[b" = "[a]]].[[b]" ∧
      d.quoteTable "a].[b" ≠ d.quoteTable "a.b" ∧
      readBetween? '[' ']' (d.quoteIdentifier "a]].[b") = some "a]].[b" := by
  intro d
  have hquotes : d.QuotesByDefault := quotesByDefault_of_quotes ..
  obtain ⟨-, htables, hread⟩ := hquotes.tells_names_apart
  exact ⟨hquotes, by decide, fun h => absurd (htables h) (by decide), hread "a]].[b"⟩

end QuotesByDefault

end Dialect

end PolySql

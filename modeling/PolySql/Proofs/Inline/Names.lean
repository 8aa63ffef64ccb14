import PolySql.Dialect.Db2
import PolySql.Dialect.Generic
import PolySql.Dialect.Postgres
import PolySql.Dialect.Sqlite
import PolySql.Proofs.Inline.Settle
import PolySql.Proofs.Settle.Kept
import PolySql.Proofs.Text.Literal
import PolySql.Proofs.Write.Congruence
import PolySql.SqlServer.Dialect

namespace PolySql

open Text

namespace Dialect

inductive IsBuiltIn : Dialect → Prop
  | generic : IsBuiltIn Generic.dialect
  | postgres : IsBuiltIn Postgres.dialect
  | sqlite : IsBuiltIn Sqlite.dialect
  | db2 : IsBuiltIn Db2.dialect
  | sqlServer (zone : Calendar.Timezone) :
    IsBuiltIn (SqlServer.dialectWith zone SqlServer.caseSensitiveCollation)

def AcceptsName (d : Dialect) (name : String) : Prop :=
  d.name = "mssql" → '[' ∉ name.toList ∧ ']' ∉ name.toList

structure SealsNames (d : Dialect) : Prop where
  literals : d.HasStandardLiterals
  placeholder_eq : d.placeholder = "?"
  texts : d.Texts Text.IsSealed
  quoteIdentifier {n : String} : d.AcceptsName n → IsSealed (d.quoteIdentifier n)
  quoteColumn {n : String} : d.AcceptsName n → IsSealed (d.quoteColumn n)
  quoteTable {n : String} : d.AcceptsName n → IsSealed (d.quoteTable n)
  name_eq : d.capabilities.topExistsCheck = true ∨ d.capabilities.distinctOrderProjections = true →
    d.name = "mssql"

theorem isSealed_quoteUnlessStar {quote : String → String} {n : String} (h : IsSealed (quote n)) :
    IsSealed (quoteUnlessStar quote n) := by
  unfold quoteUnlessStar
  split
  · exact isSealed_of_isPlain rfl
  · exact h

theorem isBracketed_of_not_mem {t : List Char} (h : '[' ∉ t) : SqlServer.isBracketed t = false := by
  unfold SqlServer.isBracketed between? dropPrefix?
  cases t with
  | nil => rfl
  | cons c t =>
    have hc : ('[' == c) = false := beq_eq_false_iff_ne.2 fun heq => h (heq ▸ List.mem_cons_self ..)
    simp [dropPrefixBy?, hc]

theorem quoteIdentifier_of_not_mem {n : String} (h : '[' ∉ n.toList) :
    SqlServer.quoteIdentifier n = quoteBetween '[' ']' n := by
  unfold SqlServer.quoteIdentifier
  rw [isBracketed_of_not_mem h]
  rfl

theorem not_mem_piece {n : String} (h : '[' ∉ n.toList ∧ ']' ∉ n.toList) {p : List Char}
    (hp : p ∈ pieces '.' n.toList) :
    '[' ∉ (String.ofList p).toList ∧ ']' ∉ (String.ofList p).toList := by
  rw [String.toList_ofList]
  exact ⟨fun hc => h.1 (mem_of_mem_pieces hp hc), fun hc => h.2 (mem_of_mem_pieces hp hc)⟩

theorem isSealed_quoteIdentifier_brackets {n : String} (h : '[' ∉ n.toList ∧ ']' ∉ n.toList) :
    IsSealed (SqlServer.quoteIdentifier n) := by
  rw [quoteIdentifier_of_not_mem h.1]
  exact isSealed_quoteBetween_brackets h.2

theorem isSealed_quoteName {n : String} (h : '[' ∉ n.toList ∧ ']' ∉ n.toList) :
    IsSealed (SqlServer.quoteName n) :=
  isSealed_quoteParts fun _ hp => isSealed_quoteIdentifier_brackets (not_mem_piece h hp)

theorem sealsNames_of_doubleQuotes {d : Dialect} (hliterals : d.HasStandardLiterals)
    (hplaceholder : d.placeholder = "?")
    (htexts : d.Texts Text.IsSealed)
    (hidentifier : d.quoteIdentifier = quoteBetween '"' '"')
    (hcolumn : d.quoteColumn = quoteUnlessStar (quoteBetween '"' '"'))
    (htable : d.quoteTable = quoteParts (quoteBetween '"' '"'))
    (htop : d.capabilities.topExistsCheck = false)
    (hdistinct : d.capabilities.distinctOrderProjections = false) : d.SealsNames where
  literals := hliterals
  placeholder_eq := hplaceholder
  texts := htexts
  quoteIdentifier _ := hidentifier ▸ isSealed_quoteBetween_double _
  quoteColumn _ := hcolumn ▸ isSealed_quoteUnlessStar (isSealed_quoteBetween_double _)
  quoteTable _ := htable ▸ isSealed_quoteParts fun _ _ => isSealed_quoteBetween_double _
  name_eq h := by
    rw [htop, hdistinct] at h
    simp at h

theorem texts_isSealed {d : Dialect} (hconcat : isPlain d.concatOperator = true)
    (hcollation : ∀ s ∈ d.caseSensitiveCollation, isPlain s = true) : d.Texts Text.IsSealed where
  plain := isSealed_of_isPlain
  concat := isSealed_of_isPlain hconcat
  collation s hs := isSealed_of_isPlain (hcollation s hs)

theorem IsBuiltIn.sealsNames {d : Dialect} (h : d.IsBuiltIn) : d.SealsNames := by
  cases h with
  | generic =>
    exact sealsNames_of_doubleQuotes ⟨rfl, rfl⟩ rfl (texts_isSealed rfl (by rintro s ⟨⟩)) rfl rfl rfl rfl rfl
  | postgres =>
    exact sealsNames_of_doubleQuotes ⟨rfl, rfl⟩ rfl (texts_isSealed rfl (by rintro s ⟨⟩)) rfl rfl rfl rfl rfl
  | sqlite =>
    exact sealsNames_of_doubleQuotes ⟨rfl, rfl⟩ rfl (texts_isSealed rfl (by rintro s ⟨⟩; rfl)) rfl rfl rfl rfl
      rfl
  | db2 =>
    exact sealsNames_of_doubleQuotes ⟨rfl, rfl⟩ rfl (texts_isSealed rfl (by rintro s ⟨⟩)) rfl rfl rfl rfl rfl
  | sqlServer zone =>
    exact
      { literals := ⟨rfl, rfl⟩
        placeholder_eq := rfl
        texts := texts_isSealed (show isPlain "+" = true from rfl) (by rintro s ⟨⟩; rfl)
        quoteIdentifier := fun hn => isSealed_quoteIdentifier_brackets (hn rfl)
        quoteColumn := fun hn => isSealed_quoteUnlessStar (isSealed_quoteName (hn rfl))
        quoteTable := fun hn => isSealed_quoteName (hn rfl)
        name_eq := fun _ => rfl }

end Dialect

namespace Node

def NamesMeet (d : Dialect) (column : String → Prop) : Node → Prop
  | .expr (.raw _ _) => False
  | .expr (.function n _ _) => isPlain n = true
  | .expr (.column t n) => (∀ a ∈ t, d.AcceptsName a) ∧ column n
  | .expr (.wildcard t) => ∀ a ∈ t, d.AcceptsName a
  | .expr _ => True
  | .table (.table schema n label) =>
    (∀ a ∈ schema, d.AcceptsName a) ∧ d.AcceptsName n ∧ ∀ a ∈ label, d.AcceptsName a
  | .table (.derived _ label) => d.AcceptsName label
  | .table (.raw _) => False
  | .select s =>
    (∀ p ∈ s.projections, ∀ a ∈ p.label, d.AcceptsName a) ∧ (∀ k ∈ s.lock, isPlain k.text = true) ∧
      (d.name = "mssql" → s.distinct = false)

def IsInlinable (d : Dialect) : Node → Prop :=
  NamesMeet d d.AcceptsName

def IsSealable (d : Dialect) : Node → Prop :=
  NamesMeet d fun n => IsSealed (d.quoteColumn n)

variable {d : Dialect} {n : Node}

theorem NamesMeet.imp {c c' : String → Prop} (hc : ∀ n, c n → c' n) (h : n.NamesMeet d c) :
    n.NamesMeet d c' := by
  cases n with
  | expr e =>
    cases e with
    | column t n => exact ⟨h.1, hc _ h.2⟩
    | _ => exact h
  | table t => cases t <;> exact h
  | select s => exact h

theorem IsInlinable.isSealable (hd : d.SealsNames) (h : n.IsInlinable d) : n.IsSealable d :=
  NamesMeet.imp (fun _ => hd.quoteColumn) h

theorem IsSealable.isUnprobed (hd : d.SealsNames) (h : n.IsSealable d) :
    n.IsUnprobed d.capabilities := by
  cases n with
  | expr e => trivial
  | table t => trivial
  | select s => exact fun hc => h.2.2 (hd.name_eq hc)

end Node

def Dialect.OrdersBySealedNames (d : Dialect) (catalog : Catalog) : Prop :=
  d.capabilities.deterministicPaging = true → ∀ table, d.AcceptsName table →
    ∀ column ∈ catalog.orderingColumn? table, IsSealed (d.quoteColumn column)

namespace Dialect

variable {d : Dialect} {catalog : Catalog}

theorem AcceptsName.qualified {schema name : String} (hs : d.AcceptsName schema)
    (hn : d.AcceptsName name) : d.AcceptsName (schema ++ "." ++ name) := by
  intro hm
  obtain ⟨hs1, hs2⟩ := hs hm
  obtain ⟨hn1, hn2⟩ := hn hm
  simp only [String.toList_append, List.mem_append, not_or]
  exact ⟨⟨⟨hs1, by decide⟩, hn1⟩, ⟨⟨hs2, by decide⟩, hn2⟩⟩

theorem SealsNames.quoteQualified (h : d.SealsNames) {schema : Option String} {name : String}
    (hs : ∀ a ∈ schema, d.AcceptsName a) (hn : d.AcceptsName name) :
    IsSealed (d.quoteQualified schema name) := by
  cases schema with
  | none => exact h.quoteTable hn
  | some s => exact h.quoteTable ((hs s rfl).qualified hn)

end Dialect

namespace Node

variable {d : Dialect} {catalog : Catalog}

theorem isSealable_keyOrder {source : Option TableRef} {o : Order}
    (hd : d.OrdersBySealedNames catalog) (hpaging : d.capabilities.deterministicPaging = true)
    (ht : ∀ t ∈ source, (table t).IsSealable d) (h : keyOrder? catalog source = some o) :
    (expr o.expr).IsSealable d := by
  obtain ⟨t, hsource, name, qualifier, hname, column, hcolumn, he⟩ := Select.exists_of_keyOrder? h
  rw [he]
  have ht := ht t hsource
  cases t with
  | table schema n label =>
    obtain ⟨hs, hn, hl⟩ := ht
    obtain ⟨hname, hqualifier⟩ :=
      Select.of_catalogName?_table (P := d.AcceptsName) hname Dialect.AcceptsName.qualified hs hn hl
    exact ⟨by rintro a ⟨⟩; exact hqualifier, hd hpaging name hname column hcolumn⟩
  | derived q label => cases hname
  | raw text => exact ht.elim

theorem isSealable_added {s : Select} {e : Expr} (hn : d.SealsNames)
    (hd : d.OrdersBySealedNames catalog) (hs : (select s).IsSealable d)
    (ht : ∀ t ∈ s.source, (table t).IsSealable d) (h : s.Added d.capabilities catalog e) :
    (expr e).IsSealable d := by
  cases h with
  | top n hc hdistinct =>
    rw [hs.2.2 (hn.name_eq (.inl hc))] at hdistinct
    cases hdistinct
  | key hc hkey => exact isSealable_keyOrder hd hc ht hkey
  | bare hc hdistinct =>
    rw [hs.2.2 (hn.name_eq (.inr hc))] at hdistinct
    cases hdistinct

theorem isSealable_settleStep (hn : d.SealsNames) (hd : d.OrdersBySealedNames catalog)
    (nested : Bool) (s : Select) (h : (select s).Throughout children (IsSealable d)) :
    (select (Select.settleStep d.capabilities catalog nested s)).Throughout children
      (IsSealable d) := by
  obtain ⟨hs, hm⟩ := throughout_iff.1 h
  have ht (t : TableRef) (ht : t ∈ s.source) : (table t).IsSealable d :=
    (throughout_iff.1 ((Select.forall_parts.1 (List.forall_mem_append.1 hm).1).2.1 t ht)).1
  refine throughout_settleStep ?_ (fun e => isSealable_added hn hd hs ht) trivial hm
  have hunprobed : s.IsUnprobed d.capabilities := hs.isUnprobed hn
  rw [hunprobed.settleStep, Select.completeOffset_eq, Select.orderPaging_eq,
    Select.dropIdleOrder_eq]
  exact hs

theorem isKept_isSealable (hn : d.SealsNames) (hd : d.OrdersBySealedNames catalog) :
    IsKept d.capabilities catalog (IsSealable d) where
  expr e he := by
    rw [e.transform_eq]
    cases e <;> exact he
  table t ht := by
    rw [t.transform_eq]
    cases t <;> exact ht
  select s hs := ⟨List.forall_mem_map.2 hs.1, hs.2⟩
  step := isSealable_settleStep hn hd

theorem allowsKeys_isSealable : AllowsKeys (IsSealable d) where
  number _ := trivial
  among _ _ := trivial
  keys _ _ _ _ := ⟨List.forall_mem_singleton.2 (by rintro a ⟨⟩), by rintro k ⟨⟩, fun _ => rfl⟩

end Node

end PolySql

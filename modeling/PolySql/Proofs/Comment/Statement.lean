import PolySql.Proofs.Comment.Write
import PolySql.Proofs.Compile.Again
import PolySql.Proofs.Settle.Kept
import PolySql.Proofs.Settle.Width

namespace PolySql

open Emission Select Text

variable {d : Dialect} {catalog : Catalog}

namespace Node

theorem isContained_keyOrder {source : Option TableRef} {o : Order} (hkeys : d.KeepsKeys catalog)
    (ht : ∀ t ∈ source, (table t).IsContained d) (h : keyOrder? catalog source = some o) :
    (expr o.expr).IsContained d := by
  obtain ⟨t, hsource, name, qualifier, hname, column, hcolumn, he⟩ := exists_of_keyOrder? h
  rw [he]
  have ht := ht t hsource
  cases t with
  | table schema n label =>
    obtain ⟨hs, hn, hl⟩ := ht
    have hlabel : ∀ a ∈ label, d.KeepsName a := fun a ha => (hl a ha).1
    have hqualifier : d.KeepsName qualifier :=
      (of_catalogName?_table (P := d.KeepsName) hname Dialect.KeepsName.qualified hs hn hlabel).2
    exact ⟨by rintro a ⟨⟩; exact hqualifier, hkeys name column hcolumn⟩
  | derived q label => cases hname
  | raw text => exact ht.elim

theorem isContained_added {s : Select} {e : Expr} (hkeys : d.KeepsKeys catalog)
    (ht : ∀ t ∈ s.source, (table t).IsContained d)
    (ho : ∀ o ∈ s.orders, (expr o.expr).IsContained d) (h : s.Added d.capabilities catalog e) :
    (expr e).IsContained d := by
  cases h with
  | top n _ _ => exact ⟨rfl, n, rfl⟩
  | key _ hkey => exact isContained_keyOrder hkeys ht hkey
  | @bare text binds o _ _ hmem hx =>
    have hraw := ho o hmem
    rw [hx] at hraw
    obtain ⟨rfl, n, rfl⟩ := hraw
    exact ⟨by decide, n, rfl⟩

theorem keepsName_numbered (n : Nat) : d.KeepsName (aliasStem ++ Number.natText n) := by
  have hplain : isPlain (aliasStem ++ Number.natText n) = true := by
    rw [isPlain_append, isPlain_of_isTame (isTame_natText n)]
    rfl
  exact Dialect.keepsName_of_not_mem fun hmem => absurd (List.all_eq_true.1 hplain _ hmem) (by decide)

theorem isContained_settleStep (hkeys : d.KeepsKeys catalog) (nested : Bool) (s : Select)
    (h : (select s).Throughout children (IsContained d)) :
    (select (settleStep d.capabilities catalog nested s)).Throughout children (IsContained d) := by
  obtain ⟨hs, hm⟩ := throughout_iff.1 h
  obtain ⟨-, ht, -, -, -, -, ho⟩ := Select.forall_parts.1 (List.forall_mem_append.1 hm).1
  refine throughout_settleStep ⟨?_, ?_⟩ (fun e => isContained_added hkeys
    (fun t hmem => (throughout_iff.1 (ht t hmem)).1) fun o hmem => (throughout_iff.1 (ho o hmem)).1)
    trivial hm
  · exact forall_labels_settleStep (Dialect.keepsName_of_not_mem (by decide)) keepsName_numbered hs.1
  · rw [settleStep_keeps]
    exact hs.2

theorem isKept_isContained (hkeys : d.KeepsKeys catalog) :
    IsKept d.capabilities catalog (IsContained d) where
  expr e he := by
    rw [e.transform_eq]
    cases e <;> exact he
  table t ht := by
    rw [t.transform_eq]
    cases t <;> exact ht
  select s hs := ⟨List.forall_mem_map.2 hs.1, hs.2⟩
  step := isContained_settleStep hkeys

theorem allowsKeys_isContained : AllowsKeys (IsContained d) where
  number _ := trivial
  among _ _ := trivial
  keys _ _ _ _ := ⟨List.forall_mem_singleton.2 (by rintro a ⟨⟩), by rintro k ⟨⟩⟩

theorem signsApart_of_parts_eq_nil {e : Expr} (h : e.parts = []) : (expr e).SignsApart d := by
  refine (signsApart_iff ?_).2 trivial
  rintro e' rfl
  cases h

theorem isKept_signsApart : IsKept d.capabilities catalog (SignsApart d) where
  expr e he := by
    cases e with
    | unary op e =>
      cases op with
      | neg => exact (e.opensWithSign_transform d _).trans he
      | not => trivial
    | _ => trivial
  table _ _ := trivial
  select _ _ := trivial
  step _ _ hs := throughout_settleStep trivial (fun _ he => signsApart_of_parts_eq_nil he.parts_eq_nil)
    trivial (throughout_iff.1 hs).2

theorem allowsKeys_signsApart : AllowsKeys (SignsApart d) where
  number _ := trivial
  among _ _ := trivial
  keys _ _ _ _ := trivial

end Node

namespace Statement

variable {s t : Statement}

structure IsContained (d : Dialect) (s : Statement) : Prop where
  trees : ∀ n ∈ s.trees, n.Throughout Node.children (Node.IsContained d)
  names : ∀ n ∈ s.names, d.KeepsName n

theorem IsContained.target (h : s.IsContained d) :
    (Node.table (.table s.target.2.1 s.target.2.2 none)).IsContained d := by
  have hempty : d.KeepsName "" := Dialect.keepsName_of_not_mem (by decide)
  have hnames {schema : Option String} {n : String} {ns : List String}
      (hn : ∀ a ∈ schema.toList ++ n :: ns, d.KeepsName a) :
      (Node.table (.table schema n none)).IsContained d := by
    obtain ⟨hs, ht⟩ := List.forall_mem_append.1 hn
    exact ⟨fun a ha => hs a (Option.mem_toList.2 ha), ht n (List.mem_cons_self ..), by rintro a ⟨⟩⟩
  cases s with
  | select s => exact ⟨by rintro a ⟨⟩, hempty, by rintro a ⟨⟩⟩
  | insert s => exact ⟨by rintro a ⟨⟩, hempty, by rintro a ⟨⟩⟩
  | update s => exact hnames h.names
  | delete s => exact hnames h.names

theorem IsContained.isApart_write (hd : d.QuotesLabels) (hkeys : d.KeepsKeys catalog)
    (h : s.IsContained d) (ht : s.settle d.capabilities catalog = .ok t) (hfit : t.RowsFit) :
    IsApart (∀ n ∈ t.roots, n.IsUncommented d) (d.writeStatement t) := by
  have hroots := (Node.isKept_isContained hkeys).settle Node.allowsKeys_isContained h.target h.trees ht
  have hnames : t.NamesIn d Text.IsUncommented := by
    refine namesIn_of_names isUncommented_of_isTame Text.IsUncommented.append hd.isUncommented_column
      hd.isUncommented_qualified ?_
    rw [names_settle ht]
    exact h.names
  exact Dialect.writeStatement_mapRoots (f := id) (g := id) (h := id) congruence_isApart hd.words
    Expr.keepsShape_id hnames hfit fun n hn => Node.isApart_write hd (hroots n hn)

end Statement

theorem hasComment_compile (hd : d.IsBuiltIn) (hkeys : d.KeepsKeys catalog) {s : Statement}
    (hs : s.IsContained d) {c : Compiled} (hc : compile d catalog s = .ok c) :
    (hasComment c.sql = false ↔ ∀ n ∈ c.statement.roots, n.IsUncommented d) ∧
      ((∀ n ∈ s.trees, n.Throughout Node.children (Node.SignsApart d)) → hasComment c.sql = false) := by
  obtain ⟨ht, hw⟩ := of_compile_eq_ok hc
  obtain ⟨hfaultless, htext⟩ := of_finish_eq_ok _ hw
  obtain ⟨hsql, -⟩ := Prod.mk.inj htext
  have hapart := hs.isApart_write hd.quotesLabels hkeys ht (Dialect.rowsFit_of_isFaultless hfaultless)
  have hiff : hasComment c.sql = false ↔ ∀ n ∈ c.statement.roots, n.IsUncommented d := by
    rw [hsql, hd.quotesLabels.placeholder_eq]
    exact hapart.hasComment_iff
  refine ⟨hiff, fun hsigns => hiff.2 fun n hn => ?_⟩
  have hroots := Node.isKept_signsApart.settle Node.allowsKeys_signsApart trivial hsigns ht n hn
  exact hroots.mono Node.shown_subset_children fun _ h => h

def signedPage : Statement :=
  .select
    { Select.ofTable (.table none "t" none) with
      projections :=
        [⟨.unary .neg (.binary (.column none "a--b") .sub (.value (.int (-5)))), none⟩]
      limit := some (.value (.int 3)) }

theorem throughout_signedPage :
    ∀ n ∈ signedPage.trees, n.Throughout Node.children fun m =>
      m.IsContained SqlServer.dialect ∧ m.SignsApart SqlServer.dialect := by
  have hname {n : String} (h : '[' ∉ n.toList) : SqlServer.dialect.KeepsName n :=
    Dialect.keepsName_of_not_mem h
  have hnone {P : String → Prop} : ∀ a ∈ (none : Option String), P a := by rintro a ⟨⟩
  have hleaf {e : Expr} (hp : e.parts = []) (he : (Node.expr e).IsContained SqlServer.dialect) :
      (Node.expr e).Throughout Node.children fun m =>
        m.IsContained SqlServer.dialect ∧ m.SignsApart SqlServer.dialect :=
    Node.throughout_of_eq_nil hp ⟨he, Node.signsApart_of_parts_eq_nil hp⟩
  have hcolumn := hleaf (e := .column none "a--b") rfl ⟨hnone, hname (by decide)⟩
  have hnumber := hleaf (e := .value (.int (-5))) rfl trivial
  refine List.forall_mem_singleton.2 (.intro ⟨⟨?_, by rintro k ⟨⟩⟩, trivial⟩ ?_)
  · exact List.forall_mem_singleton.2 hnone
  · refine List.forall_mem_cons.2 ⟨?_, forall_mem_two.2 ⟨?_, hleaf rfl trivial⟩⟩
    · refine .intro ⟨trivial, rfl⟩ (List.forall_mem_singleton.2 (.intro ⟨trivial, trivial⟩ ?_))
      exact forall_mem_two.2 ⟨hcolumn, hnumber⟩
    · exact Node.throughout_of_eq_nil rfl ⟨⟨hnone, hname (by decide), hnone⟩, trivial⟩

theorem hasComment_compile_signedPage :
    let catalog : Catalog := ⟨fun _ => ["id"], fun _ => []⟩
    ∃ c, compile SqlServer.dialect catalog signedPage = .ok c ∧ hasComment c.sql = false := by
  intro catalog
  have hkeys : SqlServer.dialect.KeepsKeys catalog := by
    intro table column hcolumn
    obtain rfl := Option.some.inj hcolumn
    exact Dialect.keepsName_of_not_mem (by decide)
  have hcontained : signedPage.IsContained SqlServer.dialect :=
    ⟨fun n hn => (throughout_signedPage n hn).imp fun _ => And.left, by rintro n ⟨⟩⟩
  have hsigns : ∀ n ∈ signedPage.trees, n.Throughout Node.children
      (Node.SignsApart SqlServer.dialect) :=
    fun n hn => (throughout_signedPage n hn).imp fun _ => And.right
  have hok : (compile SqlServer.dialect catalog signedPage).isOk = true := by decide +kernel
  cases hc : compile SqlServer.dialect catalog signedPage with
  | error e =>
    rw [hc] at hok
    cases hok
  | ok c => exact ⟨c, rfl, (hasComment_compile (.sqlServer .utc) hkeys hcontained hc).2 hsigns⟩

end PolySql

import PolySql.Proofs.Comment.Sign
import PolySql.Proofs.Write.Statement

namespace PolySql

open Emission Text

structure Emission.IsApart (c : Prop) (a : Emission) : Prop where
  isSeparate : IsSeparate (a.sql "?")
  hasComment_iff : hasComment (a.sql "?") = false ↔ c

namespace Emission

theorem isApart_of_isUncommented {a : Emission} (h : IsUncommented (a.sql "?")) : IsApart True a :=
  ⟨h.isSeparate, iff_of_true h.hasComment_eq trivial⟩

theorem isApart_lit {s : String} (h : IsUncommented s) : IsApart True (lit s) :=
  isApart_of_isUncommented (by rwa [sql_lit])

theorem IsApart.congr {c c' : Prop} {a : Emission} (hc : c ↔ c') (h : IsApart c a) : IsApart c' a :=
  propext hc ▸ h

theorem IsApart.append {c c' : Prop} {a b : Emission} (ha : IsApart c a) (hb : IsApart c' b) :
    IsApart (c ∧ c') (a ++ b) where
  isSeparate := by
    rw [sql_append]
    exact ha.isSeparate.append hb.isSeparate
  hasComment_iff := by
    rw [sql_append, hasComment_append ha.isSeparate hb.isSeparate.head?, Bool.or_eq_false_iff,
      ha.hasComment_iff, hb.hasComment_iff]

theorem congruence_isApart : Congruence IsUncommented fun c a _ => IsApart c a where
  nil := isApart_of_isUncommented (isUncommented_of_isTame rfl)
  lit := isApart_lit
  fault := isApart_of_isUncommented (isUncommented_of_isTame rfl)
  append := IsApart.append

end Emission

namespace Dialect

variable {d : Dialect}

theorem QuotesLabels.words (h : d.QuotesLabels) :
    d.Words IsUncommented fun c a _ => IsApart c a where
  word := isUncommented_of_isTame
  operator op := by
    refine isApart_of_isUncommented ?_
    rw [sql_append, sql_append, sql_lit, sql_lit]
    have hspaced {s : String} (hs : isTame s = true) : IsUncommented (" " ++ s ++ " ") :=
      ((isUncommented_of_isTame rfl).append (isUncommented_of_isTame hs)).append
        (isUncommented_of_isTame rfl)
    cases op with
    | concat => exact hspaced h.concat
    | sub =>
      show IsUncommented " - "
      exact ⟨⟨by decide, by decide, .inl rfl⟩, by decide⟩
    | _ => exact hspaced (show isTame (BinaryOp.sql _) = true from rfl)
  number n := isUncommented_of_isSigned (isSigned_intText (fun _ => isTameChar_of_isDigit) n)
  firstRows n :=
    ((isUncommented_of_isTame rfl).append (isUncommented_of_isSigned
      (isSigned_intText (fun _ => isTameChar_of_isDigit) n))).append (isUncommented_of_isTame rfl)
  unlimited := ⟨⟨by decide, by decide, .inl rfl⟩, by decide⟩
  collation s hs := isUncommented_of_isTame (h.collation s hs)

end Dialect

namespace Node

variable {d : Dialect} {n : Node}

def SignsApart (d : Dialect) : Node → Prop
  | .expr (.unary .neg e) => e.opensWithSign d = false
  | _ => True

def shown : Node → List Node
  | .expr e => e.written
  | .table t => t.parts
  | .select s => s.parts ++ s.bounds

theorem shown_subset_children (n : Node) : n.shown ⊆ n.children := by
  cases n with
  | expr e => exact written_subset_parts (.expr e)
  | table t => exact List.Subset.refl _
  | select s => exact List.Subset.refl _

def IsUncommented (d : Dialect) (n : Node) : Prop :=
  n.Throughout shown (SignsApart d)

theorem isUncommented_qualifier (hd : d.QuotesLabels) {t : Option String}
    (h : ∀ a ∈ t, d.KeepsName a) : Text.IsUncommented ((d.writeQualifier t).sql "?") := by
  cases t with
  | none => exact isUncommented_of_isTame rfl
  | some a =>
    show Text.IsUncommented (sql "?" (lit _ ++ lit _))
    rw [sql_append, sql_lit, sql_lit]
    exact (hd.isUncommented_table (h a rfl)).append (isUncommented_of_isTame rfl)

theorem isUncommented_leaf (hd : d.QuotesLabels) {e : Expr} (h : (expr e).IsContained d)
    (hleaf : e.isLeaf = true) : Text.IsUncommented ((d.writeExpr e).sql "?") := by
  cases e with
  | value v =>
    show Text.IsUncommented (sql "?" (lit _))
    rw [sql_lit]
    exact isUncommented_of_isLiteral (hd.literals.isLiteral_quote v)
  | bind v =>
    show Text.IsUncommented "?"
    exact ⟨⟨by decide, by decide, .inl rfl⟩, by decide⟩
  | column t n =>
    show Text.IsUncommented (sql "?" (_ ++ lit _))
    rw [sql_append, sql_lit]
    exact (isUncommented_qualifier hd h.1).append (hd.isUncommented_column h.2)
  | wildcard t =>
    show Text.IsUncommented (sql "?" (_ ++ lit _))
    rw [sql_append, sql_lit]
    exact (isUncommented_qualifier hd h).append (isUncommented_of_isTame rfl)
  | raw text binds =>
    obtain ⟨rfl, n, rfl⟩ := h
    show Text.IsUncommented "TOP(?) 1"
    exact ⟨⟨by decide, by decide, .inl rfl⟩, by decide⟩
  | _ => cases hleaf

theorem isApart_neg (hd : d.QuotesLabels) {e : Expr} {c : Prop}
    (h : (expr e).Throughout children (IsContained d)) (he : IsApart c (d.writeExpr e)) :
    IsApart (e.opensWithSign d = false ∧ c) (d.writeExpr (.unary .neg e)) := by
  have hoperand : IsApart c (parenthesizedIf e.isBinary (d.writeExpr e)) :=
    Dialect.parens_congr (b := []) congruence_isApart hd.words rfl he
  have hopens := Dialect.opens_operand hd h
  have htext : (d.writeExpr (.unary .neg e)).sql "?" =
      "-" ++ (parenthesizedIf e.isBinary (d.writeExpr e)).sql "?" := by
    show sql "?" (lit "-" ++ _) = _
    rw [sql_append, sql_lit]
  refine ⟨htext ▸ hoperand.isSeparate.sign hopens.sql_ne, ?_⟩
  rw [htext, hasComment_sign, hopens.head?_eq, Bool.or_eq_false_iff, hoperand.hasComment_iff]

theorem signsApart_iff {e : Expr} (h : ∀ e', e ≠ .unary .neg e') : (expr e).SignsApart d ↔ True := by
  cases e with
  | unary op e =>
    cases op with
    | neg => exact absurd rfl (h e)
    | not => exact Iff.rfl
  | _ => exact Iff.rfl

theorem isApart_expr (hd : d.QuotesLabels) {e : Expr}
    (h : (expr e).Throughout children (IsContained d))
    (hm : ∀ m ∈ e.written, IsApart (m.IsUncommented d) (m.write d)) :
    IsApart ((expr e).IsUncommented d) (d.writeExpr e) := by
  obtain ⟨he, hparts⟩ := throughout_iff.1 h
  rw [IsUncommented, throughout_iff]
  by_cases hsign : ∃ e', e = .unary .neg e'
  · obtain ⟨e, rfl⟩ := hsign
    have hneg := isApart_neg hd (List.forall_mem_singleton.1 hparts)
      (hm (.expr e) (List.mem_singleton_self _))
    exact hneg.congr (and_congr_right' List.forall_mem_singleton.symm)
  · have hne (e' : Expr) : e ≠ .unary .neg e' := fun heq => hsign ⟨e', heq⟩
    have hwritten := Dialect.writeExpr_mapParts (g := id) (h := id) congruence_isApart hd.words
      Expr.keepsShape_id (.inr hne)
      (fun hleaf => isApart_of_isUncommented (isUncommented_leaf hd he hleaf)) (he.namesIn hd) hm
    rw [signsApart_iff hne, true_and]
    exact hwritten

theorem isApart_select (hd : d.QuotesLabels) {s : Select} (hs : (select s).IsContained d)
    (hm : ∀ m ∈ s.parts ++ s.bounds, IsApart (m.IsUncommented d) (m.write d)) :
    IsApart (∀ m ∈ s.parts ++ s.bounds, m.IsUncommented d) (d.writeSelect s) := by
  have hR := congruence_isApart
  have hT := hd.words
  have hf := Expr.keepsShape_id
  have hnames := hs.namesIn hd
  obtain ⟨hparts, hbounds⟩ := List.forall_mem_append.1 hm
  obtain ⟨hl, ho⟩ := Select.forall_bounds.1 hbounds
  -- A number has no minus in front of anything, so it makes no difference whether it is written.
  have hnumber {e : Expr} {n : Int64} (hn : n ∈ e.intValue?) : (expr e).IsUncommented d := by
    cases e with
    | value v => exact throughout_of_eq_nil rfl trivial
    | bind v => exact throughout_of_eq_nil rfl trivial
    | _ => cases hn
  have hlimit := Dialect.boundsRelated_writeBound hR hT hf (fun _ => rfl) (fun _ _ _ => hnumber) hl
  have hoffset := Dialect.boundsRelated_writeBound hR hT hf (fun _ => rfl) (fun _ _ _ => hnumber) ho
  have hpaged := Dialect.writePaged_congr (b := []) hR hT hlimit hoffset
    (Dialect.writeTrailingLock_congr hR hT hnames.2)
    (Dialect.writeCore_mapParts (g := id) (h := id) hR hT hf hnames hparts)
  rw [d.writeSelect_eq]
  refine IsApart.congr ?_ hpaged
  rw [List.forall_mem_append, Select.forall_bounds]

theorem isApart_write (hd : d.QuotesLabels) (h : n.Throughout children (IsContained d)) :
    IsApart (n.IsUncommented d) (n.write d) := by
  induction n using Node.induct with
  | step n ih =>
    obtain ⟨hn, hchildren⟩ := throughout_iff.1 h
    have hm := fun m hm => ih m hm (hchildren m hm)
    cases n with
    | expr e => exact isApart_expr hd h fun m hmem => hm m (shown_subset_children (.expr e) hmem)
    | table t =>
      have htable : IsApart (∀ m ∈ t.parts, m.IsUncommented d) (d.writeTable t) :=
        Dialect.writeTable_mapParts (f := id) (g := id) (h := id) congruence_isApart hd.words
          (hn.namesIn hd) hm
      rw [IsUncommented, throughout_iff]
      exact htable.congr (and_iff_right trivial).symm
    | select s =>
      rw [IsUncommented, throughout_iff]
      exact (isApart_select hd hn hm).congr (and_iff_right trivial).symm

end Node

end PolySql

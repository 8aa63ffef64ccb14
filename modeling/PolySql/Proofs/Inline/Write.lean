import PolySql.Proofs.Inline.Emission
import PolySql.Proofs.Inline.Names
import PolySql.Proofs.Write.Statement

namespace PolySql

open Emission Text

variable {d : Dialect}

structure Emission.InlinesTo (d : Dialect) (a b : Emission) : Prop where
  eq : b = a.inline d
  isSealed : a.IsSealed

namespace Emission

theorem isSealed_lit {s : String} (h : Text.IsSealed s) : (lit s).IsSealed :=
  List.forall_mem_singleton.2 h

namespace InlinesTo

theorem lit {s : String} (h : Text.IsSealed s) : InlinesTo d (lit s) (lit s) :=
  ⟨rfl, isSealed_lit h⟩

theorem append {a b a' b' : Emission} (h : InlinesTo d a b) (h' : InlinesTo d a' b') :
    InlinesTo d (a ++ a') (b ++ b') :=
  ⟨by rw [inline_append, h.eq, h'.eq], List.forall_mem_append.2 ⟨h.isSealed, h'.isSealed⟩⟩

theorem congruence (d : Dialect) : Congruence Text.IsSealed fun _ a b => InlinesTo d a b where
  nil := ⟨rfl, by rintro x ⟨⟩⟩
  lit := lit
  fault := ⟨rfl, List.forall_mem_singleton.2 trivial⟩
  append := append

end InlinesTo

end Emission

theorem Expr.keepsShape_inline : Expr.KeepsShape Expr.inline where
  isBinary := Expr.isBinary_inline
  sideNeedsParens op isRight e := by cases e <;> rfl
  isGrouped e := by cases e <;> rfl
  isOr e := by
    cases e with
    | binary l op r => cases op <;> rfl
    | _ => rfl

namespace Node

variable {n : Node}

theorem IsSealable.namesIn (hn : d.SealsNames) (h : n.IsSealable d) :
    n.NamesIn d Text.IsSealed := by
  cases n with
  | expr e =>
    cases e with
    | function f as dist => exact isSealed_of_isPlain h
    | _ => trivial
  | table t =>
    cases t with
    | table schema name label =>
      obtain ⟨hs, hname, hl⟩ := h
      exact ⟨hn.quoteQualified hs hname, fun a ha => hn.quoteIdentifier (hl a ha)⟩
    | derived q label => exact hn.quoteIdentifier h
    | raw text => exact h.elim
  | select s =>
    exact ⟨fun p hp a ha => hn.quoteColumn (h.1 p hp a ha),
      fun k hk => isSealed_of_isPlain (h.2.1 k hk)⟩

theorem inlinesTo_qualifier (hn : d.SealsNames) {t : Option String}
    (h : ∀ a ∈ t, d.AcceptsName a) : InlinesTo d (d.writeQualifier t) (d.writeQualifier t) := by
  cases t with
  | none => exact (InlinesTo.congruence d).nil
  | some a =>
    exact (InlinesTo.lit (hn.quoteTable (h a rfl))).append (.lit (isSealed_of_isPlain rfl))

theorem inlinesTo_leaf (hn : d.SealsNames) {e : Expr} (h : (expr e).IsSealable d)
    (hb : ∀ v, e ≠ .bind v) (hleaf : e.isLeaf = true) :
    InlinesTo d (d.writeExpr e) (d.writeExpr e) := by
  cases e with
  | value v => exact .lit (hn.literals.isSealed_quote v)
  | bind v => exact absurd rfl (hb v)
  | column t n => exact (inlinesTo_qualifier hn h.1).append (.lit h.2)
  | wildcard t => exact (inlinesTo_qualifier hn h).append (.lit (isSealed_of_isPlain rfl))
  | raw text binds => exact h.elim
  | _ => cases hleaf

theorem inlinesTo_write (hn : d.SealsNames) (h : n.Throughout children (IsSealable d)) :
    InlinesTo d (n.write d) (n.inline.write d) := by
  have hR := InlinesTo.congruence d
  have hT := hn.texts.words hR
  have hf := Expr.keepsShape_inline
  induction h with
  | @intro n h _ ih =>
    have hnames := h.namesIn hn
    cases n with
    | expr e =>
      by_cases hb : ∃ v, e = .bind v
      · obtain ⟨v, rfl⟩ := hb
        exact ⟨rfl, List.forall_mem_singleton.2 trivial⟩
      · have hne (v : Value) : e ≠ .bind v := fun he => hb ⟨v, he⟩
        show InlinesTo d (d.writeExpr e) (d.writeExpr e.inline)
        rw [Expr.inline_eq hne]
        refine Dialect.writeExpr_mapParts (c := fun _ => True) (g := TableRef.inline) hR hT hf
          (.inl (isSealed_of_isPlain rfl)) (inlinesTo_leaf hn h hne) hnames fun m hm => ?_
        exact ih m (written_subset_parts (.expr e) hm)
    | table t =>
      show InlinesTo d (d.writeTable t) (d.writeTable t.inline)
      rw [TableRef.inline_eq]
      exact Dialect.writeTable_mapParts (c := fun _ => True) (f := Expr.inline)
        (g := TableRef.inline) hR hT hnames ih
    | select s =>
      obtain ⟨hp, hbounds⟩ := List.forall_mem_append.1 ih
      obtain ⟨hl, ho⟩ := Select.forall_bounds.1 hbounds
      show InlinesTo d (d.writeSelect s) (d.writeSelect s.inline)
      rw [d.writeSelect_eq, d.writeSelect_eq, Select.inline_eq]
      have hlimit := Dialect.boundsRelated_writeBound (c := fun _ => True) hR hT hf
        Expr.intValue?_inline (fun _ _ _ _ => trivial) hl
      have hoffset := Dialect.boundsRelated_writeBound (c := fun _ => True) hR hT hf
        Expr.intValue?_inline (fun _ _ _ _ => trivial) ho
      exact Dialect.writePaged_congr (p := True) hR hT hlimit hoffset
        (Dialect.writeTrailingLock_congr hR hT hnames.2)
        (Dialect.writeCore_mapParts (c := fun _ => True) hR hT hf hnames hp)

end Node

end PolySql

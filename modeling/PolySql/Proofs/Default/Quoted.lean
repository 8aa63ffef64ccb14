import PolySql.Dialect.Db2
import PolySql.Dialect.Generic
import PolySql.Dialect.Sqlite
import PolySql.Proofs.Default.Parenthesized
import PolySql.Proofs.Number.Decimal
import PolySql.Proofs.Text.Literal
import PolySql.SqlServer.Dialect

namespace PolySql

open Text Number

theorem toList_quoted (body : String) :
    ("'" ++ body ++ "'").toList = '\'' :: (body.toList ++ ['\'']) := by
  simp [String.toList_append]

theorem quoteString_eq (s : String) :
    quoteString s = "'" ++ String.ofList (double '\'' s.toList) ++ "'" := by
  rw [← String.toList_inj, toList_quoted, quoteString, String.toList_ofList, String.toList_ofList,
    quoteChars]

theorem not_mem_of_isDecimalLiteral {s : String} (h : isDecimalLiteral s = true) :
    '\'' ∉ s.toList := by
  intro hmem
  have hdigit (c : Char) (hc : isDecimalDigit c = true) : (c != '\'') = true := by
    refine bne_iff_ne.2 fun heq => ?_
    rw [heq] at hc
    exact absurd hc (by decide)
  have hall := (isSigned_of_isDecimalLiteral hdigit rfl h).all rfl
  exact absurd (List.all_eq_true.1 hall _ hmem) (by decide)

theorem SqlServer.mem_dropUpTo {c x : Char} (hx : x ≠ c) {n : Nat} {t : List Char} (h : x ∈ t) :
    x ∈ SqlServer.dropUpTo c n t := by
  fun_induction SqlServer.dropUpTo c n t with
  | case1 n r ih => exact ih (List.mem_of_ne_of_mem hx h)
  | case2 => exact h
  | case3 => exact h

theorem SqlServer.numericDefault?_of_mem {t : List Char} (h : '\'' ∈ t) :
    SqlServer.numericDefault? t = none := by
  refine if_neg fun hliteral => not_mem_of_isDecimalLiteral hliteral ?_
  rw [String.toList_ofList, List.mem_reverse]
  refine SqlServer.mem_dropUpTo (by decide) ?_
  rw [List.mem_reverse]
  exact SqlServer.mem_dropUpTo (by decide) h

def TypeKind.isCharacter : TypeKind → Bool
  | .string | .text | .uuid | .xml | .json | .other => true
  | _ => false

theorem TypeKind.cast_of_isCharacter {kind : TypeKind} (h : kind.isCharacter = true) (raw : String) :
    kind.cast raw = some (.text raw) := by
  cases kind <;> first | exact absurd h (by decide) | rfl

structure LiteralForm where
  fronts : List String
  back : String
  expression : String → String

namespace LiteralForm

def bare : LiteralForm where
  fronts := [""]
  back := ""
  expression := trimmed

def parenthesized : LiteralForm where
  fronts := ["(", "(N"]
  back := ")"
  expression raw := String.ofList (unwrap (trim raw.toList))

def Wraps (f : LiteralForm) (inner raw : String) : Prop :=
  ∃ front ∈ f.fronts, trimmed raw = front ++ inner ++ f.back

theorem wraps_iff {f : LiteralForm} {inner raw : String} :
    f.Wraps inner raw ↔
      ∃ front ∈ f.fronts, trim raw.toList = front.toList ++ (inner.toList ++ f.back.toList) := by
  have hchars (front : String) : trimmed raw = front ++ inner ++ f.back ↔
      trim raw.toList = front.toList ++ (inner.toList ++ f.back.toList) := by
    rw [trimmed, ← String.toList_inj, String.toList_ofList, String.toList_append,
      String.toList_append, List.append_assoc]
  simp only [Wraps, hchars]

section Wraps
variable {body raw : String}

theorem bare_wraps_iff :
    bare.Wraps ("'" ++ body ++ "'") raw ↔
      between? ['\''] ['\''] (trim raw.toList) = some body.toList := by
  rw [wraps_iff, between?_eq_some_iff, toList_quoted]
  simp [bare]

theorem parenthesized_wraps_iff :
    parenthesized.Wraps ("'" ++ body ++ "'") raw ↔
      SqlServer.quotedDefault? (trim raw.toList) = some body.toList := by
  rw [wraps_iff, SqlServer.quotedDefault?_eq_some_iff, toList_quoted]
  simp [parenthesized]

end Wraps

def read (f : LiteralForm) (raw : String) : Option (List Char) → ColumnDefault
  | some body => .value (.text (String.ofList (undouble '\'' body)))
  | none => .generator (f.expression raw)

end LiteralForm

section Reading
variable {raw : String} {type : ColumnType}

theorem SqlServer.parseDefault_of_mem (h : type.kind.isCharacter = true) (hmem : '\'' ∈ raw.toList) :
    SqlServer.parseDefault raw type =
      some (LiteralForm.parenthesized.read raw (SqlServer.quotedDefault? (trim raw.toList))) := by
  have hquote : '\'' ∈ trim raw.toList := mem_trim (by decide) hmem
  have hnull := SqlServer.isNullDefault_eq_false (c := '\'') (by decide) hquote
  unfold SqlServer.parseDefault trimmed
  dsimp only
  rw [String.toList_ofList, hnull]
  cases SqlServer.quotedDefault? (trim raw.toList) with
  | some body =>
    dsimp only
    rw [ColumnType.cast, TypeKind.cast_of_isCharacter h]
    rfl
  | none =>
    rw [SqlServer.numericDefault?_of_mem hquote]
    rfl

theorem parseStoredDefault_of_mem (h : type.kind.isCharacter = true) (hmem : '\'' ∈ raw.toList) :
    parseStoredDefault raw type =
      some (LiteralForm.bare.read raw (between? ['\''] ['\''] (trim raw.toList))) := by
  have hchars : (trimmed raw).toList = trim raw.toList := by rw [trimmed, String.toList_ofList]
  have hquote : '\'' ∈ (trimmed raw).toList := by
    rw [hchars]
    exact mem_trim (by decide) hmem
  have hne : (trimmed raw == "") = false := by
    refine beq_eq_false_iff_ne.2 fun heq => ?_
    rw [heq] at hquote
    cases hquote
  have hnumber : (Double.read? (trimmed raw)).isSome = false := by
    cases hread : (Double.read? (trimmed raw)).isSome with
    | true => exact absurd hquote (not_mem_of_read? hread)
    | false => rfl
  unfold parseStoredDefault unquoteString
  dsimp only
  rw [hne, sameIgnoringCase_null (c := '\'') (by decide) hquote, hchars, hnumber]
  cases between? ['\''] ['\''] (trim raw.toList) with
  | some body =>
    rw [ColumnType.cast, TypeKind.cast_of_isCharacter h]
    rfl
  | none => rfl

end Reading

theorem SqlServer.parseDefault_dialectWith (zone : Calendar.Timezone) (collation : String) :
    (SqlServer.dialectWith zone collation).parseDefault = SqlServer.parseDefault := by
  rw [SqlServer.dialectWith]

theorem parseDefault_eq_parseStoredDefault {d : Dialect}
    (hd : d ∈ [Generic.dialect, Sqlite.dialect, Db2.dialect]) :
    d.parseDefault = parseStoredDefault ∧ d.capabilities.unicodeStrings = false := by
  simp only [List.mem_cons, List.not_mem_nil, or_false] at hd
  obtain rfl | rfl | rfl := hd
  · exact ⟨by rw [Generic.dialect], rfl⟩
  · exact ⟨by rw [Sqlite.dialect], rfl⟩
  · exact ⟨by rw [Db2.dialect], rfl⟩

inductive Dialect.Shows : Dialect → LiteralForm → Prop
  | parenthesized (zone : Calendar.Timezone) (collation : String) :
    Shows (SqlServer.dialectWith zone collation) .parenthesized
  | bare {d : Dialect} : d ∈ [Generic.dialect, Sqlite.dialect, Db2.dialect] → Shows d .bare

section Shows
variable {d : Dialect} {f : LiteralForm} {raw : String} {type : ColumnType}

theorem Dialect.Shows.parseDefault_of_mem (hd : d.Shows f) (h : type.kind.isCharacter = true)
    (hmem : '\'' ∈ raw.toList) :
    ∃ body? : Option (List Char),
      (∀ body : String, f.Wraps ("'" ++ body ++ "'") raw ↔ body? = some body.toList) ∧
      d.parseDefault raw type = some (f.read raw body?) := by
  cases hd with
  | parenthesized zone collation =>
    refine ⟨_, fun body => LiteralForm.parenthesized_wraps_iff, ?_⟩
    rw [SqlServer.parseDefault_dialectWith]
    exact SqlServer.parseDefault_of_mem h hmem
  | bare hplain =>
    refine ⟨_, fun body => LiteralForm.bare_wraps_iff, ?_⟩
    rw [(parseDefault_eq_parseStoredDefault hplain).1]
    exact parseStoredDefault_of_mem h hmem

structure Dialect.TellsLiterals (d : Dialect) (f : LiteralForm) (raw : String) (type : ColumnType) :
    Prop where
  literal : ∀ s, d.parseDefault raw type = some (.value (.text s)) → f.Wraps (Text.quoteString s) raw
  expression : (∀ s, ¬ f.Wraps (Text.quoteString s) raw) →
    d.parseDefault raw type = some (.generator (f.expression raw)) ∧
      d.quoteDefault (some type) (.generator (f.expression raw)) = f.expression raw

theorem Dialect.Shows.tellsLiterals_iff (hd : d.Shows f) (h : type.kind.isCharacter = true)
    (hmem : '\'' ∈ raw.toList) :
    d.TellsLiterals f raw type ↔
      ∀ body, f.Wraps ("'" ++ body ++ "'") raw →
        double '\'' (undouble '\'' body.toList) = body.toList := by
  obtain ⟨body?, hwraps, hread⟩ := hd.parseDefault_of_mem h hmem
  have hquoted {s : String} (hs : f.Wraps (Text.quoteString s) raw) :
      body? = some (double '\'' s.toList) := by
    rw [quoteString_eq] at hs
    simpa using (hwraps _).1 hs
  constructor
  · intro htells body hbody
    rw [(hwraps body).1 hbody] at hread hquoted
    have hliteral := htells.literal _ hread
    have hbody := Option.some.inj (hquoted hliteral)
    rw [String.toList_ofList] at hbody
    exact hbody.symm
  · intro hdoubled
    have hliteral {body : List Char} (hbody : body? = some body) :
        f.Wraps (Text.quoteString (String.ofList (undouble '\'' body))) raw := by
      have hbody' := (hwraps (String.ofList body)).2 (by rw [hbody, String.toList_ofList])
      have hdouble := hdoubled _ hbody'
      rw [String.toList_ofList] at hdouble
      rwa [quoteString_eq, String.toList_ofList, hdouble]
    cases hbody : body? with
    | none =>
      rw [hbody] at hread
      refine ⟨fun s hs => ?_, fun _ => ⟨hread, rfl⟩⟩
      rw [hread] at hs
      cases hs
    | some body =>
      rw [hbody] at hread
      refine ⟨fun s hs => ?_, fun hnone => absurd (hliteral hbody) (hnone _)⟩
      rw [hread] at hs
      cases hs
      exact hliteral hbody

theorem Dialect.Shows.tellsLiterals_iff_sum :
    (SqlServer.dialect.parseDefault "('a' + 'b')" (.plain .string "nvarchar(20)") =
        some (.value (.text "a' + 'b")) ∧
      ¬ SqlServer.dialect.TellsLiterals .parenthesized "('a' + 'b')" (.plain .string "nvarchar(20)")) ∧
    Sqlite.dialect.TellsLiterals .bare "'it''s'" (.plain .text "text") := by
  have hsum : LiteralForm.parenthesized.Wraps ("'" ++ "a' + 'b" ++ "'") "('a' + 'b')" :=
    ⟨"(", List.mem_cons_self .., by decide⟩
  have hread : SqlServer.dialect.parseDefault "('a' + 'b')" (.plain .string "nvarchar(20)") =
      some (.value (.text "a' + 'b")) := by
    rw [SqlServer.dialect, SqlServer.parseDefault_dialectWith,
      SqlServer.parseDefault_of_mem rfl (by decide)]
    rfl
  refine ⟨⟨hread, fun htells => ?_⟩, ?_⟩
  · have hdoubled := (Dialect.Shows.tellsLiterals_iff
      (.parenthesized .utc SqlServer.caseSensitiveCollation) rfl (by decide)).1 htells _ hsum
    exact absurd hdoubled (by decide)
  · refine (Dialect.Shows.tellsLiterals_iff (.bare (by simp)) rfl (by decide)).2 fun body hbody => ?_
    have hread : between? ['\''] ['\''] (trim "'it''s'".toList) = some "it''s".toList := by decide
    obtain hchars := Option.some.inj ((LiteralForm.bare_wraps_iff.1 hbody).symm.trans hread)
    rw [hchars]
    decide

end Shows

end PolySql

import PolySql.Column.TypeMap
import PolySql.Proofs.Inline.Names
import PolySql.Proofs.Text.Case
import PolySql.Proofs.Text.Pieces

namespace PolySql

open Number Text

theorem readNat?_map_toLower (t : List Char) : readNat? (t.map Char.toLower) = readNat? t := by
  have hall : (t.map Char.toLower).all Char.isDigit = t.all Char.isDigit := by
    rw [List.all_map]
    congr 1
    exact funext isDigit_toLower
  unfold readNat?
  rw [hall]
  simp only [ne_eq, List.map_eq_nil_iff]
  split
  · rename_i h
    have hdigits : ∀ c ∈ t, c.toLower = id c := fun c hc =>
      toLower_of_isDigit (List.all_eq_true.1 h.2 c hc)
    rw [List.map_congr_left hdigits, List.map_id]
  · rfl

theorem readUnsigned?_cons_of_ne {c : Char} (hc : c ≠ '+') (t : List Char) :
    readUnsigned? (c :: t) = readNat? (c :: t) := by
  unfold readUnsigned?
  split
  · rename_i h
    exact absurd (List.cons.inj h).1 hc
  · rfl

theorem readUnsigned?_map_toLower (t : List Char) :
    readUnsigned? (t.map Char.toLower) = readUnsigned? t := by
  cases t with
  | nil => rfl
  | cons c t =>
    by_cases hc : c = '+'
    · subst hc
      exact readNat?_map_toLower t
    · have hlower : c.toLower ≠ '+' := mt (toLower_eq_iff (by decide) c).1 hc
      rw [List.map_cons, readUnsigned?_cons_of_ne hlower, readUnsigned?_cons_of_ne hc,
        ← readNat?_map_toLower (c :: t)]
      rfl

theorem sizeArgument?_map_toLower (t : List Char) :
    sizeArgument? (t.map Char.toLower) = sizeArgument? t := by
  unfold sizeArgument? readUInt32?
  rw [trim_map_toLower, String.toList_ofList, String.toList_ofList, readUnsigned?_map_toLower]

theorem toLower_eq_comma (c : Char) : c.toLower = ',' ↔ c = ',' :=
  toLower_eq_iff (by decide) c

theorem typeArguments?_lower (s : String) :
    typeArguments? (lower s) = (typeArguments? s).map (List.map Char.toLower) := by
  unfold typeArguments?
  rw [toList_lower, cut?_map (toLower_eq_iff (by decide))]
  cases cut? '(' s.toList with
  | none => rfl
  | some p =>
    have hclosing : cut? ')' (p.2.map Char.toLower) = _ := cut?_map (toLower_eq_iff (by decide)) p.2
    simp only [Option.map_some, Option.bind_some, Prod.map_snd, hclosing, Option.map_map]
    rfl

theorem readLimit_lower (s : String) : readLimit (lower s) = readLimit s := by
  unfold readLimit
  rw [typeArguments?_lower, Option.bind_map]
  refine Option.bind_congr fun args _ => ?_
  simp only [Function.comp, mem_map_iff toLower_eq_comma, sizeArgument?_map_toLower]

theorem bind_pieces_lower (s : String) (i : Nat) :
    ((typeArguments? (lower s)).bind fun args => (pieces ',' args)[i]?.bind sizeArgument?) =
      (typeArguments? s).bind fun args => (pieces ',' args)[i]?.bind sizeArgument? := by
  rw [typeArguments?_lower, Option.bind_map]
  refine Option.bind_congr fun args _ => ?_
  simp only [Function.comp, pieces_map toLower_eq_comma, List.getElem?_map, Option.bind_map]
  exact Option.bind_congr fun piece _ => sizeArgument?_map_toLower piece

theorem readPrecision_lower (s : String) : readPrecision (lower s) = readPrecision s :=
  bind_pieces_lower s 0

theorem readScale_lower (s : String) : readScale (lower s) = readScale s :=
  bind_pieces_lower s 1

namespace ColumnType

def declaredAs (t : ColumnType) (sqlType : String) : ColumnType :=
  { t with sqlType := sqlType }

@[simp] theorem declaredAs_declaredAs (t : ColumnType) (s s' : String) :
    (t.declaredAs s).declaredAs s' = t.declaredAs s' :=
  rfl

@[simp] theorem declaredAs_plain (kind : TypeKind) (s s' : String) :
    (plain kind s).declaredAs s' = plain kind s' :=
  rfl

structure Agrees (t t' : ColumnType) : Prop where
  kind : t.kind = t'.kind
  limit : t.limit = t'.limit
  precision : t.precision = t'.precision
  scale : t.scale = t'.scale

theorem agrees_of_declaredAs_eq {t t' : ColumnType} {s : String}
    (h : t.declaredAs s = t'.declaredAs s) : t.Agrees t' := by
  injection h with hkind _ hlimit hprecision hscale
  exact ⟨hkind, hlimit, hprecision, hscale⟩

def IsCaseless (make : String → ColumnType) : Prop :=
  ∀ s, make s = (make (lower s)).declaredAs s

@[simp] theorem isCaseless_plain (kind : TypeKind) : IsCaseless (.plain kind) :=
  fun _ => rfl

@[simp] theorem isCaseless_withLimit (kind : TypeKind) : IsCaseless (.withLimit kind) := by
  intro s
  simp only [withLimit, readLimit_lower]
  rfl

@[simp] theorem isCaseless_withPrecision (kind : TypeKind) : IsCaseless (.withPrecision kind) := by
  intro s
  simp only [withPrecision, readPrecision_lower, readScale_lower]
  rfl

end ColumnType

open ColumnType

namespace TypeRule

def IsCaseless (r : TypeRule) : Prop :=
  ∀ make, r.target = .build make → ColumnType.IsCaseless make

variable {make : String → ColumnType}

theorem isCaseless_of_build {m : TypeMatcher} (h : ColumnType.IsCaseless make) :
    IsCaseless ⟨m, .build make⟩ := by
  rintro _ ⟨⟩
  exact h

@[simp] theorem isCaseless_exactly {name : String} (h : ColumnType.IsCaseless make) :
    (exactly name make).IsCaseless :=
  isCaseless_of_build h

@[simp] theorem isCaseless_fitting {fits : String → Bool} (h : ColumnType.IsCaseless make) :
    (fitting fits make).IsCaseless :=
  isCaseless_of_build h

@[simp] theorem isCaseless_aliasing {name target : String} : (aliasing name target).IsCaseless :=
  fun _ h => nomatch h

end TypeRule

namespace TypeMap

def IsCaseless (map : TypeMap) : Prop :=
  ∀ r ∈ map.rules, r.IsCaseless

variable {map : TypeMap}

theorem mem_rules_of_rule? {key : String} {r : TypeRule} (h : map.rule? key = some r) :
    r ∈ map.rules := by
  unfold rule? at h
  cases hnamed : map.rules.find? (TypeRule.isNamed key) with
  | some r' =>
    simp only [hnamed, Option.orElse_some, Option.some.injEq] at h
    exact h ▸ List.mem_of_find?_eq_some hnamed
  | none =>
    cases hfits : map.rules.find? (TypeRule.fits key) with
    | some r' =>
      simp only [hnamed, hfits, Option.orElse_none, Option.orElse_some, Option.some.injEq] at h
      exact h ▸ List.mem_of_find?_eq_some hfits
    | none =>
      simp only [hnamed, hfits, Option.orElse_none] at h
      split at h
      · cases h
      · exact List.mem_of_find?_eq_some h

theorem IsCaseless.lookupWithin_eq (h : map.IsCaseless) (depth : Nat) (s : String) :
    map.lookupWithin depth s =
      (map.lookupWithin depth (lower (trimmed s))).map (·.declaredAs (trimmed s)) := by
  cases depth with
  | zero => rfl
  | succ depth =>
    have hkey : trimmed (lower (trimmed s)) = lower (trimmed s) := by
      rw [trimmed_lower, trimmed_trimmed]
    simp only [lookupWithin, hkey, lower_lower]
    cases hrule : map.rule? (lower (trimmed s)) with
    | none => rfl
    | some r =>
      obtain ⟨matcher, target⟩ := r
      cases target with
      | build make =>
        exact congrArg some (h _ (mem_rules_of_rule? hrule) make rfl (trimmed s))
      | sameAs target =>
        simp only [Option.map_map]
        rfl

theorem IsCaseless.sqlType_of_lookupWithin (h : map.IsCaseless) {depth : Nat} {s : String} {t : ColumnType}
    (ht : map.lookupWithin depth s = some t) : t.sqlType = trimmed s := by
  rw [h.lookupWithin_eq] at ht
  obtain ⟨u, -, rfl⟩ := Option.map_eq_some_iff.1 ht
  rfl

theorem IsCaseless.declaredAs_lookupOrOther (h : map.IsCaseless) (s d : String) :
    (map.lookupOrOther s).declaredAs d = (map.lookupOrOther (lower (trimmed s))).declaredAs d := by
  unfold lookupOrOther lookup
  rw [h.lookupWithin_eq]
  cases map.lookupWithin longestChain (lower (trimmed s)) with
  | none => simp
  | some t => simp

end TypeMap

theorem exactNumber_eq (s : String) :
    SqlServer.exactNumber s =
      withPrecision (if (readScale s).getD 0 = 0 then .decimalWithoutScale else .decimal) s := by
  show (if (readScale s).getD 0 = 0 then _ else _) = _
  split <;> rfl

@[simp] theorem isCaseless_exactNumber : ColumnType.IsCaseless SqlServer.exactNumber := by
  intro s
  rw [exactNumber_eq, exactNumber_eq, readScale_lower]
  exact isCaseless_withPrecision _ s

@[simp] theorem isCaseless_bounded (kind : TypeKind) (n : UInt32) :
    ColumnType.IsCaseless (SqlServer.bounded kind n) :=
  fun _ => rfl

@[simp] theorem isCaseless_bytes (kind : TypeKind) (n : UInt32) :
    ColumnType.IsCaseless (Postgres.bytes kind n) :=
  fun _ => rfl

namespace Dialect.IsBuiltIn

variable {d : Dialect}

theorem isCaseless_typeMap (hd : d.IsBuiltIn) : d.typeMap.IsCaseless := by
  cases hd with
  | generic =>
    show Generic.typeMap.IsCaseless
    simp [TypeMap.IsCaseless, Generic.typeMap]
  | postgres =>
    show Postgres.typeMap.IsCaseless
    simp [TypeMap.IsCaseless, Postgres.typeMap]
  | sqlite =>
    show Sqlite.typeMap.IsCaseless
    simp [TypeMap.IsCaseless, Sqlite.typeMap]
  | db2 =>
    show Db2.typeMap.IsCaseless
    simp [TypeMap.IsCaseless, Db2.typeMap]
  | sqlServer zone =>
    show SqlServer.typeMap.IsCaseless
    simp [TypeMap.IsCaseless, SqlServer.typeMap]

theorem lookup_caseless (hd : d.IsBuiltIn) :
    (∀ {s s'}, lower (trimmed s) = lower (trimmed s') →
      (d.typeMap.lookupOrOther s).Agrees (d.typeMap.lookupOrOther s')) ∧
    ∀ {s t}, d.typeMap.lookup s = some t → t.sqlType = trimmed s := by
  have hmap := hd.isCaseless_typeMap
  constructor
  · intro s s' h
    refine agrees_of_declaredAs_eq (s := "") ?_
    rw [hmap.declaredAs_lookupOrOther s, hmap.declaredAs_lookupOrOther s', h]
  · intro s t ht
    exact hmap.sqlType_of_lookupWithin ht

theorem lookup_caseless_paddedAlias :
    SqlServer.dialect.IsBuiltIn ∧
    lower (trimmed "\tSTRING (12)\u00a0") = lower (trimmed "string (12)") ∧
    (SqlServer.typeMap.lookupOrOther "\tSTRING (12)\u00a0").Agrees
      (SqlServer.typeMap.lookupOrOther "string (12)") ∧
    ∃ t, SqlServer.typeMap.lookup "\tSTRING (12)\u00a0" = some t ∧ t.kind = .string ∧
      t.sqlType = "STRING (12)" := by
  have hd : SqlServer.dialect.IsBuiltIn := .sqlServer .utc
  have hsame : lower (trimmed "\tSTRING (12)\u00a0") = lower (trimmed "string (12)") := by decide
  have hfound : (SqlServer.typeMap.lookup "\tSTRING (12)\u00a0").map (·.kind) = some .string := by
    decide +kernel
  obtain ⟨t, ht, hkind⟩ := Option.map_eq_some_iff.1 hfound
  have htext : trimmed "\tSTRING (12)\u00a0" = "STRING (12)" := by decide
  exact ⟨hd, hsame, hd.lookup_caseless.1 hsame, t, ht, hkind,
    (hd.lookup_caseless.2 ht).trans htext⟩

end Dialect.IsBuiltIn

end PolySql

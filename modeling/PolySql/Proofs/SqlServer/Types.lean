import PolySql.Proofs.Column.Declaration
import PolySql.SqlServer.Dialect

namespace PolySql.SqlServer

open Number Text Calendar ColumnType TypeRule

theorem looksAtName_of_mem : ∀ r ∈ typeMap.rules, r.LooksAtName := by
  simp [typeMap]

def speltArguments : List (String × String) :=
  [("varchar", "max"), ("nvarchar", "max"), ("nvarchar", "4000"), ("varbinary", "max")]

theorem not_mem_spellings {name args : String} (hname : '(' ∉ name.toList)
    (h : (name, args) ∉ speltArguments) : applied name args ∉ typeMap.spellings := by
  have hspelt : ∀ s ∈ typeMap.spellings, '(' ∈ s.toList →
      s ∈ speltArguments.map fun p => applied p.1 p.2 := by
    decide +kernel
  intro hmem
  obtain ⟨p, hp, heq⟩ := List.mem_map.1 (hspelt _ hmem (by simp [toList_applied]))
  have hfirst : ∀ p ∈ speltArguments, '(' ∉ p.1.toList := by decide
  obtain ⟨hn, ha⟩ := (applied_inj (hfirst p hp) hname).1 heq
  exact h (by rw [← hn, ← ha]; exact hp)

theorem not_mem_speltArguments {name : String} {n : Nat} (h : name = "nvarchar" → n ≠ 4000) :
    (name, natText n) ∉ speltArguments := by
  have hmax : natText n ≠ "max" := by
    intro heq
    refine not_mem_natText (c := 'm') rfl n ?_
    rw [heq]
    decide
  have hlong : natText n = "4000" → n = 4000 := fun heq => natText_injective (n := 4000) heq
  simp only [speltArguments, List.mem_cons, Prod.mk.injEq, hmax, and_false, List.not_mem_nil, or_false,
    false_or, not_and]
  exact fun hname heq => h hname (hlong heq)

section Number
variable {name : String} {n : Nat} (hname : IsTypeName name) (h : name = "nvarchar" → n ≠ 4000)
include hname h

theorem rule?_number : typeMap.rule? (applied name (natText n)) = typeMap.rule? (applied name (natText 0)) :=
  TypeMap.rule?_applied looksAtName_of_mem hname
    ((opensWithNumber_natText n).trans (opensWithNumber_natText 0).symm)
    (not_mem_spellings hname.not_mem (not_mem_speltArguments h))
    (not_mem_spellings hname.not_mem (not_mem_speltArguments fun _ => by decide))

theorem lookupWithin_number_of_build {make : String → ColumnType} (depth : Nat)
    (hrule : (typeMap.rule? (applied name (natText 0))).map (·.target) = some (.build make)) :
    typeMap.lookupWithin (depth + 1) (applied name (natText n)) =
      some (make (applied name (natText n))) :=
  TypeMap.lookupWithin_of_build hname (lower_natText n) depth (rule?_number hname h ▸ hrule)

theorem lookupWithin_number_of_sameAs {target : String} (depth : Nat)
    (hrule : (typeMap.rule? (applied name (natText 0))).map (·.target) = some (.sameAs target)) :
    typeMap.lookupWithin (depth + 1) (applied name (natText n)) =
      (typeMap.lookupWithin depth (applied target (natText n))).map
        (·.declaredAs (applied name (natText n))) :=
  TypeMap.lookupWithin_of_sameAs hname (lower_natText n) depth (rule?_number hname h ▸ hrule)

end Number

def limitedTypes : List (String × String × TypeKind) :=
  [("string", "nvarchar", .string), ("varchar", "varchar", .string), ("char", "char", .string),
    ("nchar", "nchar", .string), ("varbinary", "varbinary", .binary), ("binary_basic", "binary", .binary)]

def fractionalTypes : List (String × String × TypeKind) :=
  [("datetime", "datetime2", .dateTime), ("time", "time", .time)]

section Sized
variable {logical native : String} {kind : TypeKind}

theorem lookup_limited (h : (logical, native, kind) ∈ limitedTypes) (n : Nat) :
    typeMap.lookup (applied native (natText n)) =
      some { ColumnType.plain kind (applied native (natText n)) with limit := sizeOf? n } := by
  have hname : ∀ p ∈ limitedTypes, IsTypeName p.2.1 := by decide
  have hrule : (typeMap.rule? (applied native (natText 0))).map (·.target) =
      some (.build (.withLimit kind)) := by
    simp only [limitedTypes, List.mem_cons, List.not_mem_nil, or_false, Prod.mk.injEq] at h
    rcases h with ⟨-, rfl, rfl⟩ | ⟨-, rfl, rfl⟩ | ⟨-, rfl, rfl⟩ | ⟨-, rfl, rfl⟩ | ⟨-, rfl, rfl⟩ |
      ⟨-, rfl, rfl⟩
    all_goals rfl
  by_cases hlong : native = "nvarchar" ∧ n = 4000
  · obtain ⟨rfl, rfl⟩ := hlong
    obtain ⟨-, rfl⟩ : logical = "string" ∧ kind = .string := by
      simpa [limitedTypes] using h
    decide +kernel
  · rw [TypeMap.lookup, TypeMap.longestChain,
      lookupWithin_number_of_build (hname _ h) (fun hn hn' => hlong ⟨hn, hn'⟩) 8 hrule, withLimit,
      readLimit_applied (hname _ h).not_mem]

theorem lookup_fractional (h : (logical, native, kind) ∈ fractionalTypes) (n : Nat) :
    typeMap.lookup (applied native (natText n)) =
      some { ColumnType.plain kind (applied native (natText n)) with precision := sizeOf? n } := by
  have hname : ∀ p ∈ fractionalTypes, IsTypeName p.2.1 ∧ p.2.1 ≠ "nvarchar" := by decide
  obtain ⟨htype, hlong⟩ := hname _ h
  have hrule : (typeMap.rule? (applied native (natText 0))).map (·.target) =
      some (.build (.withPrecision kind)) := by
    simp only [fractionalTypes, List.mem_cons, List.not_mem_nil, or_false, Prod.mk.injEq] at h
    rcases h with ⟨-, rfl, rfl⟩ | ⟨-, rfl, rfl⟩
    all_goals rfl
  rw [TypeMap.lookup, TypeMap.longestChain,
    lookupWithin_number_of_build htype (fun hn => absurd hn hlong) 8 hrule, withPrecision,
    readPrecision_applied htype.not_mem, readScale_applied htype.not_mem]
  rfl

end Sized

def exactKind (scale : UInt32) : TypeKind :=
  if scale = 0 then .decimalWithoutScale else .decimal

theorem lookup_decimal (p s : UInt32) :
    typeMap.lookup (applied "decimal" (pairText p.toNat s.toNat)) =
      some ⟨exactKind s, applied "decimal" (pairText p.toNat s.toNat), none, some p, some s⟩ := by
  have hname : IsTypeName "decimal" := by decide
  have hspelt (args : String) : applied "decimal" args ∉ typeMap.spellings :=
    not_mem_spellings hname.not_mem (by simp [speltArguments])
  have hrule : (typeMap.rule? (applied "decimal" (pairText p.toNat s.toNat))).map (·.target) =
      some (.build exactNumber) := by
    have hopen : opensWithNumber (pairText p.toNat s.toNat) = opensWithNumber "," :=
      opensWithNumber_pair p.toNat s.toNat
    rw [TypeMap.rule?_applied looksAtName_of_mem hname hopen (hspelt _) (hspelt _)]
    rfl
  rw [TypeMap.lookup, TypeMap.longestChain,
    TypeMap.lookupWithin_of_build hname (lower_pairText p.toNat s.toNat) 8 hrule, exactNumber_eq,
    withPrecision, readPrecision_pair hname.not_mem, readScale_pair hname.not_mem, sizeOf?_toNat,
    sizeOf?_toNat]
  rfl

section Written
variable {logical native : String} {kind : TypeKind} {o : TypeOptions} {n p s : UInt32}

theorem typeToSql_limited (h : (logical, native, kind) ∈ limitedTypes) (hlimit : o.limit = some n)
    (hprecision : o.precision = none) (hn : logical = "string" → n ≠ maxStringLimit) :
    typeToSql logical o = .ok (applied native (sizeText n)) := by
  have hbounded : (logical == "string" && o.limit == some maxStringLimit) = false := by
    simpa [hlimit] using hn
  have hrender (t : NativeType) (ht : '(' ∉ t.name.toList) : t.render o = applied t.name (sizeText n) := by
    rw [NativeType.render, if_neg ht, hprecision, hlimit]
    rfl
  have hsql : nativeTypes.toSql logical o = applied native (sizeText n) := by
    simp only [limitedTypes, List.mem_cons, List.not_mem_nil, or_false, Prod.mk.injEq] at h
    rcases h with ⟨rfl, rfl, -⟩ | ⟨rfl, rfl, -⟩ | ⟨rfl, rfl, -⟩ | ⟨rfl, rfl, -⟩ | ⟨rfl, rfl, -⟩ |
      ⟨rfl, rfl, -⟩
    all_goals exact hrender _ (by decide)
  have hlogical : ∀ p ∈ limitedTypes, p.1 ∉ ["integer", "uniqueidentifier", "datetime", "time"] ∧
      p.1 ∉ unsizedTypes := by
    decide
  obtain ⟨hother, hsized⟩ := hlogical _ h
  simp only [List.mem_cons, List.not_mem_nil, or_false, not_or] at hother
  simp [typeToSql, hbounded, hother, hsized, hsql]

theorem typeToSql_fractional (h : (logical, native, kind) ∈ fractionalTypes) (hprecision : o.precision = some p) :
    typeToSql logical o = fractionalType native p := by
  simp only [fractionalTypes, List.mem_cons, List.not_mem_nil, or_false, Prod.mk.injEq] at h
  rcases h with ⟨rfl, rfl, -⟩ | ⟨rfl, rfl, -⟩
  all_goals simp [typeToSql, hprecision]; rfl

theorem typeToSql_decimal (hprecision : o.precision = some p) (hscale : o.scale = some s) :
    typeToSql "decimal" o = .ok (applied "decimal" (pairText p.toNat s.toNat)) := by
  have hrender : (NativeType.mk "decimal" none).render o =
      applied "decimal" (pairText p.toNat s.toNat) := by
    rw [NativeType.render, if_neg (by decide), hprecision, hscale]
    simp [applied, pairText, sizeText, String.append_assoc]
  rw [← hrender]
  rfl

theorem typeToSql_integer (o : TypeOptions) : typeToSql "integer" o = .ok (integerOfBytes o.limit) := by
  simp [typeToSql]

end Written

theorem lookup_integerOfBytes (limit : Option UInt32) :
    typeMap.lookup (integerOfBytes limit) =
      some (if limit.getD 4 ∈ [1, 2, 4] then bounded .integer (limit.getD 4) (integerOfBytes limit)
        else bounded .bigInteger 8 (integerOfBytes limit)) := by
  cases limit with
  | none => decide +kernel
  | some n =>
    by_cases hn : n ∈ [1, 2, 4]
    · simp only [List.mem_cons, List.not_mem_nil, or_false] at hn
      rcases hn with rfl | rfl | rfl
      all_goals decide +kernel
    · have hsql : integerOfBytes (some n) = "bigint" := by
        simp only [List.mem_cons, List.not_mem_nil, or_false, not_or] at hn
        simp [integerOfBytes, hn]
      rw [Option.getD_some, if_neg hn, hsql]
      rfl

inductive Asks (o : TypeOptions) : String → TypeKind → Option UInt32 → Option UInt32 → Option UInt32 → Prop
  | limited {logical native : String} {kind : TypeKind} {n : UInt32}
      (h : (logical, native, kind) ∈ limitedTypes) (hlimit : o.limit = some n)
      (hprecision : o.precision = none) (hn : logical = "string" → n ≠ maxStringLimit) :
      Asks o logical kind (some n) none none
  | text (hlimit : o.limit = some maxStringLimit) : Asks o "string" .text none none none
  | decimal {p s : UInt32} (hprecision : o.precision = some p) (hscale : o.scale = some s) :
      Asks o "decimal" (exactKind s) none (some p) (some s)
  | fractional {logical native : String} {kind : TypeKind} {p : UInt32}
      (h : (logical, native, kind) ∈ fractionalTypes) (hprecision : o.precision = some p)
      (hp : p ≤ maxTimePrecision) : Asks o logical kind none (some p) none
  | integer (hn : o.limit.getD 4 ∈ [1, 2, 4]) : Asks o "integer" .integer (some (o.limit.getD 4)) none none
  | bigInteger (hn : o.limit.getD 4 ∉ [1, 2, 4]) : Asks o "integer" .bigInteger (some 8) none none

theorem lookup_typeToSql {o : TypeOptions} {logical : String} {kind : TypeKind}
    {limit precision scale : Option UInt32} (h : Asks o logical kind limit precision scale) :
    ∃ sql, typeToSql logical o = .ok sql ∧
      typeMap.lookup sql = some ⟨kind, sql, limit, precision, scale⟩ := by
  cases h with
  | limited h hlimit hprecision hn =>
    refine ⟨_, typeToSql_limited h hlimit hprecision hn, ?_⟩
    rw [sizeText, lookup_limited h, sizeOf?_toNat]
    rfl
  | text hlimit =>
    refine ⟨"nvarchar(max)", ?_, by decide +kernel⟩
    simp [typeToSql, hlimit]
  | decimal hprecision hscale =>
    exact ⟨_, typeToSql_decimal hprecision hscale, lookup_decimal _ _⟩
  | fractional h hprecision hp =>
    refine ⟨_, (typeToSql_fractional h hprecision).trans (if_neg (UInt32.not_lt.2 hp)), ?_⟩
    exact (lookup_fractional h _).trans (by rw [sizeOf?_toNat]; rfl)
  | integer hn =>
    refine ⟨_, typeToSql_integer o, ?_⟩
    rw [lookup_integerOfBytes, if_pos hn]
    rfl
  | bigInteger hn =>
    refine ⟨_, typeToSql_integer o, ?_⟩
    rw [lookup_integerOfBytes, if_neg hn]
    rfl

theorem lookupType_typeToSql (zone : Timezone) (collation : String) (o : TypeOptions) :
    (∀ {logical kind limit precision scale}, Asks o logical kind limit precision scale →
      ∃ sql, (dialectWith zone collation).typeToSql logical o = .ok sql ∧
        (dialectWith zone collation).lookupType sql = some ⟨kind, sql, limit, precision, scale⟩) ∧
    ∀ {logical native kind p}, (logical, native, kind) ∈ fractionalTypes → o.precision = some p →
      maxTimePrecision < p →
      ∃ message, (dialectWith zone collation).typeToSql logical o = .error (.invalidArgument message) := by
  constructor
  · intro logical kind limit precision scale h
    exact lookup_typeToSql h
  · intro logical native kind p h hprecision hp
    exact ⟨_, (typeToSql_fractional h hprecision).trans (if_pos hp)⟩

theorem lookupType_typeToSql_longString :
    Asks ⟨some 4000000000, none, none⟩ "string" .string (some 4000000000) none none ∧
    (∃ sql, dialect.typeToSql "string" ⟨some 4000000000, none, none⟩ = .ok sql ∧
      dialect.lookupType sql = some ⟨.string, sql, some 4000000000, none, none⟩) ∧
    ("time", "time", TypeKind.time) ∈ fractionalTypes ∧ maxTimePrecision < 8 ∧
    ∃ message, dialect.typeToSql "time" ⟨none, some 8, none⟩ = .error (.invalidArgument message) := by
  have hstring : ("string", "nvarchar", TypeKind.string) ∈ limitedTypes := by decide
  have hasked : Asks ⟨some 4000000000, none, none⟩ "string" .string (some 4000000000) none none :=
    .limited hstring rfl rfl (by decide)
  have htime : ("time", "time", TypeKind.time) ∈ fractionalTypes := by decide
  exact ⟨hasked, (lookupType_typeToSql _ _ _).1 hasked, htime, by decide,
    (lookupType_typeToSql _ _ _).2 htime rfl (by decide)⟩

end PolySql.SqlServer

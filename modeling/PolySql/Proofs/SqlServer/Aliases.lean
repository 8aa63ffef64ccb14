import PolySql.Proofs.SqlServer.Types

namespace PolySql

open Number Text

section Twice
variable {name args : String}

theorem applied_applied (name args args' : String) :
    applied (applied name args) args' = applied name (args ++ ")(" ++ args') := by
  rw [← String.toList_inj, toList_applied, toList_applied, toList_applied]
  simp [String.toList_append]

theorem toList_append_closed (args args' : String) :
    (args ++ ")(" ++ args').toList ++ [')'] = args.toList ++ ')' :: '(' :: (args'.toList ++ [')']) := by
  simp [String.toList_append]

theorem typeArguments?_append (h : '(' ∉ name.toList) (hargs : ')' ∉ args.toList) (args' : String) :
    typeArguments? (applied name (args ++ ")(" ++ args')) = some args.toList := by
  rw [typeArguments?, cut?_applied h, Option.bind_some, toList_append_closed, cut?_append hargs]
  rfl

theorem opensWithNumber_append (args args' : String) :
    opensWithNumber (args ++ ")(" ++ args') = opensWithNumber args := by
  rw [opensWithNumber, opensWithNumber, toList_append_closed]
  cases args.toList with
  | nil => rfl
  | cons c t =>
    simp only [List.cons_append, TypePattern.afterDigits?, List.dropWhile_append]
    cases isDecimalDigit c with
    | false => rfl
    | true => cases t.dropWhile isDecimalDigit <;> rfl

end Twice

namespace TypeMap

def aliases (map : TypeMap) : List (String × String) :=
  map.rules.filterMap fun r =>
    match r.matcher, r.target with
    | .exact name, .sameAs target => some (name, target)
    | _, _ => none

def PassesSize (map : TypeMap) (name target : String) (n : Nat) : Prop :=
  ∀ t, map.lookup (applied (typeBase target) (natText n)) = some t →
    (t.limit.map UInt32.toNat = some n → ∃ u, map.lookup (applied name (natText n)) = some u ∧
      u.kind = t.kind ∧ u.limit.map UInt32.toNat = some n) ∧
    (t.precision.map UInt32.toNat = some n → ∃ u, map.lookup (applied name (natText n)) = some u ∧
      u.kind = t.kind ∧ u.precision.map UInt32.toNat = some n)

section PassesSize
variable {map : TypeMap} {name target base : String} {n : Nat} {t u : ColumnType}

theorem passesSize_of_agrees (hbase : typeBase target = base)
    (ht : map.lookup (applied base (natText n)) = some t)
    (hu : map.lookup (applied name (natText n)) = some u) (h : u.Agrees t) :
    map.PassesSize name target n := by
  subst hbase
  intro t' ht'
  obtain rfl : t = t' := Option.some.inj (ht.symm.trans ht')
  exact ⟨fun hlimit => ⟨u, hu, h.kind, h.limit ▸ hlimit⟩,
    fun hprecision => ⟨u, hu, h.kind, h.precision ▸ hprecision⟩⟩

theorem passesSize_of_typeBase_eq (h : typeBase target = name) : map.PassesSize name target n := by
  subst h
  intro t ht
  exact ⟨fun hlimit => ⟨t, ht, rfl, hlimit⟩, fun hprecision => ⟨t, ht, rfl, hprecision⟩⟩

theorem passesSize_limit_iff (hbase : typeBase target = base)
    (ht : map.lookup (applied base (natText n)) = some t) (hlimit : t.limit = sizeOf? n)
    (hprecision : t.precision = none) :
    map.PassesSize name target n ↔
      (n < UInt32.size → ∃ u, map.lookup (applied name (natText n)) = some u ∧ u.kind = t.kind ∧
        u.limit.map UInt32.toNat = some n) := by
  subst hbase
  have hsize : t.limit.map UInt32.toNat = some n ↔ n < UInt32.size := by
    rw [hlimit, toNat_sizeOf?]
  constructor
  · intro h hn
    exact (h t ht).1 (hsize.2 hn)
  · intro h t' ht'
    obtain rfl : t = t' := Option.some.inj (ht.symm.trans ht')
    refine ⟨fun hn => h (hsize.1 hn), fun hn => ?_⟩
    rw [hprecision] at hn
    cases hn

end PassesSize

end TypeMap

namespace SqlServer

open ColumnType

variable {name target : String}

def plainAliases : List (String × String) :=
  [("int identity", "int"), ("bigint identity", "bigint"), ("integer", "int"), ("double", "float"),
    ("boolean", "bit")]

theorem passesSize_of_rules {make : String → ColumnType} (n : Nat) (hname : IsTypeName name)
    (htarget : IsTypeName target) (hne : name ≠ "nvarchar" ∧ target ≠ "nvarchar")
    (hrule : (typeMap.rule? (applied name (natText 0))).map (·.target) = some (.sameAs target))
    (htype : (typeMap.rule? (applied target (natText 0))).map (·.target) = some (.build make)) :
    typeMap.PassesSize name target n := by
  have hbuild (depth : Nat) : typeMap.lookupWithin (depth + 1) (applied target (natText n)) =
      some (make (applied target (natText n))) :=
    lookupWithin_number_of_build htarget (fun heq => absurd heq hne.2) depth htype
  have halias : typeMap.lookup (applied name (natText n)) =
      some ((make (applied target (natText n))).declaredAs (applied name (natText n))) := by
    rw [TypeMap.lookup, TypeMap.longestChain,
      lookupWithin_number_of_sameAs hname (fun heq => absurd heq hne.1) 8 hrule, hbuild 7]
    rfl
  have hbase : typeBase target = target := by
    rw [typeBase, cut?_eq_none htarget.not_mem]
  exact TypeMap.passesSize_of_agrees hbase (hbuild 8) halias ⟨rfl, rfl, rfl, rfl⟩

theorem passesSize_plainAlias (h : (name, target) ∈ plainAliases) (n : Nat) :
    typeMap.PassesSize name target n := by
  simp only [plainAliases, List.mem_cons, List.not_mem_nil, or_false, Prod.mk.injEq] at h
  rcases h with ⟨rfl, rfl⟩ | ⟨rfl, rfl⟩ | ⟨rfl, rfl⟩ | ⟨rfl, rfl⟩ | ⟨rfl, rfl⟩
  all_goals exact passesSize_of_rules n (by decide) (by decide) (by decide) rfl rfl

theorem not_mem_speltArguments_append (name args args' : String) :
    (name, args ++ ")(" ++ args') ∉ speltArguments := by
  have hspelt : ∀ p ∈ speltArguments, '(' ∉ p.2.toList := by decide
  exact fun h => hspelt _ h (by simp [String.toList_append])

theorem rule?_append {args args' : String} (hname : IsTypeName name) (other : String)
    (hargs : opensWithNumber args = opensWithNumber other) (hother : (name, other) ∉ speltArguments) :
    typeMap.rule? (applied name (args ++ ")(" ++ args')) = typeMap.rule? (applied name other) :=
  TypeMap.rule?_applied looksAtName_of_mem hname ((opensWithNumber_append args args').trans hargs)
    (not_mem_spellings hname.not_mem (not_mem_speltArguments_append name args args'))
    (not_mem_spellings hname.not_mem hother)

theorem lower_append_natText {args : String} (hargs : lower args = args) (n : Nat) :
    lower (args ++ ")(" ++ natText n) = args ++ ")(" ++ natText n := by
  have hclosing : lower ")(" = ")(" := by decide
  rw [lower_append, lower_append, lower_natText, hargs, hclosing]

theorem lookup_string (n : Nat) : typeMap.lookup (applied "string" (natText n)) =
    some (bounded .string 4000 (applied "string" (natText n))) := by
  have hname : IsTypeName "nvarchar" := by decide
  have halias : (typeMap.rule? (applied "string" (natText 0))).map (·.target) =
      some (.sameAs "nvarchar(4000)") := rfl
  have htarget : applied "nvarchar(4000)" (natText n) = applied "nvarchar" ("4000" ++ ")(" ++ natText n) :=
    applied_applied "nvarchar" "4000" (natText n)
  have hrule : (typeMap.rule? (applied "nvarchar" ("4000" ++ ")(" ++ natText n))).map (·.target) =
      some (.build (.withLimit .string)) := by
    rw [rule?_append hname "0" (by decide) (by decide)]
    rfl
  have hlimit : readLimit (applied "nvarchar" ("4000" ++ ")(" ++ natText n)) = some 4000 := by
    rw [readLimit, typeArguments?_append hname.not_mem (by decide)]
    decide
  rw [TypeMap.lookup, TypeMap.longestChain, lookupWithin_number_of_sameAs (by decide) (by simp) 8 halias,
    htarget, TypeMap.lookupWithin_of_build hname (lower_append_natText (by decide) n) 7 hrule, withLimit,
    hlimit]
  rfl

theorem lookup_blob (n : Nat) : typeMap.lookup (applied "blob" (natText n)) = none := by
  have hname : IsTypeName "varbinary" := by decide
  have halias : (typeMap.rule? (applied "blob" (natText 0))).map (·.target) =
      some (.sameAs "varbinary(max)") := rfl
  have htarget : applied "varbinary(max)" (natText n) = applied "varbinary" ("max" ++ ")(" ++ natText n) :=
    applied_applied "varbinary" "max" (natText n)
  have hrule : typeMap.rule? (applied "varbinary" ("max" ++ ")(" ++ natText n)) = none := by
    rw [rule?_append hname "" (by decide) (by decide)]
    rfl
  rw [TypeMap.lookup, TypeMap.longestChain, lookupWithin_number_of_sameAs (by decide) (by simp) 8 halias,
    htarget, TypeMap.lookupWithin_of_none hname (lower_append_natText (by decide) n) 7 hrule]
  rfl

theorem passesSize_iff (h : (name, target) ∈ typeMap.aliases) (n : Nat) :
    typeMap.PassesSize name target n ↔
      (n < UInt32.size → name ≠ "blob" ∧ (name = "string" → n = 4000)) := by
  have halias : ∀ p ∈ typeMap.aliases, p ∈ plainAliases ∨ typeBase p.2 = p.1 ∧ p.1 ∉ ["blob", "string"] ∨
      p ∈ [("binary", "varbinary(max)"), ("string", "nvarchar(4000)"), ("blob", "varbinary(max)")] := by
    decide +kernel
  have hpasses (hpass : typeMap.PassesSize name target n) (hname : name ∉ ["blob", "string"]) :
      typeMap.PassesSize name target n ↔
        (n < UInt32.size → name ≠ "blob" ∧ (name = "string" → n = 4000)) := by
    simp only [List.mem_cons, List.not_mem_nil, or_false, not_or] at hname
    exact iff_of_true hpass fun _ => ⟨hname.1, fun h => absurd h hname.2⟩
  have hbytes : ("varbinary", "varbinary", TypeKind.binary) ∈ limitedTypes := by decide
  have hstring : ("string", "nvarchar", TypeKind.string) ∈ limitedTypes := by decide
  rcases halias _ h with h | ⟨h, hname⟩ | h
  · have hname : ∀ p ∈ plainAliases, p.1 ∉ ["blob", "string"] := by decide
    exact hpasses (passesSize_plainAlias h n) (hname _ h)
  · exact hpasses (TypeMap.passesSize_of_typeBase_eq h) hname
  · simp only [List.mem_cons, List.not_mem_nil, or_false, Prod.mk.injEq] at h
    rcases h with ⟨rfl, rfl⟩ | ⟨rfl, rfl⟩ | ⟨rfl, rfl⟩
    · have hbinary : ("binary_basic", "binary", TypeKind.binary) ∈ limitedTypes := by decide
      have hpass : typeMap.PassesSize "binary" "varbinary(max)" n :=
        TypeMap.passesSize_of_agrees (by decide) (lookup_limited hbytes n) (lookup_limited hbinary n)
          ⟨rfl, rfl, rfl, rfl⟩
      exact hpasses hpass (by decide)
    · rw [TypeMap.passesSize_limit_iff (by decide) (lookup_limited hstring n) rfl rfl, lookup_string]
      refine forall_congr' fun _ => ⟨?_, ?_⟩
      · rintro ⟨u, hu, -, hn⟩
        obtain rfl := Option.some.inj hu
        exact ⟨by decide, fun _ => (Option.some.inj hn).symm⟩
      · rintro ⟨-, hn⟩
        exact ⟨_, rfl, rfl, by rw [hn rfl]; rfl⟩
    · rw [TypeMap.passesSize_limit_iff (by decide) (lookup_limited hbytes n) rfl rfl, lookup_blob]
      simp

theorem passesSize_iff_shortString :
    ("string", "nvarchar(4000)") ∈ typeMap.aliases ∧
    typeMap.lookup "nvarchar(50)" = some (bounded .string 50 "nvarchar(50)") ∧
    typeMap.lookup "string(50)" = some (bounded .string 4000 "string(50)") ∧
    ¬ typeMap.PassesSize "string" "nvarchar(4000)" 50 := by
  have halias : ("string", "nvarchar(4000)") ∈ typeMap.aliases := by decide +kernel
  refine ⟨halias, by decide +kernel, by decide +kernel, fun h => ?_⟩
  exact absurd (((passesSize_iff halias 50).1 h (by decide)).2 rfl) (by decide)

end SqlServer

end PolySql

import Mathlib.Data.List.Find
import PolySql.Column.Pattern
import PolySql.Proofs.Column.TypeMap

namespace PolySql

open Number Text

def applied (name args : String) : String :=
  name ++ "(" ++ args ++ ")"

structure IsTypeName (name : String) : Prop where
  not_mem : '(' ∉ name.toList
  lower_eq : lower name = name
  ne_empty : name ≠ ""
  trimmed_eq : trimmed name = name

instance (name : String) : Decidable (IsTypeName name) :=
  decidable_of_iff ('(' ∉ name.toList ∧ lower name = name ∧ name ≠ "" ∧ trimmed name = name)
    ⟨fun ⟨h, h', h'', h'''⟩ => ⟨h, h', h'', h'''⟩, fun h => ⟨h.1, h.2, h.3, h.4⟩⟩

section Parts
variable {name name' args args' : String}

theorem toList_applied (name args : String) :
    (applied name args).toList = name.toList ++ '(' :: (args.toList ++ [')']) := by
  simp [applied, String.toList_append]

theorem cut?_applied (h : '(' ∉ name.toList) (args : String) :
    cut? '(' (applied name args).toList = some (name.toList, args.toList ++ [')']) := by
  rw [toList_applied, cut?_append h]

theorem applied_inj (h : '(' ∉ name.toList) (h' : '(' ∉ name'.toList) :
    applied name args = applied name' args' ↔ name = name' ∧ args = args' := by
  constructor
  · intro heq
    have hcut := cut?_applied h args
    rw [heq, cut?_applied h'] at hcut
    obtain ⟨hname, hargs⟩ := Prod.mk.inj (Option.some.inj hcut)
    exact ⟨String.toList_inj.1 hname.symm, String.toList_inj.1 (List.append_cancel_right hargs).symm⟩
  · rintro ⟨rfl, rfl⟩
    rfl

theorem IsTypeName.hasBareEnds (h : IsTypeName name) : HasBareEnds name.toList :=
  hasBareEnds_of_trimmed_eq h.ne_empty h.trimmed_eq

theorem typeBase_applied (h : IsTypeName name) : typeBase (applied name args) = name := by
  have hend : trimEnd name.toList = name.toList :=
    trimEnd_of_getLast? h.hasBareEnds.getLast?
  rw [typeBase, cut?_applied h.not_mem]
  simp only [hend, String.ofList_toList]

theorem typeSuffix_applied (h : '(' ∉ name.toList) :
    typeSuffix (applied name args) = "(" ++ args ++ ")" := by
  have hname : ∀ c ∈ name.toList, (c != '(') = true := fun c hc => by
    simpa using ne_of_mem_of_not_mem hc h
  rw [typeSuffix, toList_applied, List.dropWhile_append_of_pos hname, List.dropWhile_cons_of_neg (by simp),
    ← String.toList_inj, String.toList_ofList]
  simp [String.toList_append]

theorem trimmed_applied (h : IsTypeName name) : trimmed (applied name args) = applied name args := by
  have hclosing : HasBareEnds [')'] := hasBareEnds_of_all (by simp) (by decide)
  have htext : (applied name args).toList = name.toList ++ ('(' :: args.toList) ++ [')'] := by
    rw [toList_applied]
    simp
  rw [trimmed, htext, (h.hasBareEnds.append hclosing _).trim_eq, ← htext, String.ofList_toList]

theorem lower_applied (h : IsTypeName name) (hargs : lower args = args) :
    lower (applied name args) = applied name args := by
  rw [← String.toList_inj, toList_lower, toList_applied, List.map_append, List.map_cons, List.map_append,
    ← toList_lower, ← toList_lower, h.lower_eq, hargs]
  rfl

theorem typeArguments?_applied (h : '(' ∉ name.toList) (hargs : ')' ∉ args.toList) :
    typeArguments? (applied name args) = some args.toList := by
  rw [typeArguments?, cut?_applied h, Option.bind_some, cut?_append hargs]
  rfl

end Parts

def pairText (p q : Nat) : String :=
  natText p ++ "," ++ natText q

theorem toList_pairText (p q : Nat) :
    (pairText p q).toList = (natText p).toList ++ ',' :: (natText q).toList := by
  simp [pairText, String.toList_append]

def sizeOf? (n : Nat) : Option UInt32 :=
  if n < UInt32.size then some (UInt32.ofNat n) else none

theorem sizeOf?_toNat (n : UInt32) : sizeOf? n.toNat = some n := by
  rw [sizeOf?, if_pos n.toNat_lt, UInt32.ofNat_toNat]

theorem toNat_sizeOf? (n : Nat) : (sizeOf? n).map UInt32.toNat = some n ↔ n < UInt32.size := by
  unfold sizeOf?
  split
  · next h => simp [h]
  · next h => simp [h]

theorem lower_natText (n : Nat) : lower (natText n) = natText n := by
  have hdigits : ∀ c ∈ Nat.toDigits 10 n, c.toLower = id c := fun c hc =>
    toLower_of_isDigit (Nat.isDigit_of_mem_toDigits (by decide) (by decide) hc)
  rw [lower, natText, String.toList_ofList, List.map_congr_left hdigits, List.map_id]

theorem lower_pairText (p q : Nat) : lower (pairText p q) = pairText p q := by
  rw [pairText, lower_append, lower_append, lower_natText, lower_natText]
  rfl

theorem sizeArgument?_natText (n : Nat) :
    sizeArgument? (natText n).toList = sizeOf? n := by
  have hdigits := isDigits_toDigits n
  have hread : readUnsigned? (Nat.toDigits 10 n) = some n := by
    have hplus : '+' ∉ Nat.toDigits 10 n := by
      simpa [natText] using not_mem_natText (c := '+') rfl n
    cases hchars : Nat.toDigits 10 n with
    | nil => exact absurd hchars hdigits.ne_nil
    | cons c t =>
      rw [hchars, List.mem_cons, not_or] at hplus
      rw [readUnsigned?_cons_of_ne (Ne.symm hplus.1), ← hchars, readNat?_toDigits]
  have htrim : trim (natText n).toList = Nat.toDigits 10 n := by
    rw [natText, String.toList_ofList]
    refine trim_of_all (List.all_eq_true.2 fun c hc => ?_)
    simp [not_isBlank_of_isDigit (List.all_eq_true.1 hdigits.all c hc)]
  rw [sizeArgument?, htrim, readUInt32?, String.toList_ofList, hread]
  rfl

section Numbers
variable {name : String}

theorem readLimit_applied (h : '(' ∉ name.toList) (n : Nat) :
    readLimit (applied name (natText n)) = sizeOf? n := by
  rw [readLimit, typeArguments?_applied h (not_mem_natText rfl n), Option.bind_some,
    if_neg (not_mem_natText rfl n), sizeArgument?_natText]

theorem readPrecision_applied (h : '(' ∉ name.toList) (n : Nat) :
    readPrecision (applied name (natText n)) = sizeOf? n := by
  rw [readPrecision, typeArguments?_applied h (not_mem_natText rfl n), Option.bind_some,
    pieces_of_not_mem (not_mem_natText rfl n), List.getElem?_cons_zero, Option.bind_some,
    sizeArgument?_natText]

theorem readScale_applied (h : '(' ∉ name.toList) (n : Nat) :
    readScale (applied name (natText n)) = none := by
  rw [readScale, typeArguments?_applied h (not_mem_natText rfl n), Option.bind_some,
    pieces_of_not_mem (not_mem_natText rfl n)]
  rfl

theorem typeArguments?_pair (h : '(' ∉ name.toList) (p q : Nat) :
    typeArguments? (applied name (pairText p q)) = some (pairText p q).toList := by
  refine typeArguments?_applied h ?_
  rw [toList_pairText, List.mem_append, List.mem_cons, not_or, not_or]
  exact ⟨not_mem_natText rfl p, by decide, not_mem_natText rfl q⟩

theorem pieces_pair (p q : Nat) :
    pieces ',' (pairText p q).toList = [(natText p).toList, (natText q).toList] := by
  rw [toList_pairText, pieces_append, pieces_of_not_mem (not_mem_natText rfl p),
    pieces_of_not_mem (not_mem_natText rfl q)]
  rfl

theorem readPrecision_pair (h : '(' ∉ name.toList) (p q : Nat) :
    readPrecision (applied name (pairText p q)) = sizeOf? p := by
  rw [readPrecision, typeArguments?_pair h, Option.bind_some, pieces_pair, List.getElem?_cons_zero,
    Option.bind_some, sizeArgument?_natText]

theorem readScale_pair (h : '(' ∉ name.toList) (p q : Nat) :
    readScale (applied name (pairText p q)) = sizeOf? q := by
  rw [readScale, typeArguments?_pair h, Option.bind_some, pieces_pair, List.getElem?_cons_succ,
    List.getElem?_cons_zero, Option.bind_some, sizeArgument?_natText]

end Numbers

def opensWithNumber (args : String) : Bool :=
  match TypePattern.afterDigits? (args.toList ++ [')']) with
  | some (c :: _) => c == ')'
  | _ => false

theorem afterDigits?_natText {c : Char} (hc : isDecimalDigit c = false) (n : Nat) (t : List Char) :
    TypePattern.afterDigits? ((natText n).toList ++ c :: t) = some (c :: t) := by
  have hdigits := isDigits_toDigits n
  have hdecimal : ∀ c ∈ Nat.toDigits 10 n, isDecimalDigit c = true := fun c hc =>
    isDecimalDigit_of_isDigit (List.all_eq_true.1 hdigits.all c hc)
  rw [natText, String.toList_ofList]
  cases hchars : Nat.toDigits 10 n with
  | nil => exact absurd hchars hdigits.ne_nil
  | cons d u =>
    rw [hchars] at hdecimal
    obtain ⟨hd, hu⟩ := List.forall_mem_cons.1 hdecimal
    rw [List.cons_append, TypePattern.afterDigits?, if_pos hd, List.dropWhile_append_of_pos hu,
      List.dropWhile_cons_of_neg (by simp [hc])]

theorem opensWithNumber_natText (n : Nat) : opensWithNumber (natText n) = true := by
  rw [opensWithNumber, afterDigits?_natText (by decide)]
  rfl

theorem opensWithNumber_pair (p q : Nat) : opensWithNumber (pairText p q) = false := by
  rw [opensWithNumber, toList_pairText, List.append_assoc, List.cons_append,
    afterDigits?_natText (by decide)]
  rfl

section Patterns
variable {name args args' n : String}

theorem startsWith_applied (hn : '(' ∉ n.toList) :
    startsWith (applied name args) n = startsWith name n := by
  rw [Bool.eq_iff_iff, startsWith_iff, startsWith_iff, toList_applied]
  refine ⟨fun h => ?_, fun h => h.trans (List.prefix_append ..)⟩
  rcases List.prefix_or_prefix_of_prefix h (List.prefix_append ..) with h' | ⟨w, hw⟩
  · exact h'
  · cases w with
    | nil => exact ⟨[], by rw [← hw, List.append_nil, List.append_nil]⟩
    | cons c w =>
      rw [← hw, List.prefix_append_right_inj] at h
      obtain rfl := (List.cons_prefix_cons.1 h).1
      exact absurd (hw ▸ List.mem_append_right _ (List.mem_cons_self ..)) hn

theorem sized_applied (hname : '(' ∉ name.toList) (hn : '(' ∉ n.toList) :
    TypePattern.sized n (applied name args) = (n == name && opensWithNumber args) := by
  unfold TypePattern.sized
  by_cases h : n = name
  · subst h
    have hdrop : dropPrefix? (n.toList ++ ['(']) (applied n args).toList = some (args.toList ++ [')']) := by
      rw [dropPrefix?_eq_some_iff, toList_applied, List.append_assoc]
      rfl
    rw [hdrop, Option.bind_some, beq_self_eq_true, Bool.true_and]
    rfl
  · have hdrop : dropPrefix? (n.toList ++ ['(']) (applied name args).toList = none := by
      refine Option.eq_none_iff_forall_ne_some.2 fun u hu => h ?_
      rw [dropPrefix?_eq_some_iff, List.append_assoc] at hu
      have hcut := cut?_applied hname args
      rw [hu, List.singleton_append, cut?_append hn] at hcut
      exact String.toList_inj.1 (Prod.mk.inj (Option.some.inj hcut)).1
    rw [hdrop, beq_eq_false_iff_ne.2 h]
    rfl

end Patterns

namespace TypeRule

def LooksAtName (r : TypeRule) : Prop :=
  ∀ {name args args' : String}, '(' ∉ name.toList → opensWithNumber args = opensWithNumber args' →
    r.fits (applied name args) = r.fits (applied name args')

variable {make : String → ColumnType}

@[simp] theorem looksAtName_exactly {n : String} : (exactly n make).LooksAtName :=
  fun _ _ => rfl

@[simp] theorem looksAtName_aliasing {n target : String} : (aliasing n target).LooksAtName :=
  fun _ _ => rfl

@[simp] theorem looksAtName_opensWith {ns : List String} (h : ∀ n ∈ ns, '(' ∉ n.toList) :
    (fitting (TypePattern.opensWith ns) make).LooksAtName := by
  intro name args args' _ _
  show TypePattern.opensWith ns _ = TypePattern.opensWith ns _
  unfold TypePattern.opensWith
  rw [Bool.eq_iff_iff, List.any_eq_true, List.any_eq_true]
  refine exists_congr fun n => and_congr_right fun hn => ?_
  rw [startsWith_applied (h n hn), startsWith_applied (h n hn)]

@[simp] theorem looksAtName_sized {n : String} (h : '(' ∉ n.toList) :
    (fitting (TypePattern.sized n) make).LooksAtName := by
  intro name args args' hname hargs
  show TypePattern.sized n _ = TypePattern.sized n _
  rw [sized_applied hname h, sized_applied hname h, hargs]

end TypeRule

namespace TypeMap

variable {map : TypeMap} {name args args' : String}

def spellings (map : TypeMap) : List String :=
  map.rules.filterMap fun r =>
    match r.matcher with
    | .exact name => some name
    | .pattern _ => none

theorem find?_isNamed_eq_none {key : String} (h : key ∉ map.spellings) :
    map.rules.find? (TypeRule.isNamed key) = none := by
  refine List.find?_eq_none.2 fun r hr hnamed => h (List.mem_filterMap.2 ⟨r, hr, ?_⟩)
  obtain ⟨matcher, target⟩ := r
  cases matcher with
  | exact name => exact congrArg some (beq_iff_eq.1 hnamed)
  | pattern fits => cases hnamed

theorem rule?_applied (hmap : ∀ r ∈ map.rules, r.LooksAtName) (hname : IsTypeName name)
    (hargs : opensWithNumber args = opensWithNumber args') (h : applied name args ∉ map.spellings)
    (h' : applied name args' ∉ map.spellings) :
    map.rule? (applied name args) = map.rule? (applied name args') := by
  have hfits : map.rules.find? (TypeRule.fits (applied name args)) =
      map.rules.find? (TypeRule.fits (applied name args')) :=
    List.find?_congr fun r hr => hmap r hr hname.not_mem hargs
  have hown (args : String) : ¬ name = applied name args := by
    intro h
    refine hname.not_mem ?_
    rw [h, toList_applied]
    simp
  unfold rule?
  simp only [find?_isNamed_eq_none h, find?_isNamed_eq_none h', hfits, typeBase_applied hname,
    if_neg (hown args), if_neg (hown args')]

section Lookup
variable (hname : IsTypeName name) (hargs : lower args = args) (depth : Nat)
include hname hargs

theorem lookupWithin_of_none (hrule : map.rule? (applied name args) = none) :
    map.lookupWithin (depth + 1) (applied name args) = none := by
  rw [lookupWithin]
  simp only [trimmed_applied hname, lower_applied hname hargs, hrule]

theorem lookupWithin_of_build {make : String → ColumnType}
    (hrule : (map.rule? (applied name args)).map (·.target) = some (.build make)) :
    map.lookupWithin (depth + 1) (applied name args) = some (make (applied name args)) := by
  obtain ⟨r, hr, htarget⟩ := Option.map_eq_some_iff.1 hrule
  rw [lookupWithin]
  simp only [trimmed_applied hname, lower_applied hname hargs, hr, htarget]

theorem lookupWithin_of_sameAs {target : String}
    (hrule : (map.rule? (applied name args)).map (·.target) = some (.sameAs target)) :
    map.lookupWithin (depth + 1) (applied name args) =
      (map.lookupWithin depth (applied target args)).map (·.declaredAs (applied name args)) := by
  obtain ⟨r, hr, htarget⟩ := Option.map_eq_some_iff.1 hrule
  have harguments : target ++ ("(" ++ args ++ ")") = applied target args := by
    simp [applied, String.append_assoc]
  rw [lookupWithin]
  simp only [trimmed_applied hname, lower_applied hname hargs, hr, htarget,
    typeSuffix_applied hname.not_mem, harguments]
  rfl

end Lookup

end TypeMap

end PolySql

import PolySql.Column.Type

namespace PolySql

open Text

inductive TypeMatcher where
  | exact (name : String)
  | pattern (fits : String → Bool)

inductive TypeTarget where
  | build (make : String → ColumnType)
  | sameAs (name : String)

structure TypeRule where
  matcher : TypeMatcher
  target : TypeTarget

structure TypeMap where
  rules : List TypeRule

namespace TypeRule

def exactly (name : String) (make : String → ColumnType) : TypeRule :=
  ⟨.exact (lower name), .build make⟩

def fitting (fits : String → Bool) (make : String → ColumnType) : TypeRule :=
  ⟨.pattern fits, .build make⟩

def aliasing (name target : String) : TypeRule :=
  ⟨.exact (lower name), .sameAs (lower target)⟩

def isNamed (name : String) (r : TypeRule) : Bool :=
  match r.matcher with
  | .exact n => n == name
  | .pattern _ => false

def fits (key : String) (r : TypeRule) : Bool :=
  match r.matcher with
  | .exact _ => false
  | .pattern p => p key

end TypeRule

def typeBase (key : String) : String :=
  match cut? '(' key.toList with
  | some (name, _) => String.ofList (trimEnd name)
  | none => key

def typeSuffix (key : String) : String :=
  String.ofList (key.toList.dropWhile (· != '('))

namespace TypeMap

def rule? (map : TypeMap) (key : String) : Option TypeRule :=
  let base := typeBase key
  ((map.rules.find? (TypeRule.isNamed key)).orElse fun _ =>
    map.rules.find? (TypeRule.fits key)).orElse fun _ =>
      if base = key then none else map.rules.find? (TypeRule.isNamed base)

def lookupWithin (map : TypeMap) : Nat → String → Option ColumnType
  | 0, _ => none
  | depth + 1, sqlType =>
    let name := trimmed sqlType
    let key := lower name
    match map.rule? key with
    | none => none
    | some r =>
      match r.target with
      | .build make => some (make name)
      | .sameAs target =>
        (map.lookupWithin depth (target ++ typeSuffix key)).map ({ · with sqlType := name })

def longestChain : Nat := 9

def lookup (map : TypeMap) (sqlType : String) : Option ColumnType :=
  map.lookupWithin longestChain sqlType

def lookupOrOther (map : TypeMap) (sqlType : String) : ColumnType :=
  (map.lookup sqlType).getD (.plain .other sqlType)

end TypeMap

end PolySql

import PolySql.Column.Type

namespace PolySql

open Number

structure NativeType where
  name : String
  limit : Option UInt32
  deriving DecidableEq, Repr

abbrev NativeTypes := List (String × NativeType)

namespace NativeTypes

def sized (logical name : String) (limit : UInt32) : String × NativeType :=
  (logical, ⟨name, some limit⟩)

def plain (logical name : String) : String × NativeType :=
  (logical, ⟨name, none⟩)

def get? (types : NativeTypes) (logical : String) : Option NativeType :=
  (types.find? fun p => p.1 == logical).map (·.2)

end NativeTypes

structure TypeOptions where
  limit : Option UInt32
  precision : Option UInt32
  scale : Option UInt32
  deriving DecidableEq, Repr

def TypeOptions.none : TypeOptions := ⟨.none, .none, .none⟩

def sizeText (n : UInt32) : String :=
  natText n.toNat

def NativeType.render (t : NativeType) (o : TypeOptions) : String :=
  if '(' ∈ t.name.toList then t.name
  else
    match o.precision, o.scale with
    | some p, some s => t.name ++ "(" ++ sizeText p ++ "," ++ sizeText s ++ ")"
    | some p, none => t.name ++ "(" ++ sizeText p ++ ")"
    | none, _ =>
      match o.limit.or t.limit with
      | some n => t.name ++ "(" ++ sizeText n ++ ")"
      | none => t.name

def NativeTypes.toSql (types : NativeTypes) (logical : String) (o : TypeOptions) : String :=
  match types.get? logical with
  | some t => t.render o
  | none => logical

end PolySql

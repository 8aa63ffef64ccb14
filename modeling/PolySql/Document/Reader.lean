import PolySql.Document.Json
import PolySql.Text.Cut
import PolySql.Text.Hex

namespace PolySql.Json

open Text

abbrev Reader (α : Type) := List Char → Option (α × List Char)

def isSpace (c : Char) : Bool :=
  c == ' ' || c == '\n' || c == '\t' || c == '\r'

def skip (t : List Char) : List Char :=
  t.dropWhile isSpace

def readUnit : Reader Nat
  | a :: b :: c :: d :: r => do
    let a ← hexValue? a
    let b ← hexValue? b
    let c ← hexValue? c
    let d ← hexValue? d
    return (((a * 16 + b) * 16 + c) * 16 + d, r)
  | _ => none

def escaped? (c : Char) : Option Char :=
  if c = '"' ∨ c = '\\' ∨ c = '/' then some c
  else if c = 'b' then some '\x08'
  else if c = 'f' then some '\x0c'
  else if c = 'n' then some '\n'
  else if c = 'r' then some '\r'
  else if c = 't' then some '\t'
  else none

inductive Item where
  | char (c : Char)
  | high (n : Nat)
  | low (n : Nat)

def Item.ofUnit (n : Nat) : Item :=
  if 0xd800 ≤ n ∧ n ≤ 0xdbff then .high (n - 0xd800)
  else if 0xdc00 ≤ n ∧ n ≤ 0xdfff then .low (n - 0xdc00)
  else .char (Char.ofNat n)

def readItems : Nat → Reader (List Item)
  | 0, _ => none
  | fuel + 1, t =>
    match t with
    | [] => none
    | '"' :: r => some ([], r)
    | '\\' :: 'u' :: r => do
      let (n, r) ← readUnit r
      let (items, r) ← readItems fuel r
      return (Item.ofUnit n :: items, r)
    | '\\' :: c :: r => do
      let x ← escaped? c
      let (items, r) ← readItems fuel r
      return (Item.char x :: items, r)
    | c :: r =>
      if c.toNat < 0x20 ∨ c = '\\' then none
      else do
        let (items, r) ← readItems fuel r
        return (Item.char c :: items, r)

def join? : List Item → Option (List Char)
  | [] => some []
  | .char c :: rest => (join? rest).map (c :: ·)
  | .high a :: .low b :: rest => (join? rest).map (Char.ofNat (0x10000 + a * 1024 + b) :: ·)
  | .high _ :: _ => none
  | .low _ :: _ => none

def readString : Reader (Option String) := fun t =>
  (readItems (t.length + 1) t).map fun p => ((join? p.1).map String.ofList, p.2)

def digits? (t : List Char) : Option (List Char × List Char) :=
  let ds := t.takeWhile Char.isDigit
  if ds = [] then none else some (ds, t.dropWhile Char.isDigit)

def readWhole : Reader (List Char) := fun t => do
  let (ds, r) ← digits? t
  if ds.head? = some '0' ∧ ds.length > 1 then none else some (ds, r)

def readFraction : Reader (List Char)
  | '.' :: t => (digits? t).map fun p => ('.' :: p.1, p.2)
  | t => some ([], t)

def readExponent : Reader (List Char)
  | [] => some ([], [])
  | c :: t =>
    if c = 'e' ∨ c = 'E' then
      match t with
      | '+' :: r => (digits? r).map fun p => (c :: '+' :: p.1, p.2)
      | '-' :: r => (digits? r).map fun p => (c :: '-' :: p.1, p.2)
      | r => (digits? r).map fun p => (c :: p.1, p.2)
    else some ([], c :: t)

def readSign : List Char → List Char × List Char
  | '-' :: t => (['-'], t)
  | t => ([], t)

def readNumber : Reader (List Char) := fun t => do
  let (sign, t) := readSign t
  let (whole, t) ← readWhole t
  let (fraction, t) ← readFraction t
  let (exponent, t) ← readExponent t
  return (sign ++ whole ++ fraction ++ exponent, t)

def readWord (word : String) (j : Json) : Reader Json := fun t =>
  (dropPrefix? word.toList t).map fun r => (j, r)

mutual

def readValue : Nat → Reader Json
  | 0, _ => none
  | fuel + 1, t =>
    match skip t with
    | 'n' :: r => readWord "ull" .null r
    | 't' :: r => readWord "rue" (.bool true) r
    | 'f' :: r => readWord "alse" (.bool false) r
    | '"' :: r => (readString r).map fun p => (.string p.1, p.2)
    | '[' :: r =>
      match skip r with
      | ']' :: r => some (.array [], r)
      | r => (readElements fuel r).map fun p => (.array p.1, p.2)
    | '{' :: r =>
      match skip r with
      | '}' :: r => some (.object [], r)
      | r => (readEntries fuel r).map fun p => (.object p.1, p.2)
    | r => (readNumber r).map fun p => (.number p.1, p.2)

def readElements : Nat → Reader (List Json)
  | 0, _ => none
  | fuel + 1, t => do
    let (j, r) ← readValue fuel t
    match skip r with
    | ']' :: r => some ([j], r)
    | ',' :: r => (readElements fuel r).map fun p => (j :: p.1, p.2)
    | _ => none

def readEntries : Nat → Reader (List (Option String × Json))
  | 0, _ => none
  | fuel + 1, t => do
    let (key, r) ←
      match skip t with
      | '"' :: r => readString r
      | _ => none
    let r ←
      match skip r with
      | ':' :: r => some r
      | _ => none
    let (j, r) ← readValue fuel r
    match skip r with
    | '}' :: r => some ([(key, j)], r)
    | ',' :: r => (readEntries fuel r).map fun p => ((key, j) :: p.1, p.2)
    | _ => none

end

def read? (s : String) : Option Json :=
  let t := s.toList
  match readValue (2 * t.length + 2) t with
  | some (j, r) => if skip r = [] then some j else none
  | none => none

end PolySql.Json

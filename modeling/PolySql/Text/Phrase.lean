import PolySql.Text.Cut

namespace PolySql.Text

def foldCase (c : Char) : Char :=
  if c = '\u212a' then 'k' else if c = '\u017f' then 's' else c.toLower

def sameLetter (p c : Char) : Bool :=
  p == foldCase c

def keyword? (word : String) (t : List Char) : Option (List Char) :=
  dropPrefixBy? sameLetter word.toList t

def afterFirstBy? (same : Char → Char → Bool) (p : List Char) : List Char → Option (List Char)
  | [] => dropPrefixBy? same p []
  | c :: cs =>
    match dropPrefixBy? same p (c :: cs) with
    | some rest => some rest
    | none => afterFirstBy? same p cs

def inOrder (same : Char → Char → Bool) : List (List Char) → List Char → Bool
  | [], _ => true
  | w :: ws, t =>
    match afterFirstBy? same w t with
    | some rest => inOrder same ws rest
    | none => false

structure Phrase where
  words : List String
  ignoreCase : Bool
  acrossLines : Bool
  deriving Repr, DecidableEq

namespace Phrase

def same (p : Phrase) : Char → Char → Bool :=
  if p.ignoreCase then sameLetter else (· == ·)

def stretches (p : Phrase) (t : List Char) : List (List Char) :=
  if p.acrossLines then [t] else pieces '\n' t

def occursIn (p : Phrase) (s : String) : Bool :=
  (p.stretches s.toList).any (inOrder p.same (p.words.map String.toList))

def literal (s : String) : Phrase :=
  ⟨[s], false, true⟩

def exact (words : List String) : Phrase :=
  ⟨words, false, false⟩

def anyCase (words : List String) : Phrase :=
  ⟨words, true, false⟩

end Phrase

end PolySql.Text

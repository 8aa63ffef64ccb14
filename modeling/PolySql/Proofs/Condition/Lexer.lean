import PolySql.Proofs.Arithmetic.Column
import PolySql.Proofs.Condition.Reader

namespace PolySql

open Text

namespace Condition

def reserved : List (String × Lexeme) :=
  [("AND", .and), ("OR", .or), ("NOT", .not), ("IS", .is), ("IN", .within), ("BETWEEN", .between),
    ("LIKE", .comparison .like), ("=", .comparison .eq), ("<>", .comparison .notEq),
    ("<", .comparison .lt), ("<=", .comparison .ltEq), (">", .comparison .gt),
    (">=", .comparison .gtEq), ("1=0", .constant false), ("1=1", .constant true)]

def reserved? (w : String) : Option Lexeme :=
  reserved.lookup (upper w)

def wordLexemes (w : List Char) : List Lexeme :=
  if w.isEmpty then [] else [(reserved? (String.ofList w)).getD (.operand (String.ofList w))]

inductive Region where
  | outside
  | inside (close : Char)
  | closed (close : Char)

def Region.isInside : Region → Bool
  | inside _ => true
  | _ => false

structure Scanner where
  region : Region
  depth : Nat
  word : List Char

namespace Scanner

def start : Scanner := ⟨.outside, 0, []⟩

def isCallee (s : Scanner) : Bool :=
  !s.word.isEmpty && (reserved? (String.ofList s.word)).isNone

def endsAt (s : Scanner) (c : Char) : Bool :=
  !s.region.isInside && s.depth == 0 &&
    (c == ' ' || c == ',' || c == ')' || c == '(' && !s.isCallee)

end Scanner

def breakLexemes (c : Char) : List Lexeme :=
  if c = '(' then [.opening] else if c = ')' then [.closing] else if c = ',' then [.comma] else []

def depthBehind (depth : Nat) (c : Char) : Nat :=
  if c = '(' then depth + 1 else if c = ')' then depth - 1 else depth

end Condition

open Condition

namespace Dialect

variable (d : Dialect)

def closing? (c : Char) : Option Char :=
  if c = '\'' then some '\'' else if c = d.openingQuote then some d.closingQuote else none

def opened (c : Char) : Region :=
  (d.closing? c).elim .outside .inside

def nextRegion : Region → Char → Region
  | .outside, c => d.opened c
  | .inside close, c => if c = close then .closed close else .inside close
  | .closed close, c => if c = close then .inside close else d.opened c

def advance (s : Scanner) (c : Char) : Scanner :=
  ⟨d.nextRegion s.region c, if s.region.isInside then s.depth else depthBehind s.depth c,
    s.word ++ [c]⟩

def lexemesFrom (s : Scanner) : List Char → List Lexeme
  | [] => wordLexemes s.word
  | c :: t =>
    if s.endsAt c then wordLexemes s.word ++ breakLexemes c ++ lexemesFrom .start t
    else lexemesFrom (d.advance s c) t

def lexemes (t : List Char) : List Lexeme :=
  d.lexemesFrom .start t

def condition? (s : String) : Option Condition :=
  read? (d.lexemes s.toList)

inductive Scans : Scanner → List Char → Scanner → Prop
  | nil (s : Scanner) : Scans s [] s
  | cons {s s' : Scanner} {c : Char} {t : List Char} :
    s.endsAt c = false → Scans (d.advance s c) t s' → Scans s (c :: t) s'

end Dialect

namespace Condition

def Region.IsShut (r : Region) : Prop :=
  r = .outside ∨ ∃ close ∈ ['\'', '"', ']'], r = .closed close

def isDivider (c : Char) : Bool :=
  [' ', ',', '(', ')'].contains c

def isSeparator (c : Char) : Bool :=
  isDivider c || c == '.'

def isBare (c : Char) : Bool :=
  !isDivider c && c ∉ ['\'', '"', '[']

def IsBehindWord (t : List Char) : Prop :=
  ∀ c ∈ t.head?, c = ' ' ∨ c = ',' ∨ c = ')'

end Condition

namespace Dialect

def Spans (d : Dialect) (depth depth' : Nat) (w t : List Char) : Prop :=
  ∃ r : Region, r.IsShut ∧ d.Scans ⟨.outside, depth, w⟩ t ⟨r, depth', w ++ t⟩

def LexesTo (d : Dialect) (s : String) (xs : List Lexeme) : Prop :=
  ∀ rest, IsBehindWord rest → d.lexemes (s.toList ++ rest) = xs ++ d.lexemes rest

variable {d : Dialect} {s s' s'' : Scanner} {t u w rest : List Char} {depth depth' depth'' : Nat}
  {c : Char}

theorem Scans.append (h : d.Scans s t s') (h' : d.Scans s' u s'') : d.Scans s (t ++ u) s'' := by
  induction h with
  | nil => exact h'
  | cons hc _ ih => exact .cons hc (ih h')

theorem Scans.lexemesFrom (h : d.Scans s t s') :
    d.lexemesFrom s (t ++ rest) = d.lexemesFrom s' rest := by
  induction h with
  | nil => rfl
  | cons hc _ ih => rw [List.cons_append, Dialect.lexemesFrom, hc, ← ih]; rfl

theorem spans_nil (depth : Nat) (w : List Char) : d.Spans depth depth w [] :=
  ⟨.outside, .inl rfl, by simpa using Scans.nil _⟩

theorem opened_eq_outside (hd : d.QuotesPlainly) (hc : c ∉ ['\'', '"', '[']) :
    d.opened c = .outside := by
  have hquote : c ≠ '\'' ∧ c ≠ '"' ∧ c ≠ '[' := by simpa using hc
  rcases hd with ⟨hopen, -⟩ | ⟨hopen, -⟩ <;> simp [opened, closing?, hopen, hquote]

theorem opened_of_isSeparator (hd : d.QuotesPlainly) (hc : isSeparator c = true) :
    d.opened c = .outside := by
  refine opened_eq_outside hd ?_
  have hall : (['\'', '"', '['].all fun k => !isSeparator k) = true := rfl
  intro hquote
  have hno := List.all_eq_true.1 hall c hquote
  rw [hc] at hno
  cases hno

theorem advance_of_isShut (hd : d.QuotesPlainly) {r : Region} (hr : r.IsShut)
    (hc : isSeparator c = true) :
    d.advance ⟨r, depth, w⟩ c = ⟨.outside, depthBehind depth c, w ++ [c]⟩ := by
  rcases hr with rfl | ⟨close, hclose, rfl⟩
  · simp [advance, nextRegion, opened_of_isSeparator hd hc, Region.isInside]
  · have hall : (['\'', '"', ']'].all fun k => !isSeparator k) = true := rfl
    have hne : c ≠ close := by
      rintro rfl
      have hno := List.all_eq_true.1 hall _ hclose
      rw [hc] at hno
      cases hno
    simp [advance, nextRegion, opened_of_isSeparator hd hc, Region.isInside, hne]

theorem depthBehind_of_not_isDivider (hc : isDivider c = false) : depthBehind depth c = depth := by
  have hne : c ≠ '(' ∧ c ≠ ')' := by
    constructor <;> (rintro rfl; cases hc)
  rw [depthBehind, if_neg hne.1, if_neg hne.2]

theorem endsAt_of_not_isDivider (hc : isDivider c = false) : s.endsAt c = false := by
  have hne : c ≠ ' ' ∧ c ≠ ',' ∧ c ≠ ')' ∧ c ≠ '(' := by
    refine ⟨?_, ?_, ?_, ?_⟩ <;> (rintro rfl; cases hc)
  simp [Scanner.endsAt, hne]

theorem scans_of_isBare (hd : d.QuotesPlainly) (h : t.all isBare = true) :
    d.Scans ⟨.outside, depth, w⟩ t ⟨.outside, depth, w ++ t⟩ := by
  induction t generalizing w with
  | nil => simpa using Scans.nil _
  | cons c t ih =>
    rw [List.all_cons, Bool.and_eq_true] at h
    have hc := h.1
    rw [isBare, Bool.and_eq_true, Bool.not_eq_true', decide_eq_true_iff] at hc
    have hadvance : d.advance ⟨.outside, depth, w⟩ c = ⟨.outside, depth, w ++ [c]⟩ := by
      simp [advance, nextRegion, opened_eq_outside hd hc.2, Region.isInside,
        depthBehind_of_not_isDivider hc.1]
    refine .cons (endsAt_of_not_isDivider hc.1) ?_
    rw [hadvance, List.append_cons w c t]
    exact ih h.2

theorem spans_of_isBare (hd : d.QuotesPlainly) (h : t.all isBare = true) :
    d.Spans depth depth w t :=
  ⟨.outside, .inl rfl, scans_of_isBare hd h⟩

theorem Spans.bare_append (hd : d.QuotesPlainly) (ht : t.all isBare = true)
    (hu : d.Spans depth depth' (w ++ t) u) : d.Spans depth depth' w (t ++ u) := by
  obtain ⟨r, hr, hu⟩ := hu
  refine ⟨r, hr, (scans_of_isBare hd ht).append ?_⟩
  simpa using hu

theorem scans_double {close : Char} (hclose : isDivider close = false) (v t : List Char) :
    d.Scans ⟨.inside close, depth, v⟩ (double close t ++ [close])
      ⟨.closed close, depth, v ++ (double close t ++ [close])⟩ := by
  have hin (c : Char) (v : List Char) : Scanner.endsAt ⟨.inside close, depth, v⟩ c = false := by
    simp [Scanner.endsAt, Region.isInside]
  have hdepth : depthBehind depth close = depth := depthBehind_of_not_isDivider hclose
  induction t generalizing v with
  | nil =>
    refine .cons (hin close v) ?_
    simpa [advance, nextRegion, Region.isInside, double] using Scans.nil _
  | cons c t ih =>
    unfold double
    split
    · rename_i hc
      subst hc
      -- The first of the two quotes closes the region, and the second one opens it again.
      refine .cons (hin c v) (.cons (endsAt_of_not_isDivider hclose) ?_)
      simpa [advance, nextRegion, Region.isInside, hdepth] using ih (v ++ [c, c])
    · rename_i hc
      refine .cons (hin c v) ?_
      simpa [advance, nextRegion, Region.isInside, hc] using ih (v ++ [c])

theorem spans_quoted {opening close : Char} (hopening : d.closing? opening = some close)
    (hopen : isDivider opening = false) (hclose : close ∈ ['\'', '"', ']']) (t : List Char) :
    d.Spans depth depth w (opening :: (double close t ++ [close])) := by
  have hbare : isDivider close = false := by
    have hall : (['\'', '"', ']'].all fun k => !isDivider k) = true := rfl
    simpa using List.all_eq_true.1 hall _ hclose
  have hadvance : d.advance ⟨.outside, depth, w⟩ opening =
      ⟨.inside close, depth, w ++ [opening]⟩ := by
    simp [advance, nextRegion, opened, hopening, Region.isInside, depthBehind_of_not_isDivider hopen]
  refine ⟨.closed close, .inr ⟨close, hclose, rfl⟩, .cons (endsAt_of_not_isDivider hopen) ?_⟩
  rw [hadvance, List.append_cons w opening (double close t ++ [close])]
  exact scans_double hbare _ t

theorem Spans.separated (hd : d.QuotesPlainly) (hc : isSeparator c = true)
    (hend : Scanner.endsAt ⟨.outside, depth', w ++ t⟩ c = false) (ht : d.Spans depth depth' w t)
    (hu : d.Spans (depthBehind depth' c) depth'' (w ++ t ++ [c]) u) :
    d.Spans depth depth'' w (t ++ c :: u) := by
  obtain ⟨r, hr, ht⟩ := ht
  obtain ⟨r', hr', hu⟩ := hu
  refine ⟨r', hr', ht.append (.cons ?_ ?_)⟩
  · rcases hr with rfl | ⟨close, -, rfl⟩ <;> exact hend
  · rw [advance_of_isShut hd hr hc]
    simpa using hu

theorem Spans.inside (hd : d.QuotesPlainly) (hc : isSeparator c = true) (hdepth : depth' ≠ 0)
    (ht : d.Spans depth depth' w t) (hu : d.Spans (depthBehind depth' c) depth'' (w ++ t ++ [c]) u) :
    d.Spans depth depth'' w (t ++ c :: u) :=
  ht.separated hd hc (by simp [Scanner.endsAt, hdepth]) hu

theorem wordLexemes_of_reserved {v : String} {x : Lexeme} (h : (v, x) ∈ reserved) :
    wordLexemes v.toList = [x] := by
  have hall : ∀ p ∈ reserved, wordLexemes p.1.toList = [p.2] := by
    simp only [reserved, List.forall_mem_cons, List.not_mem_nil, false_imp_iff, implies_true,
      and_true]
    exact ⟨rfl, rfl, rfl, rfl, rfl, rfl, rfl, rfl, rfl, rfl, rfl, rfl, rfl, rfl, rfl⟩
  exact hall _ h

theorem lexemesFrom_behindWord {r : Region} (hr : r.IsShut) (h : IsBehindWord rest) :
    d.lexemesFrom ⟨r, 0, w⟩ rest = wordLexemes w ++ d.lexemes rest := by
  cases rest with
  | nil => exact (List.append_nil _).symm
  | cons c t =>
    have hend (v : List Char) (r : Region) (hr : r.IsShut) : Scanner.endsAt ⟨r, 0, v⟩ c = true := by
      have hc := h c rfl
      rcases hr with rfl | ⟨close, -, rfl⟩ <;> rcases hc with rfl | rfl | rfl <;> rfl
    rw [lexemes, lexemesFrom, lexemesFrom, hend w r hr, Scanner.start, hend [] .outside (.inl rfl)]
    simp [wordLexemes]

theorem lexesTo_word {v : String} (h : d.Spans 0 0 [] v.toList) :
    d.LexesTo v (wordLexemes v.toList) := by
  obtain ⟨r, hr, h⟩ := h
  intro rest hrest
  exact h.lexemesFrom.trans (lexemesFrom_behindWord hr hrest)

theorem lexesTo_reserved (hd : d.QuotesPlainly) {v : String} {x : Lexeme}
    (h : (v, x) ∈ reserved) : d.LexesTo v [x] := by
  have hbare : reserved.all (fun p => p.1.toList.all isBare) = true := rfl
  rw [← wordLexemes_of_reserved h]
  exact lexesTo_word (spans_of_isBare hd (List.all_eq_true.1 hbare _ h))

variable {a b : String} {xs ys : List Lexeme}

theorem lexemes_divider (hc : isDivider c = true) :
    d.lexemes (c :: t) = breakLexemes c ++ d.lexemes t := by
  have hend : Scanner.start.endsAt c = true := by
    have hdivider : c = ' ' ∨ c = ',' ∨ c = '(' ∨ c = ')' := by simpa [isDivider] using hc
    rcases hdivider with rfl | rfl | rfl | rfl <;> rfl
  rw [lexemes, lexemesFrom, hend]
  rfl

theorem lexemes_blank : d.lexemes (' ' :: t) = d.lexemes t :=
  lexemes_divider rfl

theorem LexesTo.lexemes_eq (h : d.LexesTo a xs) : d.lexemes a.toList = xs := by
  have hlex := h [] (by rintro c ⟨⟩)
  simpa [lexemes, lexemesFrom, wordLexemes, Scanner.start] using hlex

theorem LexesTo.blank (ha : d.LexesTo a xs) (hb : d.LexesTo b ys) :
    d.LexesTo (a ++ " " ++ b) (xs ++ ys) := by
  intro rest hrest
  rw [String.toList_append, String.toList_append, List.append_assoc, List.append_assoc,
    ha _ (by rintro c ⟨⟩; exact .inl rfl), List.append_assoc, ← hb rest hrest]
  exact congrArg (xs ++ ·) lexemes_blank

theorem lexesTo_not (hd : d.QuotesPlainly) : d.LexesTo "NOT" [.not] :=
  lexesTo_reserved hd (by simp [reserved])

theorem lexesTo_and (hd : d.QuotesPlainly) : d.LexesTo "AND" [.and] :=
  lexesTo_reserved hd (by simp [reserved])

theorem LexesTo.negated (hd : d.QuotesPlainly) (ha : d.LexesTo a xs) (negated : Bool) :
    d.LexesTo (if negated then "NOT" ++ " " ++ a else a) (negation negated ++ xs) := by
  cases negated with
  | false => exact ha
  | true => exact (lexesTo_not hd).blank ha

theorem LexesTo.phrase {k v : String} {ks : List Lexeme} (ha : d.LexesTo a xs)
    (hb : d.LexesTo b ys) (hv : d.LexesTo v ks) (hk : k = " " ++ v ++ " ") :
    d.LexesTo (a ++ k ++ b) (xs ++ ks ++ ys) := by
  have h := (ha.blank hv).blank hb
  rw [hk]
  simpa only [String.append_assoc] using h

theorem LexesTo.comma (ha : d.LexesTo a xs) (hb : d.LexesTo b ys) :
    d.LexesTo (a ++ ", " ++ b) (xs ++ .comma :: ys) := by
  intro rest hrest
  rw [String.toList_append, String.toList_append, List.append_assoc, List.append_assoc,
    ha _ (by rintro c ⟨⟩; exact .inr (.inl rfl)), List.append_assoc, List.cons_append,
    ← hb rest hrest, ← lexemes_blank]
  exact congrArg (xs ++ ·) (lexemes_divider rfl)

theorem LexesTo.enclosed (ha : d.LexesTo a xs) :
    d.LexesTo ("(" ++ a ++ ")") (.opening :: (xs ++ [.closing])) := by
  intro rest hrest
  have hclosing : d.lexemes (')' :: rest) = .closing :: d.lexemes rest := lexemes_divider rfl
  have hopening (t : List Char) : d.lexemes ('(' :: t) = .opening :: d.lexemes t :=
    lexemes_divider rfl
  rw [String.toList_append, String.toList_append, List.append_assoc, List.append_assoc]
  show d.lexemes ('(' :: (a.toList ++ (')' :: rest))) = _
  rw [hopening, ha _ (by rintro c ⟨⟩; exact .inr (.inr rfl)), hclosing]
  simp

end Dialect

end PolySql

import PolySql.Proofs.Condition.Lexer

namespace PolySql

open Condition Number Text

namespace Condition

theorem reserved?_eq_none {v : String} (h : ∀ p ∈ reserved, upper v ≠ p.1) : reserved? v = none := by
  rw [reserved?, List.lookup_eq_none_iff]
  exact fun p hp => bne_iff_ne.2 (h p hp)

theorem reserved?_of_mem {v : String} {c : Char} (hc : c ∈ v.toList)
    (h : ∀ p ∈ reserved, c.toUpper ∉ p.1.toList) : reserved? v = none := by
  refine reserved?_eq_none fun p hp heq => h p hp ?_
  rw [← heq, upper, String.toList_ofList]
  exact List.mem_map_of_mem hc

theorem reserved?_of_all {v : String} {P : Char → Bool} (hv : ∀ c ∈ v.toList, P c.toUpper = true)
    (h : ∀ p ∈ reserved, p.1.toList.all P = false) : reserved? v = none := by
  refine reserved?_eq_none fun p hp heq => ?_
  have hall : p.1.toList.all P = true := by
    rw [← heq, upper, String.toList_ofList, List.all_map]
    exact List.all_eq_true.2 hv
  rw [h p hp] at hall
  cases hall

def isNumberChar (c : Char) : Bool :=
  isDecimalDigit c || ['-', '.', 'x', 'A', 'B', 'C', 'D', 'E', 'F'].contains c

theorem toUpper_of_isDecimalDigit {c : Char} (h : isDecimalDigit c = true) : c.toUpper = c := by
  unfold Char.toUpper
  split
  · rename_i hlower
    have hrange : 97 ≤ c.toNat ∧ c.toNat ≤ 122 := hlower
    have hdigit : c.isDigit = true := by
      rw [isDecimalDigit, if_pos (by omega)] at h
      exact h
    have hsmall : c.toNat ≤ 57 := by
      simp only [Char.isDigit, Bool.and_eq_true, decide_eq_true_eq] at hdigit
      exact hdigit.2
    omega
  · rfl

theorem isBare_of_all {P : Char → Bool} {c : Char} (hc : P c = true)
    (h : [' ', ',', '(', ')', '\'', '"', '['].all (fun k => !P k) = true) : isBare c = true := by
  have hne : c ∉ [' ', ',', '(', ')', '\'', '"', '['] := by
    intro hmem
    have hno := List.all_eq_true.1 h c hmem
    rw [hc] at hno
    cases hno
  simpa [isBare, isDivider, and_assoc] using hne

theorem reserved?_of_isNumberChar {v : String} (h : v.toList.all isNumberChar = true) :
    reserved? v = none := by
  refine reserved?_of_all (P := fun c => isNumberChar c || c == 'X') (fun c hc => ?_) ?_
  · rcases Bool.or_eq_true_iff.1 (List.all_eq_true.1 h c hc) with hdigit | hother
    · simp [toUpper_of_isDecimalDigit hdigit, isNumberChar, hdigit]
    · have hall : ['-', '.', 'x', 'A', 'B', 'C', 'D', 'E', 'F'].all (fun c =>
          isNumberChar c.toUpper || c.toUpper == 'X') = true := rfl
      exact List.all_eq_true.1 hall c (List.contains_iff_mem.1 hother)
  · have hall : reserved.all (fun p => !p.1.toList.all fun c => isNumberChar c || c == 'X') = true :=
      rfl
    exact fun p hp => by simpa using List.all_eq_true.1 hall p hp

end Condition

namespace Dialect

structure IsOperand (d : Dialect) (v : String) : Prop where
  reserved?_eq : reserved? v = none
  ne_empty : v ≠ ""
  spans {depth : Nat} {w : List Char} : (depth = 0 → w = []) → d.Spans depth depth w v.toList

variable {d : Dialect} {v : String}

theorem IsOperand.lexesTo (h : d.IsOperand v) : d.LexesTo v [.operand v] := by
  have hlex := lexesTo_word (h.spans fun _ => rfl)
  have hne : v.toList.isEmpty = false := by
    rw [List.isEmpty_eq_false_iff]
    simpa using h.ne_empty
  rwa [wordLexemes, hne, String.ofList_toList, h.reserved?_eq] at hlex

theorem isOperand_of_isBare (hd : d.QuotesPlainly) (hr : reserved? v = none) (hne : v ≠ "")
    (h : v.toList.all isBare = true) : d.IsOperand v :=
  ⟨hr, hne, fun _ => spans_of_isBare hd h⟩

theorem isOperand_number (hd : d.QuotesPlainly) (hne : v ≠ "") (h : v.toList.all isNumberChar = true) :
    d.IsOperand v := by
  refine isOperand_of_isBare hd (reserved?_of_isNumberChar h) hne (List.all_eq_true.2 fun c hc => ?_)
  exact isBare_of_all (List.all_eq_true.1 h c hc) rfl

theorem spans_joined (hd : d.QuotesPlainly) {args : List String} (h : ∀ a ∈ args, d.IsOperand a)
    {depth : Nat} (hdepth : depth ≠ 0) (w : List Char) :
    d.Spans depth depth w (joined ", " args).toList := by
  induction args generalizing w with
  | nil => exact spans_nil depth w
  | cons a args ih =>
    obtain ⟨ha, hargs⟩ := List.forall_mem_cons.1 h
    cases args with
    | nil => exact ha.spans fun h => absurd h hdepth
    | cons a' args =>
      have htext : (joined ", " (a :: a' :: args)).toList =
          a.toList ++ ',' :: ([] ++ ' ' :: (joined ", " (a' :: args)).toList) := by
        simp [joined]
      rw [htext]
      refine (ha.spans fun h => absurd h hdepth).inside hd rfl hdepth ?_
      exact (spans_nil _ _).inside hd rfl hdepth (ih hargs _)

def callText (name : String) (distinct : Bool) (args : List String) : String :=
  name ++ "(" ++ (if distinct then "DISTINCT " else "") ++ joined ", " args ++ ")"

theorem isOperand_callText (hd : d.QuotesPlainly) {name : String} (hname : d.IsOperand name)
    (distinct : Bool) {args : List String} (h : ∀ a ∈ args, d.IsOperand a) :
    d.IsOperand (callText name distinct args) := by
  have hparen : '(' ∈ (callText name distinct args).toList := by simp [callText]
  have hkey : ∀ p ∈ reserved, '('.toUpper ∉ p.1.toList := by decide
  refine ⟨reserved?_of_mem hparen hkey, ne_of_apply_ne String.toList (List.ne_nil_of_mem hparen),
    fun {depth w} hw => ?_⟩
  have hcallee : Scanner.endsAt ⟨.outside, depth, w ++ name.toList⟩ '(' = false := by
    by_cases hdepth : depth = 0
    · have hempty : name.toList ≠ [] := by simpa using hname.ne_empty
      simp [Scanner.endsAt, Scanner.isCallee, hw hdepth, hname.reserved?_eq, hempty]
    · simp [Scanner.endsAt, hdepth]
  have hinside (w : List Char) : d.Spans (depth + 1) (depth + 1) w
      ((if distinct then "DISTINCT " else "") ++ joined ", " args).toList := by
    have hdepth : depth + 1 ≠ 0 := Nat.succ_ne_zero depth
    cases distinct with
    | false => simpa using spans_joined hd h hdepth w
    | true =>
      have hword : d.Spans (depth + 1) (depth + 1) w "DISTINCT".toList := spans_of_isBare hd rfl
      simpa using hword.inside hd (c := ' ') rfl hdepth (spans_joined hd h hdepth _)
  have htext : (callText name distinct args).toList = name.toList ++ '(' ::
      (((if distinct then "DISTINCT " else "") ++ joined ", " args).toList ++ ')' :: []) := by
    simp [callText]
  rw [htext]
  refine (hname.spans hw).separated hd rfl hcallee ?_
  exact (hinside _).inside hd rfl (Nat.succ_ne_zero depth) (spans_nil _ _)

theorem isOperand_marked (hd : d.QuotesPlainly) (mark : String)
    (hmark : mark.toList.all isBare = true) (s : String) :
    d.IsOperand (mark ++ Text.quoteString s) := by
  have hmem : '\'' ∈ (mark ++ Text.quoteString s).toList := by simp [Text.quoteString, quoteChars]
  refine ⟨reserved?_of_mem hmem (by decide), ne_of_apply_ne String.toList (List.ne_nil_of_mem hmem),
    fun _ => ?_⟩
  rw [String.toList_append, Text.quoteString, String.toList_ofList, quoteChars]
  exact (spans_quoted (by simp [closing?]) rfl (by simp) _).bare_append hd hmark

theorem isOperand_quoteString (hd : d.QuotesPlainly) (s : String) :
    d.IsOperand (Text.quoteString s) := by
  have hquoted := isOperand_marked hd "" rfl s
  rwa [String.empty_append] at hquoted

theorem isOperand_between_apostrophes (hd : d.QuotesPlainly) {s : String} (h : isPlain s = true) :
    d.IsOperand ("'" ++ s ++ "'") := by
  rw [← quoteString_of_isPlain h]
  exact isOperand_quoteString hd s

theorem all_isNumberChar_hexUpper (bytes : List UInt8) :
    (hexUpper bytes).toList.all isNumberChar = true := by
  have hdigit : ∀ n < 16, isNumberChar (hexDigit n) = true := by decide
  have hbyte (b : UInt8) : b.toNat / 16 < 16 ∧ b.toNat % 16 < 16 := by
    have hb := b.toNat_lt
    omega
  rw [hexUpper, String.toList_ofList]
  induction bytes with
  | nil => rfl
  | cons b bytes ih =>
    obtain ⟨hhigh, hlow⟩ := hbyte b
    simp [hexByte, hdigit _ hhigh, hdigit _ hlow, ih]

theorem isOperand_binaryLiteral (hd : d.QuotesPlainly) (style : BinaryLiteral) (bytes : List UInt8) :
    d.IsOperand (style.write bytes) := by
  obtain ⟨hupper, hlower⟩ := isPlain_hexUpper bytes
  have hquoted := isOperand_marked hd "X" rfl (hexUpper bytes)
  rw [quoteString_of_isPlain hupper] at hquoted
  cases style with
  | hexString =>
    have heq : "X'" ++ hexUpper bytes ++ "'" = "X" ++ ("'" ++ hexUpper bytes ++ "'") := by
      rw [← String.toList_inj]
      simp
    rwa [BinaryLiteral.write, heq]
  | hexNumber =>
    refine isOperand_number hd ?_ ?_
    · simp [BinaryLiteral.write]
    · rw [BinaryLiteral.write, String.toList_append, List.all_append, all_isNumberChar_hexUpper]
      rfl
  | escapedBytea =>
    have hplain : isPlain ("\\x" ++ lower (hexUpper bytes)) = true := by
      rw [isPlain_append, hlower]
      rfl
    have heq : "'\\x" ++ lower (hexUpper bytes) ++ "'" =
        "'" ++ ("\\x" ++ lower (hexUpper bytes)) ++ "'" := by
      rw [← String.toList_inj]
      simp
    rw [BinaryLiteral.write, heq]
    exact isOperand_between_apostrophes hd hplain
  | blobFunction =>
    have hname : d.IsOperand "BLOB" := isOperand_of_isBare hd rfl (by decide) rfl
    have heq : "BLOB(X'" ++ hexUpper bytes ++ "')" =
        callText "BLOB" false ["X" ++ ("'" ++ hexUpper bytes ++ "'")] := by
      rw [← String.toList_inj]
      simp [callText, joined]
    rw [BinaryLiteral.write, heq]
    exact isOperand_callText hd hname false (List.forall_mem_singleton.2 hquoted)

theorem isOperand_quoteValue (hd : d.QuotesPlainly) (caps : Capabilities) (zone : Calendar.Timezone)
    (v : Value) : d.IsOperand (caps.quoteValue zone caps.quoteString v) := by
  have hnumber (c : Char) (hc : c.isDigit = true) : isNumberChar c = true := by
    simp [isNumberChar, isDecimalDigit_of_isDigit hc]
  cases v with
  | null => exact isOperand_of_isBare hd (v := "NULL") rfl (by decide) rfl
  | bool b =>
    show d.IsOperand (caps.boolean.write b)
    cases caps.boolean <;> cases b <;>
      exact isOperand_of_isBare hd rfl (by simp [BooleanLiteral.write]) rfl
  | int n =>
    have hsigned := isSigned_intText hnumber n.toInt
    exact isOperand_number hd hsigned.ne_empty (hsigned.all rfl)
  | float x =>
    unfold Capabilities.quoteValue
    dsimp only
    split
    · rename_i h
      have hsigned := isSigned_text_of_isFinite hnumber rfl h
      exact isOperand_number hd hsigned.ne_empty (hsigned.all rfl)
    · exact isOperand_quoteString hd _
  | decimal s =>
    unfold Capabilities.quoteValue
    dsimp only
    split
    · rename_i h
      have hsigned := isSigned_of_isDecimalLiteral (P := isNumberChar)
        (fun c hc => by simp [isNumberChar, hc]) rfl h
      exact isOperand_number hd hsigned.ne_empty (hsigned.all rfl)
    · exact isOperand_quoteString hd _
  | text s =>
    show d.IsOperand (caps.quoteString s)
    unfold Capabilities.quoteString
    split
    · exact isOperand_marked hd "N" rfl s
    · exact isOperand_quoteString hd s
  | blob bytes => exact isOperand_binaryLiteral hd _ _
  | date t => exact isOperand_between_apostrophes hd (isPlain_date t)
  | time t => exact isOperand_between_apostrophes hd (isPlain_formatTime t _)
  | timestamp t => exact isOperand_between_apostrophes hd (isPlain_formatTimestamp t _)
  | zoned z => exact isOperand_between_apostrophes hd (isPlain_formatTimestamp _ _)

theorem isOperand_quote (hd : d.QuotesPlainly) (hliterals : d.HasStandardLiterals) (v : Value) :
    d.IsOperand (d.quote v) := by
  rw [hliterals.quote_eq]
  exact isOperand_quoteValue hd _ _ v

end Dialect

end PolySql

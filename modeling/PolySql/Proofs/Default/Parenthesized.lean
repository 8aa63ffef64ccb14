import PolySql.Proofs.Text.Parenthesis
import PolySql.SqlServer.StoredDefault

namespace PolySql

open Text

def rulesOutNull (c : Char) : Bool :=
  !isBlank c && !isParenthesis c && decide (c.toLower ∉ "null".toList)

theorem sameIgnoringCase_null {c : Char} {s : String} (hc : rulesOutNull c = true)
    (h : c ∈ s.toList) : sameIgnoringCase s "null" = false := by
  simp only [rulesOutNull, Bool.and_eq_true, decide_eq_true_eq] at hc
  exact sameIgnoringCase_eq_false hc.2 h

namespace SqlServer

theorem isNullDefault_eq_false {c : Char} {t : List Char} (hc : rulesOutNull c = true)
    (h : c ∈ t) : isNullDefault t = false := by
  have hparts := hc
  simp only [rulesOutNull, Bool.and_eq_true, Bool.not_eq_true'] at hparts
  have hmem : c ∈ unwrap t := mem_unwrap hparts.1.1 hparts.1.2 h
  have hne : (unwrap t).isEmpty = false := by
    rw [List.isEmpty_eq_false_iff]
    exact List.ne_nil_of_mem hmem
  unfold isNullDefault
  dsimp only
  rw [hne, sameIgnoringCase_null hc (by rwa [String.toList_ofList])]
  rfl

theorem quotedDefault?_eq_some_iff {t u : List Char} :
    quotedDefault? t = some u ↔
      t = ['(', '\''] ++ (u ++ ['\'', ')']) ∨ t = ['(', 'N', '\''] ++ (u ++ ['\'', ')']) := by
  have hquoted (r : List Char) : between? ['\''] ['\'', ')'] r = some u ↔
      r = '\'' :: (u ++ ['\'', ')']) :=
    between?_eq_some_iff
  unfold quotedDefault?
  rw [Option.bind_eq_bind, Option.bind_eq_some_iff]
  simp only [dropPrefix?_eq_some_iff]
  constructor
  · rintro ⟨r, rfl, h⟩
    split at h
    · exact .inr (congrArg (fun r => '(' :: 'N' :: r) ((hquoted _).1 h))
    · exact .inl (congrArg ('(' :: ·) ((hquoted _).1 h))
  · rintro (rfl | rfl)
    · exact ⟨_, rfl, (hquoted _).2 rfl⟩
    · exact ⟨_, rfl, (hquoted _).2 rfl⟩

theorem mem_of_quotedDefault? {t u : List Char} (h : quotedDefault? t = some u) : '\'' ∈ t := by
  rcases quotedDefault?_eq_some_iff.1 h with rfl | rfl <;> simp

section Outer
variable {t r x : List Char}

def EndsPaired (t : List Char) : Prop :=
  t.head? = some '(' ∨ t.getLast? = some ')' → (enclosed? t).isSome = true

def ShedsPairs (t : List Char) : Prop :=
  ∀ r, t = '(' :: (r ++ [')']) → isBalanced r = true ∧ EndsPaired r

theorem shedsPairs_enclosed :
    ShedsPairs ('(' :: (r ++ [')'])) ↔ isBalanced r = true ∧ EndsPaired r := by
  refine ⟨fun h => h r rfl, fun h r' hr => ?_⟩
  have hrr : r = r' := List.append_cancel_right (List.cons.inj hr).2
  exact hrr ▸ h

theorem parenthesizedDefault?_isSome (r : List Char) :
    (parenthesizedDefault? ('(' :: (r ++ [')']))).isSome = true := by
  have hinner : ∃ v, (dropPrefix? ['('] (r ++ [')'])).getD (r ++ [')']) = v ++ [')'] := by
    cases h : dropPrefix? ['('] (r ++ [')']) with
    | none => exact ⟨r, rfl⟩
    | some u =>
      have hu : r ++ [')'] = '(' :: u := dropPrefix?_eq_some_iff.1 h
      cases r with
      | nil => cases hu
      | cons c v => exact ⟨v, (List.cons.inj hu).2.symm⟩
  obtain ⟨v, hv⟩ := hinner
  have hlast : dropSuffix? [')'] (v ++ [')']) = some v := dropSuffix?_eq_some_iff.2 rfl
  have hfirst : dropPrefix? ['('] ('(' :: (r ++ [')'])) = some (r ++ [')']) :=
    dropPrefix?_eq_some_iff.2 rfl
  simp [parenthesizedDefault?, hfirst, hv, hlast]

theorem of_dropSuffix?_closings
    (h : (dropSuffix? [')', ')'] t).or (dropSuffix? [')'] t) = some x) :
    ∃ back, t = x ++ back ∧ (back = [')'] ∧ x.getLast? ≠ some ')' ∨ back = [')', ')']) := by
  rw [Option.or_eq_some_iff, dropSuffix?_eq_some_iff, dropSuffix?_eq_some_iff] at h
  rcases h with h | ⟨hnone, h⟩
  · exact ⟨_, h, .inr rfl⟩
  · refine ⟨_, h, .inl ⟨rfl, fun hlast => ?_⟩⟩
    obtain ⟨y, rfl⟩ := List.getLast?_eq_some_iff.1 hlast
    have htwo : dropSuffix? [')', ')'] t = some y :=
      dropSuffix?_eq_some_iff.2 (by rw [h, List.append_assoc]; rfl)
    rw [hnone] at htwo
    cases htwo

theorem of_parenthesizedDefault? (h : parenthesizedDefault? t = some x) :
    ∃ front back, t = front ++ (x ++ back) ∧
      (front = ['('] ∧ x.head? ≠ some '(' ∨ front = ['(', '(']) ∧
      (back = [')'] ∧ x.getLast? ≠ some ')' ∨ back = [')', ')']) := by
  unfold parenthesizedDefault? at h
  rw [Option.bind_eq_bind, Option.bind_eq_some_iff] at h
  obtain ⟨r, hr, h⟩ := h
  obtain ⟨back, hx, hback⟩ := of_dropSuffix?_closings h
  rw [dropPrefix?_eq_some_iff] at hr
  cases hopen : dropPrefix? ['('] r with
  | none =>
    rw [hopen, Option.getD_none] at hx
    refine ⟨['('], back, by rw [hr, hx], .inl ⟨rfl, fun hhead => ?_⟩, hback⟩
    obtain ⟨y, rfl⟩ := List.head?_eq_some_iff.1 hhead
    have hsecond : dropPrefix? ['('] r = some (y ++ back) :=
      dropPrefix?_eq_some_iff.2 (by rw [hx]; rfl)
    rw [hopen] at hsecond
    cases hsecond
  | some r' =>
    rw [hopen, Option.getD_some] at hx
    rw [dropPrefix?_eq_some_iff] at hopen
    refine ⟨['(', '('], back, ?_, .inr rfl, hback⟩
    rw [hr, hopen, hx]
    rfl

theorem shedsPairs_twice : ShedsPairs ('(' :: '(' :: (x ++ [')', ')'])) ↔ isBalanced x = true := by
  have henclosed : '(' :: '(' :: (x ++ [')', ')']) = '(' :: (('(' :: (x ++ [')'])) ++ [')']) := by
    simp
  rw [henclosed, shedsPairs_enclosed]
  refine ⟨fun hpairs => ?_, fun hx => ⟨isBalanced_enclosed hx, fun _ => ?_⟩⟩
  · obtain ⟨y, hy⟩ := Option.isSome_iff_exists.1 (hpairs.2 (.inl rfl))
    obtain ⟨hxy, hbalanced⟩ := enclosed?_eq_some_iff.1 hy
    rwa [List.append_cancel_right (List.cons.inj hxy).2]
  · exact Option.isSome_iff_exists.2 ⟨x, enclosed?_eq_some_iff.2 ⟨rfl, hx⟩⟩

theorem not_shedsPairs_opening (hlast : x.getLast? ≠ some ')') :
    ¬ ShedsPairs ('(' :: '(' :: (x ++ [')'])) := by
  intro hpairs
  obtain ⟨-, hends⟩ := hpairs ('(' :: x) rfl
  obtain ⟨y, hy⟩ := Option.isSome_iff_exists.1 (hends (.inl rfl))
  have hxy := (List.cons.inj (enclosed?_eq_some_iff.1 hy).1).2
  exact hlast (by rw [hxy, List.getLast?_concat])

theorem not_shedsPairs_closing (hhead : x.head? ≠ some '(') :
    ¬ ShedsPairs ('(' :: (x ++ [')', ')'])) := by
  intro hpairs
  obtain ⟨-, hends⟩ := hpairs (x ++ [')']) (by simp)
  obtain ⟨y, hy⟩ := Option.isSome_iff_exists.1 (hends (.inr List.getLast?_concat))
  have hxy := (enclosed?_eq_some_iff.1 hy).1
  rw [← List.cons_append] at hxy
  exact hhead (by rw [List.append_cancel_right hxy]; rfl)

theorem isBalanced_parenthesizedDefault?_iff (ht : isBalanced t = true)
    (h : parenthesizedDefault? t = some x) : isBalanced x = true ↔ ShedsPairs t := by
  obtain ⟨front, back, rfl, hfront, hback⟩ := of_parenthesizedDefault? h
  have huneven (hx : isBalanced x = true) := not_isBalanced_of_uneven hx
  rcases hfront with ⟨rfl, hhead⟩ | rfl <;> rcases hback with ⟨rfl, hlast⟩ | rfl
  · have hends : EndsPaired x := fun hparenthesis => hparenthesis.elim (absurd · hhead) (absurd · hlast)
    rw [List.singleton_append, shedsPairs_enclosed, and_iff_left hends]
  · refine iff_of_false (fun hx => ?_) (not_shedsPairs_closing hhead)
    cases ht.symm.trans (huneven hx).2
  · refine iff_of_false (fun hx => ?_) (not_shedsPairs_opening hlast)
    cases ht.symm.trans (huneven hx).1
  · exact shedsPairs_twice.symm

end Outer

theorem extractDefault_of_not_mem {raw : String} (hquote : '\'' ∉ raw.toList)
    (hnull : isNullDefault (trim raw.toList) = false) :
    extractDefault raw =
      some (String.ofList
        ((parenthesizedDefault? (trim raw.toList)).getD (trim raw.toList))) := by
  have hliteral : quotedDefault? (trim raw.toList) = none := by
    refine Option.eq_none_iff_forall_ne_some.2 fun u hu => hquote ?_
    exact mem_of_mem_trim (mem_of_quotedDefault? hu)
  unfold extractDefault trimmed
  dsimp only
  rw [String.toList_ofList, hnull, hliteral]
  cases parenthesizedDefault? (trim raw.toList) <;> rfl

theorem isBalanced_getD_iff {t : List Char} (ht : isBalanced t = true) :
    isBalanced ((parenthesizedDefault? t).getD t) = true ↔ ShedsPairs t := by
  cases h : parenthesizedDefault? t with
  | some x => exact isBalanced_parenthesizedDefault?_iff ht h
  | none =>
    refine iff_of_true ht ?_
    rintro r rfl
    have hsome := parenthesizedDefault?_isSome r
    rw [h] at hsome
    cases hsome

theorem unwrap_getD_iff {e : List Char} (he : isBalanced e = true) :
    unwrap (trim ((parenthesizedDefault? ('(' :: (e ++ [')']))).getD ('(' :: (e ++ [')'])))) =
        unwrap (trim e) ↔ EndsPaired e := by
  have hpairs := isBalanced_getD_iff (isBalanced_enclosed he)
  rw [shedsPairs_enclosed, and_iff_right he] at hpairs
  rw [← hpairs]
  obtain ⟨x, hx⟩ := Option.isSome_iff_exists.1 (parenthesizedDefault?_isSome e)
  rw [hx, Option.getD_some]
  constructor
  · intro h
    rw [← isBalanced_trim, ← isBalanced_unwrap, h, isBalanced_unwrap, isBalanced_trim, he]
  · intro hbalanced
    have huneven := not_isBalanced_of_uneven hbalanced
    have henclosed := isBalanced_enclosed he
    obtain ⟨front, back, heq, hfront, hback⟩ := of_parenthesizedDefault? hx
    rw [heq] at henclosed
    rcases hfront with ⟨rfl, -⟩ | rfl <;> rcases hback with ⟨rfl, -⟩ | rfl
    · rw [List.append_cancel_right (List.cons.inj heq).2]
    · cases henclosed.symm.trans huneven.2
    · cases henclosed.symm.trans huneven.1
    · have hxe : e ++ [')'] = ('(' :: (x ++ [')'])) ++ [')'] := by
        simpa using (List.cons.inj heq).2
      rw [List.append_cancel_right hxe, (hasBareEnds_between rfl rfl x).trim_eq,
        unwrap_enclosed hbalanced]

theorem isBalanced_extractDefault_iff {s : String} (hquote : '\'' ∉ s.toList)
    (hbalanced : isBalanced s.toList = true) :
    (isNullDefault (trim s.toList) = false →
      ∃ text, extractDefault s = some text ∧
        (isBalanced text.toList = true ↔ ShedsPairs (trim s.toList))) ∧
    (isNullDefault ("(" ++ s ++ ")").toList = false →
      ∃ text, extractDefault ("(" ++ s ++ ")") = some text ∧
        (unwrap (trim text.toList) = unwrap (trim s.toList) ↔ EndsPaired s.toList)) := by
  refine ⟨fun hnull => ⟨_, extractDefault_of_not_mem hquote hnull, ?_⟩, fun hnull => ?_⟩
  · rw [String.toList_ofList]
    exact isBalanced_getD_iff (by rw [isBalanced_trim, hbalanced])
  · have hchars : ("(" ++ s ++ ")").toList = '(' :: (s.toList ++ [')']) := by
      simp [String.toList_append]
    have htrim : trim ("(" ++ s ++ ")").toList = '(' :: (s.toList ++ [')']) := by
      rw [hchars, (hasBareEnds_between rfl rfl _).trim_eq]
    have hmem : '\'' ∉ ("(" ++ s ++ ")").toList := by
      simpa [hchars] using hquote
    refine ⟨_, extractDefault_of_not_mem hmem (by rwa [htrim, ← hchars]), ?_⟩
    rw [String.toList_ofList, htrim]
    exact unwrap_getD_iff hbalanced

theorem isBalanced_extractDefault_iff_call :
    (extractDefault "(getdate())" = some "getdate(" ∧ ¬ ShedsPairs (trim "(getdate())".toList)) ∧
      ∃ text, extractDefault ("(" ++ "(f(1))" ++ ")") = some text ∧
        unwrap (trim text.toList) = unwrap (trim "(f(1))".toList) := by
  constructor
  · have hnull : isNullDefault (trim "(getdate())".toList) = false :=
      isNullDefault_eq_false (c := 'g') (by decide) (by decide)
    have hcall : extractDefault "(getdate())" = some "getdate(" := by
      rw [extractDefault_of_not_mem (by decide) hnull]
      decide
    obtain ⟨text, htext, h⟩ :=
      (isBalanced_extractDefault_iff (s := "(getdate())") (by decide) (by decide)).1 hnull
    obtain rfl := Option.some.inj (htext.symm.trans hcall)
    exact ⟨hcall, fun hpairs => absurd (h.2 hpairs) (by decide)⟩
  · obtain ⟨text, htext, h⟩ :=
      (isBalanced_extractDefault_iff (s := "(f(1))") (by decide) (by decide)).2
        (isNullDefault_eq_false (c := 'f') (by decide) (by decide))
    exact ⟨text, htext, h.2 fun _ => by decide⟩

end SqlServer

end PolySql

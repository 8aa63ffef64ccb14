import PolySql.Proofs.InsertText.Identity

namespace PolySql.SqlServer

open Text

theorem isBracketed_eq_true_iff {t : List Char} :
    isBracketed t = true ↔ ∃ u, t = '[' :: (u ++ [']']) ∧ '\n' ∉ u := by
  constructor
  · intro h
    unfold isBracketed at h
    split at h
    · rename_i u hu
      exact ⟨u, between?_eq_some_iff.1 hu, by simpa using h⟩
    · cases h
  · rintro ⟨u, rfl, hu⟩
    have hbetween : between? ['['] [']'] ('[' :: (u ++ [']'])) = some u := between?_eq_some_iff.2 rfl
    rw [isBracketed, hbetween]
    simpa using hu

theorem quoteIdentifier_of_isBracketed {n : String} (h : isBracketed n.toList = true) :
    quoteIdentifier n = n :=
  if_pos h

theorem quoteIdentifier_of_not_isBracketed {n : String} (h : isBracketed n.toList = false) :
    quoteIdentifier n = quoteBetween '[' ']' n :=
  if_neg (Bool.eq_false_iff.1 h)

theorem isBracketed_quoteIdentifier {n : String} (h : '\n' ∉ n.toList) :
    isBracketed (quoteIdentifier n).toList = true := by
  obtain ⟨u, hu⟩ := isEnclosed_quoteIdentifier n
  have hline : '\n' ∉ (quoteIdentifier n).toList := not_mem_quoteIdentifier (by decide) h
  refine isBracketed_eq_true_iff.2 ⟨u, hu, fun hmem => hline ?_⟩
  rw [hu]
  simp [hmem]

theorem quoteIdentifier_quoteIdentifier {n : String} (h : '\n' ∉ n.toList) :
    quoteIdentifier (quoteIdentifier n) = quoteIdentifier n :=
  quoteIdentifier_of_isBracketed (isBracketed_quoteIdentifier h)

theorem quoteName_quoteName {n : String} (h : '\n' ∉ n.toList) :
    quoteName (quoteName n) = quoteName n := by
  have hpart {p : List Char} (hp : p ∈ pieces '.' n.toList) : '\n' ∉ (String.ofList p).toList := by
    rw [String.toList_ofList]
    exact fun hmem => h (mem_of_mem_pieces hp hmem)
  show joined "." _ = joined "." _
  rw [pieces_quoteName, List.map_map]
  refine congrArg (joined ".") (List.map_congr_left fun p hp => ?_)
  rw [Function.comp_apply, String.ofList_toList, quoteIdentifier_quoteIdentifier (hpart hp)]

theorem unquoteIdentifier_quoteIdentifier_eq_iff {n : String} :
    unquoteIdentifier (quoteIdentifier n) = n ↔ isBracketed n.toList = false := by
  cases hb : isBracketed n.toList with
  | true =>
    obtain ⟨u, hu, -⟩ := isBracketed_eq_true_iff.1 hb
    refine iff_of_false (fun heq => ?_) Bool.noConfusion
    rw [quoteIdentifier_of_isBracketed hb, ← String.ofList_toList (s := n), hu,
      unquoteIdentifier_enclosed, String.ofList_inj] at heq
    have hle := length_undouble_le ']' u
    rw [heq, List.length_cons, List.length_append] at hle
    omega
  | false =>
    refine iff_of_true ?_ rfl
    rw [quoteIdentifier_of_not_isBracketed hb, quoteBetween, unquoteIdentifier_enclosed,
      undouble_double, String.ofList_toList]

def bareParts (n : String) : List String :=
  (pieces '.' n.toList).map bareName

theorem bareParts_quoteName (n : String) : bareParts (quoteName n) = bareParts n := by
  rw [bareParts, pieces_quoteName, List.map_map, bareParts]
  refine List.map_congr_left fun p _ => ?_
  rw [Function.comp_apply, bareName_quoteIdentifier, String.toList_ofList]

theorem bareName_of_all {t : List Char} (h : ∀ c ∈ t, isDelimiter c = false) :
    bareName t = String.ofList t := by
  rw [bareName, List.filter_eq_self.2 fun c hc => by rw [h c hc]; rfl]

theorem bareParts_joined {parts : List String} (hne : parts ≠ [])
    (h : ∀ p ∈ parts, ∀ c ∈ p.toList, c ≠ '.' ∧ isDelimiter c = false) :
    bareParts (joined "." parts) = parts := by
  have hdot : ∀ p ∈ parts, '.' ∉ p.toList := fun p hp hmem => (h p hp '.' hmem).1 rfl
  have hpieces : pieces '.' (joined "." parts).toList = parts.map String.toList := pieces_joined hne hdot
  have hbare : ∀ p ∈ parts, bareName p.toList = p := fun p hp => by
    rw [bareName_of_all fun c hc => (h p hp c hc).2, String.ofList_toList]
  rw [bareParts, hpieces, List.map_map]
  exact (List.map_congr_left hbare).trans (List.map_id _)

section Selection
variable (n : String)

theorem some_tableOf : some (tableOf n) = (bareParts n).getLast? := by
  have hlast := List.getLast?_eq_some_getLast (pieces_ne_nil '.' n.toList)
  rw [tableOf, bareParts, List.getLast?_map, hlast]
  rfl

theorem schemaOf?_eq : schemaOf? n = (bareParts n).dropLast.getLast? := by
  rw [schemaOf?, bareParts, ← List.reverse_reverse (pieces '.' n.toList)]
  generalize (pieces '.' n.toList).reverse = ps
  match ps with
  | [] => rfl
  | [_] => rfl
  | _ :: schema :: rest => simp

theorem databaseOf?_eq :
    databaseOf? n = if 3 ≤ (bareParts n).length then (bareParts n).head? else none := by
  rw [databaseOf?, bareParts]
  generalize pieces '.' n.toList = ps
  match ps with
  | [] => rfl
  | [_] => rfl
  | [_, _] => rfl
  | _ :: _ :: _ :: rest => simp

end Selection

section Dialects
variable (zone : Calendar.Timezone) (collation : String)

@[simp] theorem quoteIdentifier_dialectWith :
    (dialectWith zone collation).quoteIdentifier = quoteIdentifier :=
  rfl

@[simp] theorem quoteTable_dialectWith : (dialectWith zone collation).quoteTable = quoteName :=
  rfl

end Dialects

theorem quoted_names_read_back (zone : Calendar.Timezone) (collation : String) :
    (∀ n : String, unquoteIdentifier ((dialectWith zone collation).quoteIdentifier n) = n ↔
      isBracketed n.toList = false) ∧
    (∀ n : String, '\n' ∉ n.toList →
      (dialectWith zone collation).quoteTable ((dialectWith zone collation).quoteTable n) =
        (dialectWith zone collation).quoteTable n) ∧
    (∀ parts : List String, parts ≠ [] →
      (∀ p ∈ parts, p.toList.all (fun c => c ∉ ['.', '[', ']', '"']) = true) →
      ∀ q, q = (dialectWith zone collation).quoteTable (joined "." parts) →
        some (tableOf q) = parts.getLast? ∧ schemaOf? q = parts.dropLast.getLast? ∧
          databaseOf? q = if 3 ≤ parts.length then parts.head? else none) := by
  rw [quoteIdentifier_dialectWith, quoteTable_dialectWith]
  refine ⟨fun n => unquoteIdentifier_quoteIdentifier_eq_iff, fun n hline => quoteName_quoteName hline, ?_⟩
  rintro parts hne hparts q rfl
  have hbare : ∀ p ∈ parts, ∀ c ∈ p.toList, c ≠ '.' ∧ isDelimiter c = false := by
    intro p hp c hc
    have hmem := of_decide_eq_true (List.all_eq_true.1 (hparts p hp) c hc)
    simp only [List.mem_cons, List.not_mem_nil, or_false, not_or] at hmem
    simpa [isDelimiter, and_assoc] using hmem
  have hread : bareParts (quoteName (joined "." parts)) = parts := by
    rw [bareParts_quoteName, bareParts_joined hne hbare]
  rw [some_tableOf, schemaOf?_eq, databaseOf?_eq, hread]
  exact ⟨rfl, rfl, rfl⟩

theorem quoted_names_read_back_threeParts :
    unquoteIdentifier (dialect.quoteIdentifier "] we[ird") = "] we[ird" ∧
      dialect.quoteTable (dialect.quoteTable "[a]b].c]d") = dialect.quoteTable "[a]b].c]d" ∧
      tableOf (dialect.quoteTable "db..t") = "t" ∧ schemaOf? (dialect.quoteTable "db..t") = some "" ∧
      databaseOf? (dialect.quoteTable "db..t") = some "db" := by
  obtain ⟨hname, htwice, hparts⟩ := quoted_names_read_back .utc caseSensitiveCollation
  obtain ⟨htable, hschema, hdatabase⟩ := hparts ["db", "", "t"] (by decide) (by decide) _ rfl
  exact ⟨(hname "] we[ird").2 (by decide), htwice "[a]b].c]d" (by decide), Option.some.inj htable, hschema,
    hdatabase⟩

end PolySql.SqlServer

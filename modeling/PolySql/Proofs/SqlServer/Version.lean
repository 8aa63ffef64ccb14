import PolySql.Proofs.Text.Pieces
import PolySql.SqlServer.Version

namespace PolySql.SqlServer

open Text

def Shows (row : List Value) (i : Nat) (text : String) : Prop :=
  ∃ value, row[i]? = some value ∧ value ≠ .null ∧ value.display = text

namespace Version

inductive TellsMajor (row : List Value) (complete : String) (n : UInt32) : Prop
  | own {text : String} : Shows row 1 text → readMajor? text.toList = some n → TellsMajor row complete n
  | front : (∀ text, Shows row 1 text → readMajor? text.toList = none) →
    readMajor? (complete.toList.takeWhile (· ≠ '.')) = some n → TellsMajor row complete n

inductive Reported (rows : RowSet) (v : Version) : Prop
  | intro {row : List Value} {rest : List (List Value)} : rows.rows = row :: rest →
    Shows row 0 v.complete → (∀ n, v.major = some n ↔ TellsMajor row v.complete n) →
    (∀ text, v.level = some text ↔ Shows row 2 text) →
    (∀ text, v.edition = some text ↔ Shows row 3 text) → Reported rows v

section Cells
variable {row : List Value} {i : Nat} {text complete : String} {n : UInt32}

theorem field?_eq_some_iff : field? row i = some text ↔ Shows row i text := by
  rw [field?, Option.bind_eq_some_iff]
  refine exists_congr fun value => and_congr_right fun _ => ?_
  cases value <;> simp [Value.isNull]

theorem parse_major (complete : String) :
    (parse complete).major = readMajor? (complete.toList.takeWhile (· ≠ '.')) := by
  rw [parse, head?_pieces]
  rfl

theorem tellsMajor_iff :
    TellsMajor row complete n ↔
      ((field? row 1).bind fun s => readMajor? s.toList).or (parse complete).major = some n := by
  rw [parse_major]
  constructor
  · rintro (⟨hshows, hn⟩ | ⟨hnone, hn⟩)
    · rw [field?_eq_some_iff.2 hshows, Option.bind_some, hn]
      rfl
    · have hown : ((field? row 1).bind fun s => readMajor? s.toList) = none :=
        Option.bind_eq_none_iff.2 fun text htext => hnone text (field?_eq_some_iff.1 htext)
      rw [hown, hn]
      rfl
  · intro h
    obtain hown | ⟨hown, hn⟩ := Option.or_eq_some_iff.1 h
    · obtain ⟨text, htext, hn⟩ := Option.bind_eq_some_iff.1 hown
      exact .own (field?_eq_some_iff.1 htext) hn
    · refine .front (fun text hshows => ?_) hn
      exact Option.bind_eq_none_iff.1 hown text (field?_eq_some_iff.2 hshows)

end Cells

theorem ofRows?_eq_some_iff {rows : RowSet} {v : Version} : ofRows? rows = some v ↔ Reported rows v := by
  constructor
  · intro h
    obtain ⟨row, hrow, h⟩ := Option.bind_eq_some_iff.1 h
    obtain ⟨complete, hcomplete, h⟩ := Option.bind_eq_some_iff.1 h
    obtain rfl := Option.some.inj h
    obtain ⟨rest, hrest⟩ := List.head?_eq_some_iff.1 hrow
    exact .intro hrest (field?_eq_some_iff.1 hcomplete) (fun _ => tellsMajor_iff.symm)
      (fun _ => field?_eq_some_iff) fun _ => field?_eq_some_iff
  · rintro ⟨hrow, hcomplete, hmajor, hlevel, hedition⟩
    have hmajor' := Option.ext fun n => (hmajor n).trans tellsMajor_iff
    have hlevel' := Option.ext fun text => (hlevel text).trans field?_eq_some_iff.symm
    have hedition' := Option.ext fun text => (hedition text).trans field?_eq_some_iff.symm
    rw [ofRows?, hrow, List.head?_cons]
    change ((field? _ 0).bind fun complete => some (Version.mk complete _ _ _)) = some v
    rw [field?_eq_some_iff.2 hcomplete, Option.bind_some, ← hmajor', ← hlevel', ← hedition']

theorem isSupported_iff {v : Version} : v.isSupported = true ↔ ∃ n ∈ v.major, 13 ≤ n := by
  rw [isSupported, Option.any_eq_true]
  exact exists_congr fun n => and_congr_right fun _ => decide_eq_true_iff

end Version

end PolySql.SqlServer

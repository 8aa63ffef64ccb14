import PolySql.Dialect.Postgres
import PolySql.Proofs.Default.Quoted

namespace PolySql

open Text Number

namespace Postgres

structure IsCastName (name : String) : Prop where
  ne_empty : name ≠ ""
  trimmed_eq : trimmed name = name
  all : name.toList.all isCastChar = true

namespace IsCastName

variable {name : String}

theorem hasBareEnds (h : IsCastName name) : HasBareEnds name.toList :=
  hasBareEnds_of_trimmed_eq h.ne_empty h.trimmed_eq

theorem not_mem (h : IsCastName name) {c : Char} (hc : isCastChar c = false) : c ∉ name.toList := by
  intro hmem
  rw [List.all_eq_true.1 h.all c hmem] at hc
  cases hc

end IsCastName

end Postgres

inductive TypeKind.Holds : TypeKind → Value → Prop
  | text {kind : TypeKind} (s : String) : kind.isCharacter = true → Holds kind (.text s)
  | int {kind : TypeKind} (n : Int64) : kind = .integer ∨ kind = .bigInteger → Holds kind (.int n)
  | bool {kind : TypeKind} (b : Bool) : kind = .boolean → Holds kind (.bool b)
  | decimal {kind : TypeKind} (s : String) :
    kind = .decimal ∨ kind = .money → IsAsciiDecimal s → Holds kind (.decimal s)

theorem TypeKind.Holds.isCharacter {kind : TypeKind} {s : String} (h : kind.Holds (.text s)) :
    kind.isCharacter = true := by
  cases h with
  | text s hkind => exact hkind

section Holds
variable {type : ColumnType} {v : Value}

end Holds

end PolySql

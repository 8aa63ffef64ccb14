import PolySql.Failure.Basic
import PolySql.Number.Integer

namespace PolySql

open Number

def CompileError.fault : CompileError → String
  | unkeyedRowLimit statement => statement ++ " with LIMIT, OFFSET or ORDER BY requires a key column"
  | noProjection => "SELECT needs at least one projection"
  | fragmentBinds fragment placeholders binds =>
    "SQL fragment \x60" ++ fragment ++ "\x60 has " ++ natText placeholders ++
      " placeholders but " ++ natText binds ++ " binds"
  | noRows => "INSERT needs at least one row of values"
  | rowWidth row values columns =>
    "INSERT row " ++ natText row ++ " has " ++ natText values ++ " values for " ++
      natText columns ++ " columns"
  | noAssignment => "UPDATE needs at least one assignment"

def CompileError.isInvalidTree : CompileError → Bool
  | unkeyedRowLimit _ => false
  | _ => true

def CompileError.message (e : CompileError) : String :=
  if e.isInvalidTree then "Invalid query tree: " ++ e.fault else e.fault

namespace Failure

def message : Failure → String
  | statement _ f => f.message
  | unsupportedVersion product detected minimum =>
    product ++ " " ++ detected ++ " is not supported, the minimum supported version is " ++ minimum
  | invalidArgument m => "Invalid argument: " ++ m
  | configuration m => "Configuration error: " ++ m
  | compile e => "Compile error: " ++ e.message

def source? : Failure → Option String
  | statement _ f => f.cause.map (·.message)
  | compile e => some e.message
  | _ => none

end Failure

end PolySql

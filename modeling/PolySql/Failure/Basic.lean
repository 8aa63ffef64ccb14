import PolySql.Value.Basic

namespace PolySql

structure DriverFailure where
  message : String
  code : Option Int
  sqlState : Option String
  deriving DecidableEq, Repr

inductive CompileError where
  | unkeyedRowLimit (statement : String)
  | noProjection
  | fragmentBinds (fragment : String) (placeholders binds : Nat)
  | noRows
  | rowWidth (row values columns : Nat)
  | noAssignment
  deriving DecidableEq, Repr

inductive FailureKind where
  | connectionUnavailable
  | uniquenessViolation
  | notNullViolation
  | foreignKeyViolation
  | valueTooLong
  | numericOverflow
  | lockTimeout
  | statementInvalid
  deriving DecidableEq, Repr

namespace FailureKind

def name : FailureKind → String
  | connectionUnavailable => "connection unavailable"
  | uniquenessViolation => "uniqueness violation"
  | notNullViolation => "not-null violation"
  | foreignKeyViolation => "foreign key violation"
  | valueTooLong => "value too long"
  | numericOverflow => "numeric overflow"
  | lockTimeout => "lock timeout"
  | statementInvalid => "statement invalid"

end FailureKind

structure StatementFailure where
  message : String
  sql : Option String
  binds : List Value
  cause : Option DriverFailure
  deriving BEq, Repr

namespace StatementFailure

def ofMessage (message : String) : StatementFailure :=
  ⟨message, none, [], none⟩

def ofDriver (cause : DriverFailure) : StatementFailure :=
  ⟨cause.message, none, [], some cause⟩

end StatementFailure

inductive Failure where
  | statement (kind : FailureKind) (failure : StatementFailure)
  | unsupportedVersion (product detected minimum : String)
  | invalidArgument (message : String)
  | configuration (message : String)
  | compile (error : CompileError)
  deriving BEq, Repr

namespace Failure

def kind? : Failure → Option FailureKind
  | statement k _ => some k
  | _ => none

def invalid (message : String) : Failure :=
  statement .statementInvalid (.ofMessage message)

end Failure

end PolySql

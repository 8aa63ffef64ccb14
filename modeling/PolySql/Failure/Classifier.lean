import PolySql.Failure.Basic
import PolySql.Text.Phrase

namespace PolySql

open Text

inductive FailureMatcher where
  | message (phrases : List Phrase)
  | sqlState (opening : String)
  | code (code : Int)
  deriving Repr

namespace FailureMatcher

def fits : FailureMatcher → DriverFailure → Bool
  | message phrases, f => phrases.any fun p => p.occursIn f.message
  | sqlState opening, f => f.sqlState.any fun state => startsWith state opening
  | code n, f => f.code == some n

end FailureMatcher

structure FailureRule where
  matcher : FailureMatcher
  kind : FailureKind
  deriving Repr

abbrev Classifier := List FailureRule

namespace Classifier

def classify (rules : Classifier) (f : DriverFailure) : FailureKind :=
  match rules.find? fun r => r.matcher.fits f with
  | some r => r.kind
  | none => .statementInvalid

def failure (rules : Classifier) (f : DriverFailure) (sql : Option String)
    (binds : List Value) : Failure :=
  .statement (rules.classify f) { StatementFailure.ofDriver f with sql := sql, binds := binds }

def onState (state : String) (kind : FailureKind) : FailureRule :=
  ⟨.sqlState state, kind⟩

def onMessage (phrases : List Phrase) (kind : FailureKind) : FailureRule :=
  ⟨.message phrases, kind⟩

def onCode (code : Int) (kind : FailureKind) : FailureRule :=
  ⟨.code code, kind⟩

def stateRules : Classifier :=
  [onState "08" .connectionUnavailable,
   onState "23505" .uniquenessViolation,
   onState "23502" .notNullViolation,
   onState "23503" .foreignKeyViolation,
   onState "22001" .valueTooLong,
   onState "22003" .numericOverflow]

def inAnyCase (words : String) : Phrase :=
  .anyCase [words]

def generic : Classifier :=
  stateRules ++
    [onMessage [inAnyCase "no connection available"] .connectionUnavailable,
     onMessage [inAnyCase "duplicate key", inAnyCase "unique constraint"] .uniquenessViolation]

end Classifier

end PolySql

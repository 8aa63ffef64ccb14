import PolySql.Failure.Classifier

namespace PolySql.SqlServer

open Classifier Text

def messageRules : Classifier :=
  [onMessage [inAnyCase "no connection available"] .connectionUnavailable,
   onMessage
      [.anyCase ["cannot insert duplicate key ", " with unique index"],
       inAnyCase "violation of unique key constraint"]
      .uniquenessViolation,
   onMessage
      [⟨["violation of primary key constraint ", " cannot insert duplicate key in object ",
          " the duplicate key value is"], true, true⟩]
      .uniquenessViolation,
   onMessage [inAnyCase "lock request time out period exceeded"] .lockTimeout,
   onMessage [.exact ["The ", " statement conflicted with the FOREIGN KEY constraint"]]
      .foreignKeyViolation,
   onMessage
      [.exact ["Could not drop object ", " because it is referenced by a FOREIGN KEY constraint"]]
      .statementInvalid,
   onMessage [.exact ["The ", " statement conflicted with the REFERENCE constraint"]]
      .foreignKeyViolation,
   onMessage [inAnyCase "string or binary data would be truncated"] .valueTooLong,
   onMessage [.exact ["Cannot insert the value NULL into column ", " does not allow nulls"]]
      .notNullViolation,
   onMessage [.exact ["Arithmetic overflow error converting expression"]] .numericOverflow,
   onMessage [.exact ["Snapshot isolation transaction aborted due to update conflict"]]
      .statementInvalid,
   onMessage [.exact ["Incorrect syntax near the keyword"]] .statementInvalid,
   onMessage [.exact ["Could not find stored procedure"]] .statementInvalid]

def classifier : Classifier :=
  messageRules ++ stateRules ++
    [onMessage [inAnyCase "cannot insert duplicate key"] .uniquenessViolation]

end PolySql.SqlServer

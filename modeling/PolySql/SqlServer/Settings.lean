import PolySql.Calendar.Timestamp
import PolySql.Database.Driver
import PolySql.Number.Integer
import PolySql.Text.Blank
import PolySql.Text.Cut

namespace PolySql.SqlServer

open Text Number Calendar

inductive Isolation where
  | readUncommitted
  | readCommitted
  | repeatableRead
  | serializable
  | snapshot
  deriving DecidableEq, Repr

namespace Isolation

def sql : Isolation → String
  | readUncommitted => "READ UNCOMMITTED"
  | readCommitted => "READ COMMITTED"
  | repeatableRead => "REPEATABLE READ"
  | serializable => "SERIALIZABLE"
  | snapshot => "SNAPSHOT"

end Isolation

structure Settings where
  host : String
  port : Option UInt16
  database : Option String
  namedInstance : Option String
  username : Option String
  password : Option String
  sendTimeAsDatetime : Bool
  loginTimeout : Option UInt64
  lockTimeout : UInt64
  encrypt : Option Bool
  trustServerCertificate : Option Bool
  applicationName : Option String
  integratedSecurity : Option Bool
  isolation : Option Isolation
  url : Option String
  timezone : Timezone
  deriving DecidableEq, Repr

namespace Settings

def standard : Settings where
  host := "localhost"
  port := none
  database := none
  namedInstance := none
  username := none
  password := none
  sendTimeAsDatetime := false
  loginTimeout := none
  lockTimeout := 5000
  encrypt := none
  trustServerCertificate := none
  applicationName := none
  integratedSecurity := none
  isolation := none
  url := none
  timezone := .utc

def namesServer (s : Settings) : Bool :=
  s.url.isSome || trimmed s.host != ""

def boolText (b : Bool) : String :=
  if b then "true" else "false"

def properties (s : Settings) : List (String × String) :=
  let given (key : String) (value : Option String) := value.toList.map fun v => (key, v)
  given "databaseName" s.database ++
    given "instanceName" s.namedInstance ++
    [("sendTimeAsDatetime", boolText s.sendTimeAsDatetime)] ++
    given "loginTimeout" (s.loginTimeout.map fun n => natText n.toNat) ++
    [("lockTimeout", natText s.lockTimeout.toNat)] ++
    given "encrypt" (s.encrypt.map boolText) ++
    given "trustServerCertificate" (s.trustServerCertificate.map boolText) ++
    given "applicationName" s.applicationName ++
    given "integratedSecurity" (s.integratedSecurity.map boolText)

def hostText (s : Settings) : String :=
  match s.port with
  | some port => s.host ++ ":" ++ natText port.toNat
  | none => s.host

def connectionUrl (s : Settings) : String :=
  match s.url with
  | some url => url
  | none =>
    "jdbc:sqlserver://" ++ s.hostText ++ ";" ++
      joined "" (s.properties.map fun p => p.1 ++ "=" ++ p.2 ++ ";")

def credentials (s : Settings) : Credentials :=
  ⟨s.username, s.password⟩

end Settings

end PolySql.SqlServer

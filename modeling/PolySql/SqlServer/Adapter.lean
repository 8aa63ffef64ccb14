import PolySql.Catalog
import PolySql.Compiler.Compile
import PolySql.Database.Scope
import PolySql.Database.Table
import PolySql.Failure.Message
import PolySql.SqlServer.Comparison
import PolySql.SqlServer.Dialect
import PolySql.SqlServer.InsertText
import PolySql.SqlServer.Plan
import PolySql.SqlServer.Settings
import PolySql.SqlServer.Version

namespace PolySql.SqlServer

open Text

def connectionFailure (s : Settings) (f : DriverFailure) : Failure :=
  let blames (name : String) := contains f.message name
  let message :=
    match s.database.filter blames, s.username.filter blames with
    | some database, _ =>
      "We could not find your database: " ++ database ++
        ". Available database configurations can be found in the connection settings"
    | none, some username =>
      "Access denied for user " ++ username ++ ". Please check your username and password"
    | none, none =>
      if blames s.host then "There is an issue connecting with your hostname: " ++ s.host
      else f.message
  .statement .connectionUnavailable ⟨message, none, [], some f⟩

structure Session where
  handle : Handle
  version : Version
  collation : Option String
  deriving DecidableEq, Repr

def collationQuery : String :=
  "SELECT Collation = CAST(SERVERPROPERTY('Collation') AS NVARCHAR(128))"

def referencingTablesQuery : String :=
  "SELECT s.name, o.name FROM sys.foreign_keys i " ++
    "INNER JOIN sys.objects o ON i.parent_object_id = o.OBJECT_ID " ++
    "INNER JOIN sys.schemas s ON o.schema_id = s.schema_id"

def databaseQuery : String := "SELECT DB_NAME()"

def truncateRefused : Phrase :=
  .exact ["Cannot truncate table ", " because it is being referenced by a FOREIGN KEY constraint"]

structure Adapter (σ : Type) where
  driver : Driver σ
  settings : Settings
  catalog : Catalog

abbrev Request (σ α : Type) := ExceptT Failure (Talk σ) α

abbrev Work (σ α : Type) := ExceptT Failure (StateT (Option Session) (Talk σ)) α

namespace Adapter

variable {σ : Type} (a : Adapter σ)

def dialect : Dialect :=
  dialectWith a.settings.timezone caseSensitiveCollation

def compile (s : Statement) : Except Failure Compiled :=
  match PolySql.compile a.dialect a.catalog s with
  | .ok c => .ok c
  | .error e => .error (.compile e)

def runQuery (h : Handle) (sql : String) (binds : List Value) : Request σ RowSet :=
  ExceptT.mk do
    match ← a.driver.runQuery h sql binds with
    | .ok rows => return .ok rows
    | .error f => return .error (classifier.failure f (some sql) binds)

def runExecute (h : Handle) (sql : String) : Request σ Nat :=
  ExceptT.mk do
    match ← a.driver.runExecute h sql with
    | .ok n => return .ok n
    | .error f => return .error (classifier.failure f (some sql) [])

def configure (h : Handle) : Request σ Version := do
  let rows ← a.runQuery h Version.query []
  match Version.ofRows? rows with
  | none => throw (.configuration "The server did not report its version")
  | some version =>
    ExceptT.mk (return version.check)
    match a.settings.isolation with
    | some level => do
      let _ ← a.runExecute h ("SET TRANSACTION ISOLATION LEVEL " ++ level.sql)
      return version
    | none => return version

def openSession : Request σ Session :=
  ExceptT.mk do
    match ← a.driver.open? a.settings.connectionUrl a.settings.credentials with
    | .error f => return .error (connectionFailure a.settings f)
    | .ok h =>
      match ← (a.configure h).run with
      | .ok version => return .ok ⟨h, version, none⟩
      | .error e =>
        let _ ← a.driver.close h
        return .error e

def getSession : Work σ (Option Session) :=
  ExceptT.lift get

def setSession (s : Option Session) : Work σ Unit :=
  ExceptT.lift (set s)

def onDriver {α : Type} (r : Request σ α) : Work σ α :=
  ExceptT.mk (StateT.lift r.run)

def renew : Work σ Unit := do
  let s ← onDriver a.openSession
  setSession (some s)

def isActive : Work σ Bool := do
  match ← getSession with
  | some s => onDriver (ExceptT.lift (a.driver.isOpen s.handle))
  | none => return false

def connect : Work σ Unit := do
  if ← a.isActive then return () else a.renew

def disconnect : Work σ Unit := do
  match ← getSession with
  | none => return ()
  | some s =>
    setSession none
    match ← onDriver (ExceptT.lift (a.driver.close s.handle)) with
    | none => return ()
    | some f => throw (.statement .connectionUnavailable (.ofDriver f))

def reconnect : Work σ Unit := do
  match ← getSession with
  | none => a.renew
  | some s =>
    setSession none
    let _ ← onDriver (ExceptT.lift (a.driver.close s.handle))
    a.renew

def reset : Work σ Unit :=
  a.reconnect

def serverVersion : Work σ (Option Version) := do
  return (← getSession).map (·.version)

def session : Work σ Session := do
  match ← getSession with
  | some s => return s
  | none =>
    let s ← onDriver a.openSession
    setSession (some s)
    return s

def withConnection {α : Type} (r : Handle → Request σ α) : Work σ α := do
  let s ← a.session
  onDriver (r s.handle)

def execQuery (sql : String) (binds : List Value) : Work σ RowSet :=
  a.withConnection fun h => a.runQuery h sql binds

def execute (sql : String) : Work σ Nat :=
  a.withConnection fun h => a.runExecute h sql

def selectValue (sql : String) (binds : List Value) : Work σ (Option Value) := do
  return (← a.execQuery sql binds).firstValue?

def currentDatabase : Work σ (Option String) := do
  return (← a.selectValue databaseQuery []).bind Value.asText?

def collation : Work σ (Option String) := do
  let s ← a.session
  match s.collation with
  | some c => return some c
  | none =>
    let rows ← onDriver (a.runQuery s.handle collationQuery [])
    let c := rows.firstValue?.bind Value.asText?
    setSession (some { s with collation := c })
    return c

def exactComparison (c : Column) (value : Expr) : Work σ Expr := do
  return SqlServer.exactComparison (← a.collation) c value

def execInsert (sql : String) (binds : List Value) : Work σ RowSet :=
  a.withConnection fun h =>
    match InsertText.identityTable? a.catalog sql with
    | none => a.runQuery h sql binds
    | some table =>
      let (switchOn, switchOff) := InsertText.identityStatements a.dialect table
      ExceptT.mk
        (Scope.during a.driver h "IDENTITY_INSERT" (" for table " ++ table) [switchOn] [switchOff]
          (a.runQuery h sql binds).run)

def isInsert : Statement → Bool
  | .insert _ => true
  | _ => false

def query (s : Statement) : Work σ RowSet := do
  let c ← ExceptT.mk (return a.compile s)
  if isInsert s then a.execInsert c.sql c.binds else a.execQuery c.sql c.binds

def runTruncate (h : Handle) (table : String) : Request σ Unit :=
  let name := a.dialect.quoteTable table
  ExceptT.mk do
    match ← (a.runExecute h ("TRUNCATE TABLE " ++ name)).run with
    | .ok _ => return .ok ()
    | .error e =>
      if truncateRefused.occursIn e.message then
        match ← (a.runExecute h ("DELETE FROM " ++ name)).run with
        | .ok _ => return .ok ()
        | .error e => return .error e
      else return .error e

def truncate (table : String) : Work σ Unit :=
  a.withConnection fun h => a.runTruncate h table

def rowTable? (d : Dialect) : List Value → Option String
  | .text schema :: .text table :: _ =>
    some (d.quoteIdentifier schema ++ "." ++ d.quoteIdentifier table)
  | _ => none

def distinctNames (names : List String) : List String :=
  names.foldl (fun seen n => if n ∈ seen then seen else seen ++ [n]) []

def referencingTables (h : Handle) : Request σ (List String) := do
  let rows ← a.runQuery h referencingTablesQuery []
  return distinctNames (rows.rows.filterMap (rowTable? a.dialect))

def tablesWithForeignKeys : Work σ (List String) :=
  a.withConnection a.referencingTables

def withoutForeignKeys {α : Type} (r : Handle → Request σ α) : Work σ α :=
  a.withConnection fun h => do
    let tables ← a.referencingTables h
    let disabling := tables.map fun t => "ALTER TABLE " ++ t ++ " NOCHECK CONSTRAINT ALL"
    let enabling := tables.map fun t => "ALTER TABLE " ++ t ++ " CHECK CONSTRAINT ALL"
    ExceptT.mk (Scope.during a.driver h "NOCHECK CONSTRAINT" "" disabling enabling (r h).run)

def each (r : String → Request σ Unit) : List String → Request σ Unit
  | [] => return ()
  | s :: rest => do
    r s
    each r rest

def truncateTables (tables : List String) : Work σ Unit :=
  if tables.isEmpty then return ()
  else a.withoutForeignKeys fun h => each (a.runTruncate h) tables

def explain (sql : String) (binds : List Value) : Work σ String := do
  let text := Plan.interpolate a.dialect sql binds
  let rows ← a.withConnection fun h =>
    ExceptT.mk
      (Scope.during a.driver h "SHOWPLAN_ALL" " (check SHOWPLAN permissions)" [Plan.switchOn]
        [Plan.switchOff] (a.runQuery h text []).run)
  return RowTable.draw rows

def explainStatement (s : Statement) : Work σ String := do
  let c ← ExceptT.mk (return a.compile s)
  a.explain c.sql c.binds

end Adapter

end PolySql.SqlServer

import PolySql.Database.RowSet
import PolySql.Failure.Basic

namespace PolySql

structure Credentials where
  username : Option String
  password : Option String
  deriving DecidableEq, Repr

abbrev Handle := Nat

structure Driver (σ : Type) where
  connect : Handle → String → Credentials → σ → Option DriverFailure × σ
  query : Handle → String → List Value → σ → Except DriverFailure RowSet × σ
  execute : Handle → String → σ → Except DriverFailure Nat × σ
  disconnect : Handle → σ → Option DriverFailure × σ
  isActive : Handle → σ → Bool

inductive Call where
  | query (sql : String) (binds : List Value)
  | execute (sql : String)
  | disconnect
  deriving BEq, Repr

inductive Event where
  | connect (url : String) (credentials : Credentials)
  | call (handle : Handle) (call : Call)
  deriving BEq, Repr

structure World (σ : Type) where
  state : σ
  opened : Nat
  trace : List Event

def World.start {σ : Type} (state : σ) : World σ :=
  ⟨state, 0, []⟩

abbrev Talk (σ : Type) := StateM (World σ)

namespace Driver

variable {σ : Type} (driver : Driver σ)

def open? (url : String) (credentials : Credentials) : Talk σ (Except DriverFailure Handle) :=
  fun w =>
    let asked := w.trace ++ [.connect url credentials]
    match driver.connect w.opened url credentials w.state with
    | (none, state) => (.ok w.opened, ⟨state, w.opened + 1, asked⟩)
    | (some failure, state) => (.error failure, ⟨state, w.opened, asked⟩)

def runQuery (h : Handle) (sql : String) (binds : List Value) :
    Talk σ (Except DriverFailure RowSet) :=
  fun w =>
    let (answer, state) := driver.query h sql binds w.state
    (answer, { w with state := state, trace := w.trace ++ [.call h (.query sql binds)] })

def runExecute (h : Handle) (sql : String) : Talk σ (Except DriverFailure Nat) :=
  fun w =>
    let (answer, state) := driver.execute h sql w.state
    (answer, { w with state := state, trace := w.trace ++ [.call h (.execute sql)] })

def close (h : Handle) : Talk σ (Option DriverFailure) :=
  fun w =>
    let (answer, state) := driver.disconnect h w.state
    (answer, { w with state := state, trace := w.trace ++ [.call h .disconnect] })

def isOpen (h : Handle) : Talk σ Bool :=
  fun w => (driver.isActive h w.state, w)

end Driver

end PolySql

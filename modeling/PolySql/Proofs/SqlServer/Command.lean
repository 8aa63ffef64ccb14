import PolySql.Proofs.SqlServer.Operation

namespace PolySql.SqlServer

open Driver

variable {σ α β : Type}

namespace Adapter

theorem onDriver_map (r : Request σ α) (f : α → β) :
    onDriver (r >>= fun x => pure (f x)) = (onDriver r >>= fun x => pure (f x) : Work σ β) := by
  refine ExceptT.ext (StateT.ext fun s => ?_)
  rw [ExceptT.run_bind, StateT.run_bind]
  simp only [onDriver, ExceptT.run_mk, StateT.run_lift, ExceptT.run_bind, bind_assoc]
  refine bind_congr fun result => ?_
  cases result <;> rfl

theorem after_withConnection_map (a : Adapter σ) (r : Handle → Request σ α) (f : α → β)
    (now : Situation σ) :
    after (a.withConnection fun h => r h >>= fun x => pure (f x)) now = after (a.withConnection r) now := by
  simp only [withConnection, onDriver_map]
  rw [← bind_assoc, after_map]

theorem runTruncate_eq (a : Adapter σ) (h : Handle) (table : String) :
    a.runTruncate h table = ExceptT.mk do
      match ← (a.runExecute h (a.truncateStatement table)).run with
      | .ok _ => return .ok ()
      | .error e =>
        if truncateRefused.occursIn e.message then
          match ← (a.runExecute h (a.deleteStatement table)).run with
          | .ok _ => return .ok ()
          | .error e => return .error e
        else return .error e :=
  rfl

theorem after_throw (e : Failure) (f : β → Work σ α) (now : Situation σ) :
    after ((ExceptT.mk (return .error e) : Work σ β) >>= f) now = now :=
  rfl

end Adapter

namespace Program

variable (a : Adapter σ) (h : Handle)

def emptying (t : String) (next : Program) : Program :=
  .execute (a.truncateStatement t) fun
  | .ok _ => next
  | .error f =>
    let e := classifier.failure f (some (a.truncateStatement t)) []
    if truncateRefused.occursIn e.message then
      .execute (a.deleteStatement t) fun
      | .ok _ => next
      | .error f => .done (.error (classifier.failure f (some (a.deleteStatement t)) []))
    else .done (.error e)

def truncation : List String → Program
  | [] => .done (.ok ())
  | t :: rest => emptying a t (truncation rest)

theorem run_emptying (t : String) (next : Program) :
    (emptying a t next).run a.driver h =
      (a.runTruncate h t >>= fun _ => ExceptT.mk (next.run a.driver h)).run := by
  rw [emptying, run, ExceptT.run_bind, Adapter.runTruncate_eq]
  simp only [ExceptT.run_mk, bind_assoc, Adapter.runExecute]
  refine bind_congr fun answer => ?_
  cases answer with
  | ok n => rfl
  | error f =>
    simp only [pure_bind]
    by_cases href : truncateRefused.occursIn
        (classifier.failure f (some (a.truncateStatement t)) []).message = true
    · simp only [if_pos href, bind_assoc]
      rw [run]
      refine bind_congr fun answer => ?_
      cases answer <;> rfl
    · simp only [if_neg href]
      rfl

theorem run_truncation (tables : List String) :
    (truncation a tables).run a.driver h = (Adapter.each (a.runTruncate h) tables).run := by
  induction tables with
  | nil => rfl
  | cons t rest ih =>
    rw [truncation, run_emptying, ih]
    rfl

end Program

inductive Command where
  | operation (op : Operation)
  | isActive
  | serverVersion
  | selectValue (sql : String) (binds : List Value)
  | currentDatabase
  | exactComparison (column : Column) (value : Expr)
  | statement (s : Statement)
  | truncateTables (tables : List String)
  | tablesWithForeignKeys
  | explainStatement (s : Statement)

namespace Command

variable (a : Adapter σ)

def work : Command → Work σ Unit
  | operation op => op.work a
  | isActive => a.isActive >>= fun _ => pure ()
  | serverVersion => Adapter.serverVersion >>= fun _ => pure ()
  | selectValue sql binds => a.selectValue sql binds >>= fun _ => pure ()
  | currentDatabase => a.currentDatabase >>= fun _ => pure ()
  | exactComparison column value => a.exactComparison column value >>= fun _ => pure ()
  | statement s => a.query s >>= fun _ => pure ()
  | truncateTables tables => a.truncateTables tables
  | tablesWithForeignKeys => a.tablesWithForeignKeys >>= fun _ => pure ()
  | explainStatement s => a.explainStatement s >>= fun _ => pure ()

def operation? : Command → Option Operation
  | operation op => some op
  | isActive | serverVersion => none
  | selectValue sql binds => some (.query sql binds)
  | currentDatabase => some (.query databaseQuery [])
  | exactComparison _ _ => some .collation
  | statement s =>
    (a.compile s).toOption.map fun c =>
      if Adapter.isInsert s then .insert c.sql c.binds else .query c.sql c.binds
  | truncateTables tables =>
    if tables.isEmpty then none else some (.withoutForeignKeys (.truncation a tables))
  | tablesWithForeignKeys => some (.query referencingTablesQuery [])
  | explainStatement s => (a.compile s).toOption.map fun c => .explain c.sql c.binds

theorem after_work (c : Command) (now : Situation σ) :
    Adapter.after (c.work a) now =
      match c.operation? a with
      | some op => Adapter.after (op.work a) now
      | none => now := by
  cases c with
  | operation op => rfl
  | isActive =>
    obtain ⟨s, w⟩ := now
    cases s <;> rfl
  | serverVersion => rfl
  | selectValue sql binds =>
    simp only [work, operation?, Operation.work, Adapter.after_map]
    exact Adapter.after_map ..
  | currentDatabase =>
    simp only [work, operation?, Operation.work, Adapter.after_map]
    exact (Adapter.after_map ..).trans (Adapter.after_map ..)
  | exactComparison column value =>
    simp only [work, operation?, Operation.work, Adapter.after_map]
    exact Adapter.after_map ..
  | statement s =>
    simp only [work, operation?, Adapter.after_map, Adapter.query]
    cases a.compile s with
    | error e => exact Adapter.after_throw e _ now
    | ok c =>
      dsimp only [Except.toOption, Option.map]
      cases Adapter.isInsert s with
      | true => exact (Adapter.after_map (a.execInsert c.sql c.binds) (fun _ => ()) now).symm
      | false => exact (Adapter.after_map (a.execQuery c.sql c.binds) (fun _ => ()) now).symm
  | truncateTables tables =>
    rw [work, operation?, Adapter.truncateTables]
    split
    · rfl
    · simp only [Operation.work, Program.run_truncation]
      rfl
  | tablesWithForeignKeys =>
    simp only [work, operation?, Operation.work, Adapter.after_map]
    exact a.after_withConnection_map (fun h => a.runQuery h referencingTablesQuery []) a.referenced now
  | explainStatement s =>
    simp only [work, operation?, Adapter.after_map, Adapter.explainStatement]
    cases a.compile s with
    | error e => exact Adapter.after_throw e _ now
    | ok c => exact (Adapter.after_map (a.explain c.sql c.binds) (fun _ => ()) now).symm

end Command

inductive Step (σ : Type) where
  | command (c : Command)
  | drift (change : σ → σ)

namespace Step

variable (a : Adapter σ)

def advance (now : Situation σ) : Step σ → Situation σ
  | command c => Adapter.after (c.work a) now
  | drift change => (now.1, { now.2 with state := change now.2.state })

end Step

namespace Adapter

variable (a : Adapter σ)

def run (steps : List (Step σ)) (start : Situation σ) : Situation σ :=
  steps.foldl (Step.advance a) start

inductive Ran : List (Step σ) → Situation σ → List Exchange → Prop
  | nil (now : Situation σ) : Ran [] now []
  | command {c : Command} {steps : List (Step σ)} {now : Situation σ} {log log' : List Exchange} :
    a.driver.Talked now.2 log (after (c.work a) now).2 → Ran steps (after (c.work a) now) log' →
      Ran (.command c :: steps) now (log ++ log')
  | drift {change : σ → σ} {steps : List (Step σ)} {now : Situation σ} {log : List Exchange} :
    Ran steps (Step.advance a now (.drift change)) log → Ran (.drift change :: steps) now log

end Adapter

end PolySql.SqlServer

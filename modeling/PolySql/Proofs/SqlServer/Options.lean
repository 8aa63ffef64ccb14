import PolySql.Proofs.Database.Switched
import PolySql.SqlServer.Adapter

namespace PolySql.SqlServer

open Driver Scope

namespace Adapter

variable {σ α : Type} (a : Adapter σ) (h : Handle)

theorem says_runQuery (sql : String) (binds : List Value) :
    a.driver.Says (a.runQuery h sql binds).run fun result log =>
      ∃ answer, log = [⟨.call h (.query sql binds), .rows answer⟩] ∧
        result = answer.mapError fun f => classifier.failure f (some sql) binds := by
  refine (Driver.says_runQuery h sql binds).bind fun answer log hlog => ?_
  subst hlog
  cases answer with
  | ok rows => exact says_pure ⟨.ok rows, rfl, rfl⟩
  | error f => exact says_pure ⟨.error f, rfl, rfl⟩

theorem says_runExecute (sql : String) :
    a.driver.Says (a.runExecute h sql).run fun result log =>
      ∃ answer, log = [⟨.call h (.execute sql), .count answer⟩] ∧
        result = answer.mapError fun f => classifier.failure f (some sql) [] := by
  refine (Driver.says_runExecute h sql).bind fun answer log hlog => ?_
  subst hlog
  cases answer with
  | ok n => exact says_pure ⟨.ok n, rfl, rfl⟩
  | error f => exact says_pure ⟨.error f, rfl, rfl⟩

def truncateStatement (table : String) : String :=
  "TRUNCATE TABLE " ++ a.dialect.quoteTable table

def deleteStatement (table : String) : String :=
  "DELETE FROM " ++ a.dialect.quoteTable table

inductive Emptied (table : String) : Bool → List Exchange → Prop
  | truncated (n : Nat) : Emptied table true [⟨.call h (.execute (a.truncateStatement table)), .count (.ok n)⟩]
  | failed {f : DriverFailure} : truncateRefused.occursIn f.message = false →
    Emptied table false [⟨.call h (.execute (a.truncateStatement table)), .count (.error f)⟩]
  | deleted {f : DriverFailure} (answer : Except DriverFailure Nat) :
    truncateRefused.occursIn f.message = true →
      Emptied table answer.isOk
        [⟨.call h (.execute (a.truncateStatement table)), .count (.error f)⟩,
          ⟨.call h (.execute (a.deleteStatement table)), .count answer⟩]

theorem says_runTruncate (table : String) :
    a.driver.Says (a.runTruncate h table).run fun result log => a.Emptied h table result.isOk log := by
  refine (a.says_runExecute h (a.truncateStatement table)).bind fun result log hlog => ?_
  obtain ⟨answer, rfl, rfl⟩ := hlog
  cases answer with
  | ok n => exact says_pure (.truncated n)
  | error f =>
    dsimp only [Except.mapError]
    split
    · rename_i href
      refine (a.says_runExecute h (a.deleteStatement table)).bind fun result log hlog => ?_
      obtain ⟨answer, rfl, rfl⟩ := hlog
      have hdeleted : a.Emptied h table answer.isOk
          [⟨.call h (.execute (a.truncateStatement table)), .count (.error f)⟩,
            ⟨.call h (.execute (a.deleteStatement table)), .count answer⟩] :=
        .deleted answer href
      cases answer with
      | ok n => exact says_pure hdeleted
      | error f' => exact says_pure hdeleted
    · rename_i href
      exact says_pure (.failed (Bool.eq_false_iff.2 href))

theorem says_each {P : String → Bool → List Exchange → Prop} {r : String → Request σ Unit}
    (hr : ∀ t, a.driver.Says (r t).run fun result => P t result.isOk) (ts : List String) :
    a.driver.Says (each r ts).run fun result log => UpToFailure P ts result.isOk log := by
  induction ts with
  | nil => exact says_pure .nil
  | cons t rest ih =>
    refine (hr t).bindExcept (fun e log hlog => .failed hlog) fun _ log hlog => ?_
    exact ih.imp fun _ log' hlog' => .cons hlog hlog'

def referenced (rows : RowSet) : List String :=
  distinctNames (rows.rows.filterMap (rowTable? a.dialect))

def noCheck (table : String) : String :=
  "ALTER TABLE " ++ table ++ " NOCHECK CONSTRAINT ALL"

def check (table : String) : String :=
  "ALTER TABLE " ++ table ++ " CHECK CONSTRAINT ALL"

theorem mem_foldl_distinct {names seen : List String} {name : String} :
    name ∈ names.foldl (fun seen n => if n ∈ seen then seen else seen ++ [n]) seen ↔
      name ∈ seen ∨ name ∈ names := by
  induction names generalizing seen with
  | nil => simp
  | cons n names ih =>
    rw [List.foldl_cons, ih, List.mem_cons]
    split
    · rename_i hn
      constructor
      · exact Or.imp_right .inr
      · rintro (h | rfl | h)
        · exact .inl h
        · exact .inl hn
        · exact .inr h
    · rw [List.mem_append, List.mem_singleton, or_assoc]

theorem nodup_foldl_distinct {names seen : List String} (h : seen.Nodup) :
    (names.foldl (fun seen n => if n ∈ seen then seen else seen ++ [n]) seen).Nodup := by
  induction names generalizing seen with
  | nil => exact h
  | cons n names ih =>
    rw [List.foldl_cons]
    refine ih ?_
    split
    · exact h
    · rename_i hn
      refine List.nodup_append.2 ⟨h, List.pairwise_singleton _ _, ?_⟩
      rintro m hm _ hm' rfl
      exact hn (List.mem_singleton.1 hm' ▸ hm)

theorem nodup_referenced (rows : RowSet) : (a.referenced rows).Nodup :=
  nodup_foldl_distinct List.nodup_nil

theorem rowTable?_eq_some_iff {d : Dialect} {row : List Value} {name : String} :
    rowTable? d row = some name ↔ ∃ schema table rest, row = .text schema :: .text table :: rest ∧
      name = d.quoteIdentifier schema ++ "." ++ d.quoteIdentifier table := by
  constructor
  · intro h
    unfold rowTable? at h
    split at h
    · exact ⟨_, _, _, rfl, (Option.some.inj h).symm⟩
    · cases h
  · rintro ⟨schema, table, rest, rfl, rfl⟩
    rfl

theorem mem_referenced {rows : RowSet} {name : String} :
    name ∈ a.referenced rows ↔ ∃ schema table rest, .text schema :: .text table :: rest ∈ rows.rows ∧
      name = a.dialect.quoteIdentifier schema ++ "." ++ a.dialect.quoteIdentifier table := by
  rw [referenced, distinctNames, mem_foldl_distinct, List.mem_filterMap]
  simp only [rowTable?_eq_some_iff, List.not_mem_nil, false_or]
  constructor
  · rintro ⟨row, hrow, schema, table, rest, rfl, hname⟩
    exact ⟨schema, table, rest, hrow, hname⟩
  · rintro ⟨schema, table, rest, hrow, hname⟩
    exact ⟨_, hrow, schema, table, rest, rfl, hname⟩

theorem says_referencingTables :
    a.driver.Says (a.referencingTables h).run fun result log =>
      ∃ answer, log = [⟨.call h (.query referencingTablesQuery []), .rows answer⟩] ∧
        result = (answer.mapError fun f =>
          classifier.failure f (some referencingTablesQuery) []).map a.referenced := by
  refine (a.says_runQuery h referencingTablesQuery []).bindExcept ?_ ?_
  · rintro e log ⟨answer, rfl, he⟩
    exact ⟨answer, rfl, by rw [← he]; rfl⟩
  · rintro rows log ⟨answer, rfl, hrows⟩
    refine says_pure ⟨answer, rfl, ?_⟩
    rw [← hrows]
    rfl

inductive Unchecked (body : List Exchange → Prop) : List Exchange → Prop
  | unknown (f : DriverFailure) :
    Unchecked body [⟨.call h (.query referencingTablesQuery []), .rows (.error f)⟩]
  | switched (rows : RowSet) {log : List Exchange} :
    Switched h ((a.referenced rows).map noCheck) ((a.referenced rows).map check) body log →
      Unchecked body (⟨.call h (.query referencingTablesQuery []), .rows (.ok rows)⟩ :: log)

def Asked (sql : String) (binds : List Value) (log : List Exchange) : Prop :=
  ∃ answer, log = [⟨.call h (.query sql binds), .rows answer⟩]

def insertOn (sql : String) (binds : List Value) (h : Handle) : Request σ RowSet :=
  match InsertText.identityTable? a.catalog sql with
  | none => a.runQuery h sql binds
  | some table =>
    let (switchOn, switchOff) := InsertText.identityStatements a.dialect table
    ExceptT.mk
      (Scope.during a.driver h "IDENTITY_INSERT" (" for table " ++ table) [switchOn] [switchOff]
        (a.runQuery h sql binds).run)

theorem execInsert_eq (sql : String) (binds : List Value) :
    a.execInsert sql binds = a.withConnection (a.insertOn sql binds) :=
  rfl

theorem says_insertOn {sql table : String} {binds : List Value}
    (ht : InsertText.identityTable? a.catalog sql = some table) :
    a.driver.Says (a.insertOn sql binds h).run fun _ =>
      Switched h [(InsertText.identityStatements a.dialect table).1]
        [(InsertText.identityStatements a.dialect table).2] (Asked h sql binds) := by
  unfold insertOn
  rw [ht]
  exact says_during ((a.says_runQuery h sql binds).imp fun _ _ hlog => ⟨_, hlog.choose_spec.1⟩)

def explainOn (sql : String) (binds : List Value) (h : Handle) : Request σ RowSet :=
  ExceptT.mk
    (Scope.during a.driver h "SHOWPLAN_ALL" " (check SHOWPLAN permissions)" [Plan.switchOn]
      [Plan.switchOff] (a.runQuery h (Plan.interpolate a.dialect sql binds) []).run)

theorem explain_eq (sql : String) (binds : List Value) :
    a.explain sql binds =
      (a.withConnection (a.explainOn sql binds) >>= fun rows => pure (RowTable.draw rows)) :=
  rfl

theorem says_explainOn (sql : String) (binds : List Value) :
    a.driver.Says (a.explainOn sql binds h).run fun _ =>
      Switched h [Plan.switchOn] [Plan.switchOff] (Asked h (Plan.interpolate a.dialect sql binds) []) :=
  says_during ((a.says_runQuery h _ []).imp fun _ _ hlog => ⟨_, hlog.choose_spec.1⟩)

def uncheckedOn (r : Handle → Request σ α) (h : Handle) : Request σ α := do
  let tables ← a.referencingTables h
  ExceptT.mk (Scope.during a.driver h "NOCHECK CONSTRAINT" "" (tables.map noCheck) (tables.map check)
    (r h).run)

theorem withoutForeignKeys_eq (r : Handle → Request σ α) :
    a.withoutForeignKeys r = a.withConnection (a.uncheckedOn r) :=
  rfl

theorem says_uncheckedOn {r : Handle → Request σ α} {P : List Exchange → Prop}
    (hr : a.driver.Says (r h).run fun _ => P) :
    a.driver.Says (a.uncheckedOn r h).run fun _ => a.Unchecked h P := by
  refine (a.says_referencingTables h).bindExcept ?_ ?_
  · rintro e log ⟨answer, rfl, he⟩
    cases answer with
    | ok rows => cases he
    | error f => exact .unknown f
  · rintro tables log ⟨answer, rfl, htables⟩
    cases answer with
    | error f => cases htables
    | ok rows =>
      obtain rfl : tables = a.referenced rows := Except.ok.inj htables
      exact (says_during hr).imp fun _ _ hlog => .switched rows hlog

variable {a h}

theorem run_withConnection (r : Handle → Request σ α) (s : Session) :
    (a.withConnection r).run.run (some s) =
      (r s.handle).run >>= fun result => pure (result, some s) :=
  rfl

theorem says_withConnection {r : Handle → Request σ α} {s : Session}
    {P : Except Failure α → List Exchange → Prop} (hr : a.driver.Says (r s.handle).run P) :
    a.driver.Says ((a.withConnection r).run.run (some s)) fun result => P result.1 := by
  rw [run_withConnection]
  exact hr.bind_pure fun _ _ hlog => hlog

theorem says_map {β : Type} {x : Work σ α} {f : α → β} {session : Option Session}
    {P : Option Session → List Exchange → Prop}
    (hx : a.driver.Says (x.run.run session) fun result => P result.2) :
    a.driver.Says ((x >>= fun r => pure (f r)).run.run session) fun result => P result.2 := by
  rw [ExceptT.run_bind, StateT.run_bind]
  refine hx.bind fun result log hlog => ?_
  obtain ⟨result, session'⟩ := result
  cases result with
  | error e => exact says_pure ((List.append_nil log).symm ▸ hlog)
  | ok r => exact says_pure ((List.append_nil log).symm ▸ hlog)

variable (a)

theorem says_switched (s : Session) :
    (∀ sql binds table, InsertText.identityTable? a.catalog sql = some table →
      a.driver.Says ((a.execInsert sql binds).run.run (some s)) fun _ =>
        Switched s.handle [(InsertText.identityStatements a.dialect table).1]
          [(InsertText.identityStatements a.dialect table).2] (Asked s.handle sql binds)) ∧
    (∀ sql binds, a.driver.Says ((a.explain sql binds).run.run (some s)) fun _ =>
      Switched s.handle [Plan.switchOn] [Plan.switchOff]
        (Asked s.handle (Plan.interpolate a.dialect sql binds) [])) ∧
    (∀ (α : Type) (body : Handle → Request σ α) (P : List Exchange → Prop),
      a.driver.Says (body s.handle).run (fun _ => P) →
        a.driver.Says ((a.withoutForeignKeys body).run.run (some s)) fun _ =>
          a.Unchecked s.handle P) ∧
    (∀ tables, tables ≠ [] →
      a.driver.Says ((a.truncateTables tables).run.run (some s)) fun _ =>
        a.Unchecked s.handle fun log => ∃ ok, UpToFailure (a.Emptied s.handle) tables ok log) ∧
    ∀ rows, (a.referenced rows).Nodup ∧
      ∀ name, name ∈ a.referenced rows ↔
        ∃ schema table rest, .text schema :: .text table :: rest ∈ rows.rows ∧
          name = a.dialect.quoteIdentifier schema ++ "." ++ a.dialect.quoteIdentifier table := by
  refine ⟨?_, ?_, ?_, ?_, ?_⟩
  · intro sql binds table ht
    rw [execInsert_eq]
    exact says_withConnection (a.says_insertOn s.handle ht)
  · intro sql binds
    rw [explain_eq]
    exact says_map (P := fun _ => Switched _ _ _ _)
      (says_withConnection (a.says_explainOn s.handle sql binds))
  · intro α body P hbody
    rw [withoutForeignKeys_eq]
    exact says_withConnection (a.says_uncheckedOn s.handle hbody)
  · intro tables hne
    rw [truncateTables, if_neg (by simpa using hne)]
    refine says_withConnection (a.says_uncheckedOn s.handle ?_)
    exact (a.says_each (a.says_runTruncate s.handle) tables).imp fun result _ hlog => ⟨result.isOk, hlog⟩
  · exact fun rows => ⟨a.nodup_referenced rows, fun _ => a.mem_referenced⟩

def lostConnection : DriverFailure :=
  ⟨"Communication link failure", none, some "08S01"⟩

def referencedLines : RowSet :=
  ⟨["schema", "table"],
    [[.text "dbo", .text "lines"], [.null, .text "lines"], [.text "dbo", .text "lines"]]⟩

def answering : Driver (List (Except DriverFailure RowSet)) where
  connect _ _ _ answers := (none, answers)
  query _ _ _ answers := (answers.headD (.ok .empty), answers.tail)
  execute _ _ answers := ((answers.headD (.ok .empty)).map RowSet.size, answers.tail)
  disconnect _ answers := (none, answers)
  isActive _ _ := true

def orders : Adapter (List (Except DriverFailure RowSet)) where
  driver := answering
  settings := .standard
  catalog := ⟨fun _ => ["id"], fun _ => [⟨"id", "int identity", false, none, none⟩]⟩

def openSession2019 : Session :=
  ⟨0, .parse "15.0.2000.5", none⟩

theorem says_switched_orders :
    (answering.Says
      ((orders.execInsert "INSERT INTO [orders] ([id]) VALUES (1)" []).run.run
        (some openSession2019)) fun _ =>
      Switched 0 ["SET IDENTITY_INSERT [orders] ON"] ["SET IDENTITY_INSERT [orders] OFF"]
        (Asked 0 "INSERT INTO [orders] ([id]) VALUES (1)" [])) ∧
    (answering.Says
      ((orders.withoutForeignKeys fun h =>
        orders.runExecute h "DELETE FROM [orders]").run.run (some openSession2019)) fun _ =>
      orders.Unchecked 0 fun log =>
        ∃ answer, log = [⟨.call 0 (.execute "DELETE FROM [orders]"), .count answer⟩]) ∧
    (answering.Says
      ((orders.truncateTables ["orders"]).run.run (some openSession2019)) fun _ =>
      orders.Unchecked 0 fun log =>
        ∃ ok, UpToFailure (orders.Emptied 0) ["orders"] ok log) ∧
    (((orders.withoutForeignKeys fun h =>
        orders.runExecute h "DELETE FROM [orders]").run.run (some openSession2019)).run
          (World.start
            [.ok referencedLines, .ok .empty, .error lostConnection, .error lostConnection])).2.trace =
      [.call 0 (.query referencingTablesQuery []),
        .call 0 (.execute "ALTER TABLE [dbo].[lines] NOCHECK CONSTRAINT ALL"),
        .call 0 (.execute "DELETE FROM [orders]"),
        .call 0 (.execute "ALTER TABLE [dbo].[lines] CHECK CONSTRAINT ALL")] := by
  obtain ⟨hinsert, -, hbody, htables, -⟩ := orders.says_switched openSession2019
  refine ⟨hinsert _ [] "[orders]" (by decide), hbody Nat _ _ ?_, htables ["orders"] (List.cons_ne_nil _ _), rfl⟩
  exact (orders.says_runExecute 0 _).imp fun _ _ hlog => ⟨_, hlog.choose_spec.1⟩

end Adapter

end PolySql.SqlServer

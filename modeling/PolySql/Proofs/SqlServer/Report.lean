import PolySql.Proofs.Database.Report
import PolySql.Proofs.SqlServer.Options

namespace PolySql.SqlServer

open Driver Scope

namespace Adapter

variable {σ α : Type} (a : Adapter σ) (h : Handle)

inductive Queried (sql : String) (binds : List Value) : List Turn → Prop
  | intro (answer : Except DriverFailure RowSet) :
    Queried sql binds [⟨.working, ⟨.call h (.query sql binds), .rows answer⟩⟩]

inductive Executed (sql : String) : List Turn → Prop
  | intro (answer : Except DriverFailure Nat) :
    Executed sql [⟨.working, ⟨.call h (.execute sql), .count answer⟩⟩]

inductive HeldUnchecked (P : List Turn → Prop) : List Turn → Prop
  | unknown (f : DriverFailure) :
    HeldUnchecked P [⟨.working, ⟨.call h (.query referencingTablesQuery []), .rows (.error f)⟩⟩]
  | switched (rows : RowSet) {turns : List Turn} :
    Held h "NOCHECK CONSTRAINT" "" ((a.referenced rows).map noCheck) ((a.referenced rows).map check) P
      turns →
      HeldUnchecked P
        (⟨.working, ⟨.call h (.query referencingTablesQuery []), .rows (.ok rows)⟩⟩ :: turns)

theorem told_runQuery (sql : String) (binds : List Value) :
    a.driver.Says (a.runQuery h sql binds).run (Told classifier (Queried h sql binds)) := by
  refine (a.says_runQuery h sql binds).imp fun result log hlog => ?_
  obtain ⟨answer, rfl, rfl⟩ := hlog
  refine ⟨_, rfl, .intro answer, .working ?_⟩
  cases answer <;> rfl

theorem told_runExecute (sql : String) :
    a.driver.Says (a.runExecute h sql).run (Told classifier (Executed h sql)) := by
  refine (a.says_runExecute h sql).imp fun result log hlog => ?_
  obtain ⟨answer, rfl, rfl⟩ := hlog
  refine ⟨_, rfl, .intro answer, .working ?_⟩
  cases answer <;> rfl

theorem told_insertOn {sql table : String} {binds : List Value}
    (ht : InsertText.identityTable? a.catalog sql = some table) :
    a.driver.Says (a.insertOn sql binds h).run
      (Told classifier (Held h "IDENTITY_INSERT" (" for table " ++ table)
        [(InsertText.identityStatements a.dialect table).1]
        [(InsertText.identityStatements a.dialect table).2] (Queried h sql binds))) := by
  unfold insertOn
  rw [ht]
  exact told_during (a.told_runQuery h sql binds)

theorem told_explainOn (sql : String) (binds : List Value) :
    a.driver.Says (a.explainOn sql binds h).run
      (Told classifier (Held h "SHOWPLAN_ALL" " (check SHOWPLAN permissions)" [Plan.switchOn]
        [Plan.switchOff] (Queried h (Plan.interpolate a.dialect sql binds) []))) :=
  told_during (a.told_runQuery h _ [])

theorem told_uncheckedOn {r : Handle → Request σ α} {P : List Turn → Prop}
    (hr : a.driver.Says (r h).run (Told classifier P)) :
    a.driver.Says (a.uncheckedOn r h).run (Told classifier (a.HeldUnchecked h P)) := by
  refine (a.says_referencingTables h).bindExcept ?_ ?_
  · rintro e log ⟨answer, rfl, he⟩
    cases answer with
    | ok rows => cases he
    | error f =>
      obtain rfl := Except.error.inj he
      exact ⟨_, rfl, .unknown f, .working rfl⟩
  · rintro tables log ⟨answer, rfl, htables⟩
    cases answer with
    | error f => cases htables
    | ok rows =>
      obtain rfl : tables = a.referenced rows := Except.ok.inj htables
      refine (told_during hr).imp fun result log hlog => ?_
      obtain ⟨turns, rfl, hturns, hreports⟩ := hlog
      exact ⟨_, rfl, .switched rows hturns, hreports.append_of_quiet (List.forall_mem_singleton.2 rfl)⟩

variable {a h}

theorem told_map {β : Type} {x : Work σ α} {f : α → β} {session : Option Session}
    {P : List Turn → Prop}
    (hx : a.driver.Says (x.run.run session) fun result => Told classifier P result.1) :
    a.driver.Says ((x >>= fun r => pure (f r)).run.run session) fun result =>
      Told classifier P result.1 := by
  rw [ExceptT.run_bind, StateT.run_bind]
  refine hx.bind fun result log hlog => ?_
  rw [← List.append_nil log] at hlog
  obtain ⟨result, session'⟩ := result
  cases result with
  | error e => exact says_pure hlog
  | ok r => exact says_pure hlog

variable (a)

theorem reports_first_refusal (s : Session) :
    (∀ sql binds, a.driver.Says ((a.execQuery sql binds).run.run (some s)) fun result =>
      Told classifier (Queried s.handle sql binds) result.1) ∧
    (∀ sql, a.driver.Says ((a.execute sql).run.run (some s)) fun result =>
      Told classifier (Executed s.handle sql) result.1) ∧
    (∀ sql binds, InsertText.identityTable? a.catalog sql = none →
      a.driver.Says ((a.execInsert sql binds).run.run (some s)) fun result =>
        Told classifier (Queried s.handle sql binds) result.1) ∧
    (∀ sql binds table, InsertText.identityTable? a.catalog sql = some table →
      a.driver.Says ((a.execInsert sql binds).run.run (some s)) fun result =>
        Told classifier (Held s.handle "IDENTITY_INSERT" (" for table " ++ table)
          [(InsertText.identityStatements a.dialect table).1]
          [(InsertText.identityStatements a.dialect table).2] (Queried s.handle sql binds)) result.1) ∧
    (∀ sql binds, a.driver.Says ((a.explain sql binds).run.run (some s)) fun result =>
      Told classifier (Held s.handle "SHOWPLAN_ALL" " (check SHOWPLAN permissions)" [Plan.switchOn]
        [Plan.switchOff] (Queried s.handle (Plan.interpolate a.dialect sql binds) [])) result.1) ∧
    ∀ (α : Type) (body : Handle → Request σ α) (P : List Turn → Prop),
      a.driver.Says (body s.handle).run (Told classifier P) →
        a.driver.Says ((a.withoutForeignKeys body).run.run (some s)) fun result =>
          Told classifier (a.HeldUnchecked s.handle P) result.1 := by
  refine ⟨?_, ?_, ?_, ?_, ?_, ?_⟩
  · exact fun sql binds => says_withConnection (a.told_runQuery s.handle sql binds)
  · exact fun sql => says_withConnection (a.told_runExecute s.handle sql)
  · intro sql binds ht
    rw [execInsert_eq]
    refine says_withConnection ?_
    unfold insertOn
    rw [ht]
    exact a.told_runQuery s.handle sql binds
  · intro sql binds table ht
    rw [execInsert_eq]
    exact says_withConnection (a.told_insertOn s.handle ht)
  · intro sql binds
    rw [explain_eq]
    exact told_map (says_withConnection (a.told_explainOn s.handle sql binds))
  · intro α body P hbody
    rw [withoutForeignKeys_eq]
    exact says_withConnection (a.told_uncheckedOn s.handle hbody)

def lockTimeout : DriverFailure :=
  ⟨"Lock request time out period exceeded.", some 1222, some "08S01"⟩

theorem reports_first_refusal_lockTimeout :
    (answering.Says
      ((orders.execInsert "INSERT INTO [orders] ([id]) VALUES (?)" [.int 1]).run.run
        (some openSession2019)) fun result =>
      Told classifier (Held 0 "IDENTITY_INSERT" " for table [orders]" ["SET IDENTITY_INSERT [orders] ON"]
        ["SET IDENTITY_INSERT [orders] OFF"]
        (Queried 0 "INSERT INTO [orders] ([id]) VALUES (?)" [.int 1])) result.1) ∧
    (answering.Says
      ((orders.withoutForeignKeys fun h =>
        orders.runExecute h "DELETE FROM [orders]").run.run (some openSession2019)) fun result =>
      Told classifier (orders.HeldUnchecked 0 (Executed 0 "DELETE FROM [orders]")) result.1) ∧
    (failureOf (((orders.execInsert "INSERT INTO [orders] ([id]) VALUES (?)" [.int 1]).run.run
        (some openSession2019)).run
          (World.start [.ok .empty, .error lockTimeout, .error lostConnection])).1.1 ==
      some (.statement .lockTimeout ⟨lockTimeout.message, some "INSERT INTO [orders] ([id]) VALUES (?)",
        [.int 1], some lockTimeout⟩)) = true := by
  obtain ⟨-, -, -, hinsert, -, hbody⟩ := orders.reports_first_refusal openSession2019
  exact ⟨hinsert _ [.int 1] "[orders]" (by decide),
    hbody Nat _ _ (orders.told_runExecute 0 "DELETE FROM [orders]"), by decide +kernel⟩

end Adapter

end PolySql.SqlServer

import PolySql.Proofs.SqlServer.Session

namespace PolySql.SqlServer

open Driver Scope

inductive Program where
  | done (result : Except Failure Unit)
  | query (sql : String) (binds : List Value) (next : Except DriverFailure RowSet → Program)
  | execute (sql : String) (next : Except DriverFailure Nat → Program)

namespace Program

variable {σ : Type}

def run (driver : Driver σ) (h : Handle) : Program → Talk σ (Except Failure Unit)
  | done result => return result
  | query sql binds next => do (next (← driver.runQuery h sql binds)).run driver h
  | execute sql next => do (next (← driver.runExecute h sql)).run driver h

inductive Sends (c : Call) : Program → Prop
  | query {sql : String} {binds : List Value} {next : Except DriverFailure RowSet → Program} :
    c = .query sql binds → Sends c (.query sql binds next)
  | afterQuery {sql : String} {binds : List Value} {next : Except DriverFailure RowSet → Program}
    {answer : Except DriverFailure RowSet} : Sends c (next answer) → Sends c (.query sql binds next)
  | execute {sql : String} {next : Except DriverFailure Nat → Program} :
    c = .execute sql → Sends c (.execute sql next)
  | afterExecute {sql : String} {next : Except DriverFailure Nat → Program}
    {answer : Except DriverFailure Nat} : Sends c (next answer) → Sends c (.execute sql next)

end Program

inductive Operation where
  | connect
  | disconnect
  | reconnect
  | reset
  | query (sql : String) (binds : List Value)
  | execute (sql : String)
  | insert (sql : String) (binds : List Value)
  | truncate (table : String)
  | explain (sql : String) (binds : List Value)
  | collation
  | withoutForeignKeys (body : Program)

namespace Operation

variable {σ : Type} (a : Adapter σ)

def work : Operation → Work σ Unit
  | connect => a.connect
  | disconnect => a.disconnect
  | reconnect => a.reconnect
  | reset => a.reset
  | query sql binds => a.execQuery sql binds >>= fun _ => pure ()
  | execute sql => a.execute sql >>= fun _ => pure ()
  | insert sql binds => a.execInsert sql binds >>= fun _ => pure ()
  | truncate table => a.truncate table
  | explain sql binds => a.explain sql binds >>= fun _ => pure ()
  | collation => a.collation >>= fun _ => pure ()
  | withoutForeignKeys body => a.withoutForeignKeys fun h => ExceptT.mk (body.run a.driver h)

def Sends (c : Call) : Operation → Prop
  | connect | disconnect | reconnect | reset => False
  | query sql binds => c = .query sql binds
  | execute sql => c = .execute sql
  | insert sql binds => c = .query sql binds ∨
    ∃ table, InsertText.identityTable? a.catalog sql = some table ∧
      (c = .execute (InsertText.identityStatements a.dialect table).1 ∨
        c = .execute (InsertText.identityStatements a.dialect table).2)
  | truncate table => c = .execute (a.truncateStatement table) ∨ c = .execute (a.deleteStatement table)
  | explain sql binds => c = .execute Plan.switchOn ∨
    c = .query (Plan.interpolate a.dialect sql binds) [] ∨ c = .execute Plan.switchOff
  | collation => c = .query collationQuery []
  | withoutForeignKeys body => c = .query referencingTablesQuery [] ∨
    (∃ table, c = .execute (Adapter.noCheck table) ∨ c = .execute (Adapter.check table)) ∨ body.Sends c

end Operation

section Served
variable {S : Call → Prop} {h : Handle} {log : List Exchange}

open Adapter (Served served_cons served_singleton served_append)

theorem served_of_upToFailure {α : Type} {P : α → Bool → List Exchange → Prop} {as : List α} {ok : Bool}
    (hP : ∀ a ∈ as, ∀ ok log, P a ok log → Served S h log) (hlog : UpToFailure P as ok log) :
    Served S h log := by
  induction hlog with
  | nil => exact List.forall_mem_nil _
  | failed hfailed => exact hP _ (List.mem_cons_self ..) _ _ hfailed
  | cons hfirst _ ih =>
    obtain ⟨hhead, htail⟩ := List.forall_mem_cons.1 hP
    exact served_append.2 ⟨hhead _ _ hfirst, ih htail⟩

theorem served_of_switched {on off : List String} {body : List Exchange → Prop}
    (hon : ∀ sql ∈ on, S (.execute sql)) (hoff : ∀ sql ∈ off, S (.execute sql))
    (hbody : ∀ log, body log → Served S h log) (hlog : Switched h on off body log) :
    Served S h log := by
  have hsent {ok : Bool} {log : List Exchange} (h' : UpToFailure (Sent h) on ok log) :
      Served S h log :=
    served_of_upToFailure (fun sql hsql _ _ => fun ⟨_⟩ => served_singleton nofun (hon sql hsql)) h'
  have hall {log : List Exchange} (h' : SentAll h off log) : Served S h log := by
    intro x hx
    have hevent := List.mem_map_of_mem (f := Exchange.event) hx
    rw [h'] at hevent
    obtain ⟨sql, hsql, he⟩ := List.mem_map.1 hevent
    exact ⟨.execute sql, he.symm, nofun, hoff sql hsql⟩
  cases hlog with
  | refused hfailed hlast => exact served_append.2 ⟨hsent hfailed, hall hlast⟩
  | ran hfirst hmiddle hlast =>
    exact served_append.2 ⟨served_append.2 ⟨hsent hfirst, hbody _ hmiddle⟩, hall hlast⟩

theorem served_of_asked {sql : String} {binds : List Value} (hS : S (.query sql binds))
    (hlog : Adapter.Asked h sql binds log) : Served S h log := by
  obtain ⟨answer, rfl⟩ := hlog
  exact served_singleton nofun hS

variable {σ : Type} {a : Adapter σ}

theorem served_of_emptied {table : String} {ok : Bool}
    (ht : S (.execute (a.truncateStatement table))) (hd : S (.execute (a.deleteStatement table)))
    (hlog : a.Emptied h table ok log) : Served S h log := by
  cases hlog with
  | truncated n => exact served_singleton nofun ht
  | failed _ => exact served_singleton nofun ht
  | deleted answer _ => exact served_cons nofun ht (served_singleton nofun hd)

theorem served_of_unchecked {body : List Exchange → Prop} (hq : S (.query referencingTablesQuery []))
    (ht : ∀ table, S (.execute (Adapter.noCheck table)) ∧ S (.execute (Adapter.check table)))
    (hbody : ∀ log, body log → Served S h log) (hlog : a.Unchecked h body log) : Served S h log := by
  cases hlog with
  | unknown f => exact served_singleton nofun hq
  | switched rows hlog =>
    refine served_cons nofun hq (served_of_switched ?_ ?_ hbody hlog)
    · exact List.forall_mem_map.2 fun table _ => (ht table).1
    · exact List.forall_mem_map.2 fun table _ => (ht table).2

theorem Program.says_run {driver : Driver σ} (p : Program) :
    driver.Says (p.run driver h) fun _ => Served (fun c => p.Sends c) h := by
  have hlater {p q : Program} (hpq : ∀ c, q.Sends c → p.Sends c) (log : List Exchange)
      (hlog : Served (fun c => q.Sends c) h log) : Served (fun c => p.Sends c) h log :=
    fun x hx =>
      let ⟨c, he, hc, hS⟩ := hlog x hx
      ⟨c, he, hc, hpq c hS⟩
  induction p with
  | done result => exact says_pure (List.forall_mem_nil _)
  | query sql binds next ih =>
    refine (Driver.says_runQuery h sql binds).bind fun answer log hlog => ?_
    subst hlog
    refine (ih answer).imp fun _ log hlog => ?_
    exact served_cons nofun (.query rfl) (hlater (fun _ => .afterQuery) log hlog)
  | execute sql next ih =>
    refine (Driver.says_runExecute h sql).bind fun answer log hlog => ?_
    subst hlog
    refine (ih answer).imp fun _ log hlog => ?_
    exact served_cons nofun (.execute rfl) (hlater (fun _ => .afterExecute) log hlog)

end Served

namespace Operation

open Adapter (served_singleton)

variable {σ : Type} (a : Adapter σ)

theorem says_query (sql : String) (binds : List Value) (h : Handle) :
    a.driver.Says (a.runQuery h sql binds).run fun _ =>
      Adapter.Served (fun c => (query sql binds).Sends a c) h := by
  refine (a.says_runQuery h sql binds).imp ?_
  rintro _ _ ⟨answer, rfl, -⟩
  exact served_singleton nofun rfl

theorem says_execute (sql : String) (h : Handle) :
    a.driver.Says (a.runExecute h sql).run fun _ =>
      Adapter.Served (fun c => (execute sql).Sends a c) h := by
  refine (a.says_runExecute h sql).imp ?_
  rintro _ _ ⟨answer, rfl, -⟩
  exact served_singleton nofun rfl

theorem says_insert (sql : String) (binds : List Value) (h : Handle) :
    a.driver.Says (a.insertOn sql binds h).run fun _ =>
      Adapter.Served (fun c => (insert sql binds).Sends a c) h := by
  cases ht : InsertText.identityTable? a.catalog sql with
  | none =>
    unfold Adapter.insertOn
    rw [ht]
    refine (a.says_runQuery h sql binds).imp ?_
    rintro _ _ ⟨answer, rfl, -⟩
    exact served_singleton nofun (.inl rfl)
  | some table =>
    refine (a.says_insertOn h ht).imp fun _ _ => served_of_switched ?_ ?_ ?_
    · exact List.forall_mem_singleton.2 (.inr ⟨table, ht, .inl rfl⟩)
    · exact List.forall_mem_singleton.2 (.inr ⟨table, ht, .inr rfl⟩)
    · exact fun _ => served_of_asked (.inl rfl)

theorem says_truncate (table : String) (h : Handle) :
    a.driver.Says (a.runTruncate h table).run fun _ =>
      Adapter.Served (fun c => (truncate table).Sends a c) h :=
  (a.says_runTruncate h table).imp fun _ _ => served_of_emptied (.inl rfl) (.inr rfl)

theorem says_explain (sql : String) (binds : List Value) (h : Handle) :
    a.driver.Says (a.explainOn sql binds h).run fun _ =>
      Adapter.Served (fun c => (explain sql binds).Sends a c) h := by
  refine (a.says_explainOn h sql binds).imp fun _ _ => served_of_switched ?_ ?_ ?_
  · exact List.forall_mem_singleton.2 (.inl rfl)
  · exact List.forall_mem_singleton.2 (.inr (.inr rfl))
  · exact fun _ => served_of_asked (.inr (.inl rfl))

theorem says_withoutForeignKeys (body : Program) (h : Handle) :
    a.driver.Says (a.uncheckedOn (fun h => ExceptT.mk (body.run a.driver h)) h).run fun _ =>
      Adapter.Served (fun c => (withoutForeignKeys body).Sends a c) h := by
  refine (a.says_uncheckedOn h (body.says_run (h := h))).imp fun _ _ =>
    served_of_unchecked (.inl rfl) (fun table => ?_) fun log hlog => ?_
  · exact ⟨.inr (.inl ⟨table, .inl rfl⟩), .inr (.inl ⟨table, .inr rfl⟩)⟩
  · intro x hx
    obtain ⟨c, he, hc, hS⟩ := hlog x hx
    exact ⟨c, he, hc, .inr (.inr hS)⟩

end Operation

end PolySql.SqlServer

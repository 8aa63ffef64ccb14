import PolySql.Database.Scope
import PolySql.Proofs.Database.Conversation

namespace PolySql

open Driver

variable {σ α : Type} {driver : Driver σ}

inductive UpToFailure (P : α → Bool → List Exchange → Prop) : List α → Bool → List Exchange → Prop
  | nil : UpToFailure P [] true []
  | failed {a : α} {as : List α} {log : List Exchange} :
    P a false log → UpToFailure P (a :: as) false log
  | cons {a : α} {as : List α} {ok : Bool} {log log' : List Exchange} :
    P a true log → UpToFailure P as ok log' → UpToFailure P (a :: as) ok (log ++ log')

namespace Scope

inductive Sent (h : Handle) (sql : String) : Bool → List Exchange → Prop
  | intro (answer : Except DriverFailure Nat) :
    Sent h sql answer.isOk [⟨.call h (.execute sql), .count answer⟩]

def SentAll (h : Handle) (sqls : List String) (log : List Exchange) : Prop :=
  log.map Exchange.event = sqls.map fun sql => .call h (.execute sql)

inductive Switched (h : Handle) (on off : List String) (body : List Exchange → Prop) :
    List Exchange → Prop
  | refused {log log' : List Exchange} :
    UpToFailure (Sent h) on false log → SentAll h off log' → Switched h on off body (log ++ log')
  | ran {log log' log'' : List Exchange} :
    UpToFailure (Sent h) on true log → body log' → SentAll h off log'' →
      Switched h on off body (log ++ log' ++ log'')

theorem says_runUntilFailure (h : Handle) (sqls : List String) :
    driver.Says (runUntilFailure driver h sqls) fun failure log =>
      UpToFailure (Sent h) sqls failure.isNone log := by
  induction sqls with
  | nil => exact says_pure .nil
  | cons sql rest ih =>
    refine (says_runExecute h sql).bind fun answer log hlog => ?_
    subst hlog
    have hsent : Sent h sql answer.isOk [⟨.call h (.execute sql), .count answer⟩] := .intro answer
    cases answer with
    | error f =>
      refine says_pure ?_
      exact .failed hsent
    | ok n => exact ih.imp fun _ log' hlog' => .cons hsent hlog'

theorem says_runAll (h : Handle) (sqls : List String) :
    driver.Says (runAll driver h sqls) fun _ log => SentAll h sqls log := by
  induction sqls with
  | nil => exact says_pure rfl
  | cons sql rest ih =>
    refine (says_runExecute h sql).bind fun answer log hlog => ?_
    subst hlog
    refine ih.bind fun _ log' hlog' => ?_
    have hsent : SentAll h (sql :: rest) (⟨.call h (.execute sql), .count answer⟩ :: log') := by
      rw [SentAll, List.map_cons, hlog', List.map_cons]
    cases answer with
    | error f => exact says_pure (by simpa using hsent)
    | ok n => exact says_pure (by simpa using hsent)

theorem says_drop (s : Scope) : driver.Says (s.drop driver) fun _ => SentAll s.handle s.disable :=
  (says_runAll _ _).bind_pure fun _ _ hlog => hlog

theorem says_finish (s : Scope) : driver.Says (s.finish driver) fun _ => SentAll s.handle s.disable := by
  refine (says_runAll s.handle s.disable).bind fun failure log hlog => ?_
  cases failure with
  | none => exact says_pure (by simpa using hlog)
  | some failure => exact says_pure (by simpa using hlog)

theorem says_enable {h : Handle} {label context : String} {on off : List String} :
    driver.Says (enable driver h label context on off) fun
      | .ok scope, log => scope = ⟨h, label, off⟩ ∧ UpToFailure (Sent h) on true log
      | .error _, log => ∃ log₁ log₂, log = log₁ ++ log₂ ∧ UpToFailure (Sent h) on false log₁ ∧
          SentAll h off log₂ := by
  refine (says_runUntilFailure h on).bind fun failure log hlog => ?_
  cases failure with
  | none => exact says_pure ⟨rfl, by simpa using hlog⟩
  | some failure =>
    refine (says_drop ⟨h, label, off⟩).bind_pure fun _ log' hlog' => ?_
    exact ⟨log, log', rfl, hlog, hlog'⟩

theorem says_during {h : Handle} {label context : String} {on off : List String}
    {body : Talk σ (Except Failure α)} {P : List Exchange → Prop}
    (hbody : driver.Says body fun _ => P) :
    driver.Says (during driver h label context on off body) fun _ => Switched h on off P := by
  refine says_enable.bind fun scope? log hlog => ?_
  cases scope? with
  | error e =>
    obtain ⟨log₁, log₂, rfl, hon, hoff⟩ := hlog
    exact says_pure (by simpa using Switched.refused hon hoff)
  | ok scope =>
    obtain ⟨rfl, hon⟩ := hlog
    refine hbody.bind fun result log' hlog' => ?_
    have hswitched (log'' : List Exchange) (hoff : SentAll h off log'') :
        Switched h on off P (log ++ (log' ++ log'')) :=
      List.append_assoc log log' log'' ▸ .ran hon hlog' hoff
    cases result with
    | error e => exact (says_drop ⟨h, label, off⟩).bind_pure fun _ _ hoff => hswitched _ hoff
    | ok a =>
      refine (says_finish ⟨h, label, off⟩).bind fun finished log'' hoff => ?_
      have hran := hswitched log'' hoff
      cases finished with
      | error e => exact says_pure (by simpa using hran)
      | ok _ => exact says_pure (by simpa using hran)

end Scope

end PolySql

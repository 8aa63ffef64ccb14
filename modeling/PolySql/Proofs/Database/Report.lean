import PolySql.Proofs.Database.Switched
import PolySql.Proofs.Failure.Classifier

namespace PolySql

open Driver

structure Refusal where
  sql : String
  binds : List Value
  cause : DriverFailure

def Exchange.refusal? (x : Exchange) : Option Refusal :=
  match x.event, x.answer with
  | .call _ (.query sql binds), .rows (.error f) => some ⟨sql, binds, f⟩
  | .call _ (.execute sql), .count (.error f) => some ⟨sql, [], f⟩
  | _, _ => none

inductive Role where
  | switching (opening : String)
  | working

inductive Role.Tells (rules : Classifier) (cause : DriverFailure) : Role → FailureKind → String → Prop
  | switching (opening : String) :
    Tells rules cause (.switching opening) .statementInvalid (opening ++ " due : " ++ cause.message)
  | working {kind : FailureKind} : rules.Tells cause kind → Tells rules cause .working kind cause.message

structure Turn where
  role : Role
  exchange : Exchange

def IsQuiet (turns : List Turn) : Prop :=
  ∀ t ∈ turns, t.exchange.refusal? = none

inductive Reports (rules : Classifier) : Option Failure → List Turn → Prop
  | quiet {turns : List Turn} : IsQuiet turns → Reports rules none turns
  | first {before rest : List Turn} {t : Turn} {r : Refusal} {kind : FailureKind} {message : String} :
    IsQuiet before → t.exchange.refusal? = some r → t.role.Tells rules r.cause kind message →
      Reports rules (some (.statement kind ⟨message, some r.sql, r.binds, some r.cause⟩))
        (before ++ t :: rest)

def failureOf {α : Type} : Except Failure α → Option Failure
  | .ok _ => none
  | .error e => some e

def Told {α : Type} (rules : Classifier) (P : List Turn → Prop) (result : Except Failure α)
    (log : List Exchange) : Prop :=
  ∃ turns, log = turns.map Turn.exchange ∧ P turns ∧ Reports rules (failureOf result) turns

variable {rules : Classifier}

namespace Reports

variable {failure : Option Failure} {e : Failure} {turns before : List Turn}

theorem append (h : Reports rules (some e) turns) (later : List Turn) :
    Reports rules (some e) (turns ++ later) := by
  cases h with
  | first hquiet hr htells =>
    rw [List.append_assoc]
    exact .first hquiet hr htells

theorem append_of_quiet (hquiet : IsQuiet before) (h : Reports rules failure turns) :
    Reports rules failure (before ++ turns) := by
  cases h with
  | quiet hturns => exact .quiet (List.forall_mem_append.2 ⟨hquiet, hturns⟩)
  | first hfirst hr htells =>
    rw [← List.append_assoc]
    exact .first (List.forall_mem_append.2 ⟨hquiet, hfirst⟩) hr htells

theorem isQuiet (h : Reports rules none turns) : IsQuiet turns := by
  cases h with
  | quiet hquiet => exact hquiet

theorem switching {opening : String} {x : Exchange} {r : Refusal} (hr : x.refusal? = some r)
    (hbinds : r.binds = []) (rest : List Turn) :
    Reports rules (some (Scope.switchFailure opening r.sql r.cause)) (⟨.switching opening, x⟩ :: rest) := by
  obtain ⟨sql, binds, cause⟩ := r
  obtain rfl : binds = [] := hbinds
  exact .first (t := ⟨.switching opening, x⟩) (List.forall_mem_nil _) hr (.switching opening)

theorem working {x : Exchange}
    (hx : (x.refusal?.map fun r => rules.failure r.cause (some r.sql) r.binds) = failure) :
    Reports rules failure [⟨.working, x⟩] := by
  subst hx
  cases hr : x.refusal? with
  | none => exact .quiet (List.forall_mem_singleton.2 hr)
  | some r =>
    exact .first (t := ⟨.working, x⟩) (List.forall_mem_nil _) hr (.working (rules.tells_classify r.cause))

end Reports

namespace Scope

variable {σ α : Type} {driver : Driver σ} {h : Handle} {label context : String} {on off : List String}

def opening (label context : String) : String :=
  label ++ " could not be turned ON" ++ context

def closing (label : String) : String :=
  label ++ " could not be turned OFF"

inductive Held (h : Handle) (label context : String) (on off : List String) (P : List Turn → Prop) :
    List Turn → Prop
  | refused {log log' : List Exchange} :
    UpToFailure (Sent h) on false log → SentAll h off log' →
      Held h label context on off P
        (log.map (Turn.mk (.switching (opening label context))) ++
          log'.map (Turn.mk (.switching (closing label))))
  | ran {log log' : List Exchange} {turns : List Turn} :
    UpToFailure (Sent h) on true log → P turns → SentAll h off log' →
      Held h label context on off P
        (log.map (Turn.mk (.switching (opening label context))) ++ turns ++
          log'.map (Turn.mk (.switching (closing label))))

theorem map_exchange_mk (role : Role) (log : List Exchange) :
    (log.map (Turn.mk role)).map Turn.exchange = log := by
  simp [Function.comp_def]

def switched (opening : String) (failure : Option (String × DriverFailure)) : Option Failure :=
  failure.map fun p => switchFailure opening p.1 p.2

theorem reports_runUntilFailure (rules : Classifier) (opening : String) (sqls : List String) :
    driver.Says (runUntilFailure driver h sqls) fun failure log =>
      Reports rules (switched opening failure) (log.map (Turn.mk (.switching opening))) := by
  induction sqls with
  | nil => exact says_pure (.quiet (List.forall_mem_nil _))
  | cons sql rest ih =>
    refine (says_runExecute h sql).bind fun answer log hlog => ?_
    subst hlog
    cases answer with
    | error f => exact says_pure (.switching (r := ⟨sql, [], f⟩) rfl rfl _)
    | ok n => exact ih.imp fun _ _ hrest => hrest.append_of_quiet (List.forall_mem_singleton.2 rfl)

theorem reports_runAll (rules : Classifier) (opening : String) (sqls : List String) :
    driver.Says (runAll driver h sqls) fun failure log =>
      Reports rules (switched opening failure) (log.map (Turn.mk (.switching opening))) := by
  induction sqls with
  | nil => exact says_pure (.quiet (List.forall_mem_nil _))
  | cons sql rest ih =>
    refine (says_runExecute h sql).bind fun answer log hlog => ?_
    subst hlog
    refine ih.bind fun failure log' hrest => ?_
    cases answer with
    | error f => exact says_pure (.switching (r := ⟨sql, [], f⟩) rfl rfl _)
    | ok n =>
      refine says_pure ?_
      rw [List.append_nil]
      exact hrest.append_of_quiet (List.forall_mem_singleton.2 rfl)

theorem reports_enable (rules : Classifier) :
    driver.Says (enable driver h label context on off) fun
      | .ok scope, log => scope = ⟨h, label, off⟩ ∧ UpToFailure (Sent h) on true log ∧
          IsQuiet (log.map (Turn.mk (.switching (opening label context))))
      | .error e, log => ∃ log₁ log₂, log = log₁ ++ log₂ ∧ UpToFailure (Sent h) on false log₁ ∧
          SentAll h off log₂ ∧
            Reports rules (some e) (log₁.map (Turn.mk (.switching (opening label context)))) := by
  refine ((says_runUntilFailure h on).and
    (reports_runUntilFailure rules (opening label context) on)).bind fun failure log hlog => ?_
  cases failure with
  | none =>
    refine says_pure ⟨rfl, ?_⟩
    rw [List.append_nil]
    exact ⟨hlog.1, hlog.2.isQuiet⟩
  | some failure =>
    refine (says_drop ⟨h, label, off⟩).bind_pure fun _ log' hlog' => ?_
    exact ⟨log, log', rfl, hlog.1, hlog', hlog.2⟩

theorem reports_finish (rules : Classifier) :
    driver.Says ((Scope.mk h label off).finish driver) fun finished log => SentAll h off log ∧
      Reports rules (failureOf finished) (log.map (Turn.mk (.switching (closing label)))) := by
  refine ((says_runAll h off).and (reports_runAll rules (closing label) off)).bind fun failure log hlog => ?_
  cases failure with
  | none => exact says_pure ((List.append_nil log).symm ▸ hlog)
  | some failure => exact says_pure ((List.append_nil log).symm ▸ hlog)

theorem told_during {body : Talk σ (Except Failure α)} {P : List Turn → Prop}
    (hbody : driver.Says body (Told rules P)) :
    driver.Says (during driver h label context on off body)
      (Told rules (Held h label context on off P)) := by
  refine (reports_enable rules).bind fun scope? log hlog => ?_
  cases scope? with
  | error e =>
    obtain ⟨log₁, log₂, rfl, hon, hoff, hreports⟩ := hlog
    refine says_pure ⟨_, ?_, .refused hon hoff, hreports.append _⟩
    simp only [List.append_nil, List.map_append, map_exchange_mk]
  | ok scope =>
    obtain ⟨rfl, hon, hquiet⟩ := hlog
    refine hbody.bind fun result log' hlog' => ?_
    obtain ⟨turns, rfl, hturns, hreports⟩ := hlog'
    cases result with
    | error e =>
      refine (says_drop ⟨h, label, off⟩).bind_pure fun _ log'' hoff => ?_
      refine ⟨_, ?_, .ran hon hturns hoff, (hreports.append_of_quiet hquiet).append _⟩
      simp only [List.map_append, map_exchange_mk, List.append_assoc]
    | ok a =>
      refine (reports_finish rules).bind fun finished log'' hlog'' => ?_
      obtain ⟨hoff, hfinish⟩ := hlog''
      have hbefore : IsQuiet (log.map (Turn.mk (.switching (opening label context))) ++ turns) :=
        List.forall_mem_append.2 ⟨hquiet, hreports.isQuiet⟩
      have htold : Told rules (Held h label context on off P) (finished.map fun _ => a)
          (log ++ (turns.map Turn.exchange ++ log'')) := by
        refine ⟨_, ?_, .ran hon hturns hoff, ?_⟩
        · simp only [List.map_append, map_exchange_mk, List.append_assoc]
        · cases finished <;> exact hfinish.append_of_quiet hbefore
      rw [← List.append_nil log''] at htold
      cases finished with
      | error e => exact says_pure htold
      | ok _ => exact says_pure htold

end Scope

end PolySql

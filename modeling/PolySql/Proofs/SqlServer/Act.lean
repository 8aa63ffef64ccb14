import PolySql.Proofs.SqlServer.Command

namespace PolySql.SqlServer

open Driver

variable {σ α : Type}

def learned : Except DriverFailure RowSet → Option String
  | .ok rows => rows.firstValue?.bind Value.asText?
  | .error _ => none

namespace Adapter

variable (a : Adapter σ)

def abandons (now : Situation σ) : List Handle :=
  match now.1 with
  | none => []
  | some s =>
    if a.driver.isActive s.handle now.2.state then []
    else
      match (a.openSession.run.run now.2).1 with
      | .ok _ => [s.handle]
      | .error _ => []

end Adapter

def Step.abandons (a : Adapter σ) (now : Situation σ) : Step σ → List Handle
  | .command (.operation .connect) => a.abandons now
  | _ => []

namespace Adapter

variable (a : Adapter σ)

def abandoned : List (Step σ) → Situation σ → List Handle
  | [], _ => []
  | step :: steps, now => step.abandons a now ++ abandoned steps (step.advance a now)

inductive Act (S : Call → Prop) (asks : Prop) : Situation σ → List Exchange → List Handle → Situation σ → Prop
  | opening {w w' : World σ} {log : List Exchange} {s : Option Session} : a.driver.Talked w log w' →
    a.Move (fun _ => False) none log s → Act S asks (none, w) log [] (s, w')
  | refused {w w' : World σ} {log : List Exchange} {s : Session} : a.driver.Talked w log w' →
    a.Move (fun _ => False) none log none → Act S asks (some s, w) log [] (some s, w')
  | replaced {w w' : World σ} {log : List Exchange} {s t : Session} : a.driver.Talked w log w' →
    a.Move (fun _ => False) none log (some t) → Act S asks (some s, w) log [s.handle] (some t, w')
  | serving {w w' : World σ} {log : List Exchange} {s : Session} : a.driver.Talked w log w' →
    Served S s.handle log → Act S asks (some s, w) log [] (some s, w')
  | learning {w w' : World σ} {s : Session} {answer : Except DriverFailure RowSet} : asks →
    a.driver.Talked w [⟨.call s.handle (.query collationQuery []), .rows answer⟩] w' →
      s.collation = none →
        Act S asks (some s, w) [⟨.call s.handle (.query collationQuery []), .rows answer⟩] []
          (some { s with collation := learned answer }, w')
  | closing {w w' : World σ} {s : Session} {failure : Option DriverFailure} :
    a.driver.Talked w [⟨.call s.handle .disconnect, .closed failure⟩] w' →
      Act S asks (some s, w) [⟨.call s.handle .disconnect, .closed failure⟩] [] (none, w')
  | drifting {w : World σ} {s : Option Session} (change : σ → σ) :
    Act S asks (s, w) [] [] (s, { w with state := change w.state })

inductive Acts (S : Call → Prop) (asks : Prop) : Situation σ → List Exchange → List Handle → Situation σ → Prop
  | nil (now : Situation σ) : Acts S asks now [] [] now
  | cons {now next later : Situation σ} {log log' : List Exchange} {left left' : List Handle} :
    a.Act S asks now log left next → Acts S asks next log' left' later →
      Acts S asks now (log ++ log') (left ++ left') later

variable {a} {S S' : Call → Prop} {asks asks' : Prop} {now next later : Situation σ} {log log' : List Exchange}
  {left left' : List Handle}

theorem Act.acts (h : a.Act S asks now log left next) : a.Acts S asks now log left next := by
  simpa using Acts.cons h (.nil next)

theorem Acts.append (h : a.Acts S asks now log left next) (h' : a.Acts S asks next log' left' later) :
    a.Acts S asks now (log ++ log') (left ++ left') later := by
  induction h with
  | nil now => exact h'
  | cons hact _ ih =>
    rw [List.append_assoc, List.append_assoc]
    exact .cons hact (ih h')

theorem Act.mono (hS : ∀ c, S c → S' c) (hasks : asks → asks') (h : a.Act S asks now log left next) :
    a.Act S' asks' now log left next := by
  cases h with
  | opening ht hmove => exact .opening ht hmove
  | refused ht hmove => exact .refused ht hmove
  | replaced ht hmove => exact .replaced ht hmove
  | serving ht hserved =>
    exact .serving ht fun x hx => (hserved x hx).imp fun c hc => ⟨hc.1, hc.2.1, hS c hc.2.2⟩
  | learning hq ht hnone => exact .learning (hasks hq) ht hnone
  | closing ht => exact .closing ht
  | drifting change => exact .drifting change

theorem Acts.mono (hS : ∀ c, S c → S' c) (hasks : asks → asks') (h : a.Acts S asks now log left next) :
    a.Acts S' asks' now log left next := by
  induction h with
  | nil now => exact .nil now
  | cons hact _ ih => exact .cons (hact.mono hS hasks) ih

theorem after_renew (s : Option Session) (w : World σ) :
    after a.renew (s, w) =
      match a.openSession.run.run w with
      | (.ok t, w') => (some t, w')
      | (.error _, w') => (s, w') := by
  rw [renew, after_bind, run_onDriver]
  generalize a.openSession.run.run w = r
  obtain ⟨result, w'⟩ := r
  cases result <;> rfl

theorem after_connect (s : Session) (w : World σ) :
    after a.connect (some s, w) =
      if a.driver.isActive s.handle w.state then (some s, w) else after a.renew (some s, w) := by
  rw [connect, after_bind]
  change after (if a.driver.isActive s.handle w.state then _ else _) _ = _
  split <;> rfl

theorem after_disconnect (s : Session) (w : World σ) :
    after a.disconnect (some s, w) = (none, ((a.driver.close s.handle).run w).2) := by
  unfold after disconnect
  rw [run_getSession_bind]
  dsimp only
  rw [run_setSession_bind, run_bind, run_onDriver, ExceptT.run_lift, StateT.run_map]
  generalize (a.driver.close s.handle).run w = r
  obtain ⟨failure, w'⟩ := r
  cases failure <;> rfl

theorem run_session_some (s : Session) (w : World σ) :
    (a.session.run.run (some s)).run w = ((.ok s, some s), w) :=
  rfl

theorem run_session_none (w : World σ) :
    (a.session.run.run none).run w =
      match a.openSession.run.run w with
      | (.ok t, w') => ((.ok t, some t), w')
      | (.error e, w') => ((.error e, none), w') := by
  rw [session, run_getSession_bind]
  dsimp only
  rw [run_bind, run_onDriver]
  generalize a.openSession.run.run w = r
  obtain ⟨result, w'⟩ := r
  cases result <;> rfl

theorem run_collation_none (w : World σ) :
    (a.collation.run.run none).run w =
      match a.openSession.run.run w with
      | (.ok t, w') => (a.collation.run.run (some t)).run w'
      | (.error e, w') => ((.error e, none), w') := by
  rw [collation, run_bind, run_session_none]
  generalize a.openSession.run.run w = r
  obtain ⟨result, w'⟩ := r
  cases result <;> rfl

theorem run_collation_known {s : Session} {c : String} (hc : s.collation = some c) (w : World σ) :
    (a.collation.run.run (some s)).run w = ((.ok (some c), some s), w) := by
  rw [collation, run_bind, run_session_some]
  dsimp only
  rw [hc]
  rfl

theorem run_collation_unknown {s : Session} (hc : s.collation = none) (w : World σ) :
    (a.collation.run.run (some s)).run w =
      match (a.runQuery s.handle collationQuery []).run.run w with
      | (.ok rows, w') =>
        ((.ok (learned (.ok rows)), some { s with collation := learned (.ok rows) }), w')
      | (.error e, w') => ((.error e, some s), w') := by
  rw [collation, run_bind, run_session_some]
  dsimp only
  rw [hc]
  dsimp only
  rw [run_bind, run_onDriver]
  generalize (a.runQuery s.handle collationQuery []).run.run w = r
  obtain ⟨result, w'⟩ := r
  cases result <;> rfl

variable (a) in
def Leads (S : Call → Prop) (asks : Prop) (now : Situation σ) (left : List Handle) (later : Situation σ) :
    Prop :=
  ∃ log, a.driver.Talked now.2 log later.2 ∧ a.Acts S asks now log left later

theorem Leads.refl (now : Situation σ) : a.Leads S asks now [] now :=
  ⟨[], .nil _, .nil now⟩

theorem Act.leads (ht : a.driver.Talked now.2 log next.2) (h : a.Act S asks now log left next) :
    a.Leads S asks now left next :=
  ⟨log, ht, h.acts⟩

theorem Leads.trans (h : a.Leads S asks now left next) (h' : a.Leads S asks next left' later) :
    a.Leads S asks now (left ++ left') later := by
  obtain ⟨log, ht, hacts⟩ := h
  obtain ⟨log', ht', hacts'⟩ := h'
  exact ⟨log ++ log', ht.append ht', hacts.append hacts'⟩

variable (a)

theorem run_openSession (w : World σ) :
    (∃ t w' log, a.openSession.run.run w = (.ok t, w') ∧ a.driver.Talked w log w' ∧
      a.Move (fun _ => False) none log (some t)) ∨
    ∃ e w' log, a.openSession.run.run w = (.error e, w') ∧ a.driver.Talked w log w' ∧
      a.Move (fun _ => False) none log none := by
  obtain ⟨log, ht, hmove⟩ := a.says_openSession (fun _ => False) w
  generalize a.openSession.run.run w = r at ht hmove
  obtain ⟨result, w'⟩ := r
  cases result with
  | ok t => exact .inl ⟨t, w', log, rfl, ht, hmove none⟩
  | error e => exact .inr ⟨e, w', log, rfl, ht, hmove none⟩

theorem leads_session {f : Session → Work σ α}
    (hf : ∀ s w, a.Leads S asks (some s, w) [] (after (f s) (some s, w))) (now : Situation σ) :
    a.Leads S asks now [] (after (a.session >>= f) now) := by
  obtain ⟨s, w⟩ := now
  cases s with
  | some s => exact hf s w
  | none =>
    rw [after_bind, run_session_none]
    obtain ⟨t, w', log, ho, ht, hmove⟩ | ⟨e, w', log, ho, ht, hmove⟩ := a.run_openSession w
    · rw [ho]
      exact (Act.leads ht (.opening ht hmove)).trans (hf t w')
    · rw [ho]
      exact Act.leads ht (.opening ht hmove)

theorem leads_withConnection {r : Handle → Request σ α}
    (hr : ∀ h, a.driver.Says (r h).run fun _ => Served S h) (now : Situation σ) :
    a.Leads S asks now [] (after (a.withConnection r) now) := by
  refine a.leads_session (fun s w => ?_) now
  obtain ⟨log, ht, hserved⟩ := hr s.handle w
  exact Act.leads ht (.serving ht hserved)

theorem leads_renew (w : World σ) : a.Leads S asks (none, w) [] (after a.renew (none, w)) := by
  rw [after_renew]
  obtain ⟨t, w', log, ho, ht, hmove⟩ | ⟨e, w', log, ho, ht, hmove⟩ := a.run_openSession w
  · rw [ho]
    exact Act.leads ht (.opening ht hmove)
  · rw [ho]
    exact Act.leads ht (.opening ht hmove)

theorem leads_connect (now : Situation σ) :
    a.Leads S asks now (a.abandons now) (after a.connect now) := by
  obtain ⟨s, w⟩ := now
  cases s with
  | none => exact a.leads_renew w
  | some s =>
    rw [after_connect, abandons]
    dsimp only
    cases a.driver.isActive s.handle w.state with
    | true => exact .refl _
    | false =>
      rw [if_neg Bool.false_ne_true, if_neg Bool.false_ne_true, after_renew]
      obtain ⟨t, w', log, ho, ht, hmove⟩ | ⟨e, w', log, ho, ht, hmove⟩ := a.run_openSession w
      · rw [ho]
        exact Act.leads ht (.replaced ht hmove)
      · rw [ho]
        exact Act.leads ht (.refused ht hmove)

theorem leads_close (s : Session) (w : World σ) :
    a.Leads S asks (some s, w) [] (none, ((a.driver.close s.handle).run w).2) := by
  have hclose : a.driver.Says (a.driver.close s.handle) _ := says_close s.handle
  obtain ⟨log, ht, rfl⟩ := hclose w
  exact Act.leads ht (.closing ht)

theorem leads_disconnect (now : Situation σ) : a.Leads S asks now [] (after a.disconnect now) := by
  obtain ⟨s, w⟩ := now
  cases s with
  | none => exact .refl _
  | some s =>
    rw [after_disconnect]
    exact a.leads_close s w

theorem leads_reconnect (now : Situation σ) : a.Leads S asks now [] (after a.reconnect now) := by
  obtain ⟨s, w⟩ := now
  cases s with
  | none => exact a.leads_renew w
  | some s => exact (a.leads_close s w).trans (a.leads_renew _)

theorem leads_collation (hasks : asks) (now : Situation σ) :
    a.Leads S asks now [] (after a.collation now) := by
  refine a.leads_session (fun s w => ?_) now
  change a.Leads S asks (some s, w) [] (after a.collation (some s, w))
  unfold after
  cases hc : s.collation with
  | some c =>
    rw [run_collation_known hc]
    exact .refl _
  | none =>
    obtain ⟨_, ht, answer, rfl, hresult⟩ := a.says_runQuery s.handle collationQuery [] w
    rw [run_collation_unknown hc]
    generalize (a.runQuery s.handle collationQuery []).run.run w = r at ht hresult
    obtain ⟨result, w'⟩ := r
    have hlearning := Act.acts (S := S) (.learning hasks ht hc)
    cases answer with
    | ok rows =>
      obtain rfl : result = .ok rows := hresult
      exact ⟨_, ht, hlearning⟩
    | error f =>
      obtain rfl : result = _ := hresult
      have hs : { s with collation := none } = s := by rw [← hc]
      exact ⟨_, ht, hs ▸ hlearning⟩

end Adapter

def Operation.Brings (a : Adapter σ) (op : Operation) (c : Call) : Prop :=
  op ≠ .collation ∧ op.Sends a c

namespace Adapter

variable (a : Adapter σ)

theorem leads_request (op : Operation) (hop : op ≠ .collation) {r : Handle → Request σ α}
    (hr : ∀ h, a.driver.Says (r h).run fun _ => Served (fun c => op.Sends a c) h) (now : Situation σ) :
    a.Leads (op.Brings a) (op = .collation) now [] (after (a.withConnection r) now) :=
  a.leads_withConnection (fun h => (hr h).imp fun _ _ hserved x hx =>
    (hserved x hx).imp fun _ hc => ⟨hc.1, hc.2.1, hop, hc.2.2⟩) now

theorem leads_operation (op : Operation) (now : Situation σ) :
    a.Leads (op.Brings a) (op = .collation) now (Step.abandons a now (.command (.operation op)))
      (after (op.work a) now) := by
  cases op with
  | connect => exact a.leads_connect now
  | disconnect => exact a.leads_disconnect now
  | reconnect => exact a.leads_reconnect now
  | reset => exact a.leads_reconnect now
  | query sql binds =>
    rw [Operation.work, after_map]
    exact a.leads_request (.query sql binds) (by rintro ⟨⟩) (Operation.says_query a sql binds) now
  | execute sql =>
    rw [Operation.work, after_map]
    exact a.leads_request (.execute sql) (by rintro ⟨⟩) (Operation.says_execute a sql) now
  | insert sql binds =>
    rw [Operation.work, after_map]
    exact a.leads_request (.insert sql binds) (by rintro ⟨⟩) (Operation.says_insert a sql binds) now
  | truncate table =>
    exact a.leads_request (.truncate table) (by rintro ⟨⟩) (Operation.says_truncate a table) now
  | explain sql binds =>
    rw [Operation.work, after_map, explain_eq, after_map]
    exact a.leads_request (.explain sql binds) (by rintro ⟨⟩) (Operation.says_explain a sql binds) now
  | collation =>
    rw [Operation.work, after_map]
    exact a.leads_collation rfl now
  | withoutForeignKeys body =>
    rw [Operation.work, withoutForeignKeys_eq]
    exact a.leads_request (.withoutForeignKeys body) (by rintro ⟨⟩)
      (Operation.says_withoutForeignKeys a body) now

end Adapter

def Command.Sends (a : Adapter σ) (c : Command) (call : Call) : Prop :=
  ∃ op, c.operation? a = some op ∧ op.Sends a call

def Command.Brings (a : Adapter σ) (c : Command) (call : Call) : Prop :=
  ∃ op, c.operation? a = some op ∧ op.Brings a call

theorem Step.abandons_command (a : Adapter σ) (now : Situation σ) (c : Command) :
    Step.abandons a now (.command c) =
      match c.operation? a with
      | some op => Step.abandons a now (.command (.operation op))
      | none => [] := by
  cases c with
  | operation op => rfl
  | statement s =>
    dsimp only [Command.operation?]
    cases a.compile s with
    | error e => rfl
    | ok c =>
      dsimp only [Except.toOption, Option.map]
      cases Adapter.isInsert s <;> rfl
  | truncateTables tables =>
    dsimp only [Command.operation?]
    cases tables.isEmpty <;> rfl
  | explainStatement s =>
    dsimp only [Command.operation?]
    cases a.compile s <;> rfl
  | _ => rfl

namespace Adapter

variable (a : Adapter σ)

theorem leads_command (c : Command) (now : Situation σ) :
    a.Leads (c.Brings a) (c.operation? a = some .collation) now (Step.abandons a now (.command c))
      (after (c.work a) now) := by
  rw [c.after_work, Step.abandons_command]
  cases hop : c.operation? a with
  | none => exact .refl now
  | some op =>
    obtain ⟨log, ht, hacts⟩ := a.leads_operation op now
    exact ⟨log, ht, hacts.mono (fun _ hcall => ⟨op, hop, hcall⟩) (congrArg some)⟩

theorem exists_acts_run (steps : List (Step σ)) (start : Situation σ) :
    ∃ log, a.Ran steps start log ∧
      a.Acts (fun call => ∃ c, .command c ∈ steps ∧ c.Brings a call)
        (∃ c, .command c ∈ steps ∧ c.operation? a = some .collation) start log
        (a.abandoned steps start) (a.run steps start) := by
  induction steps generalizing start with
  | nil => exact ⟨[], .nil start, .nil start⟩
  | cons step steps ih =>
    have hlater {P : Command → Prop} :
        (∃ c, .command c ∈ steps ∧ P c) → ∃ c, .command c ∈ step :: steps ∧ P c :=
      Exists.imp fun _ => And.imp_left (List.mem_cons_of_mem _)
    obtain ⟨log', hran, hacts⟩ := ih (step.advance a start)
    have hrest := hacts.mono (fun _ => hlater) hlater
    cases step with
    | command c =>
      obtain ⟨log, ht, hfirst⟩ := a.leads_command c start
      have hc : Step.command c ∈ Step.command c :: steps := List.mem_cons_self ..
      exact ⟨log ++ log', .command ht hran,
        (hfirst.mono (fun _ hcall => ⟨c, hc, hcall⟩) fun hasks => ⟨c, hc, hasks⟩).append hrest⟩
    | drift change => exact ⟨log', .drift hran, .cons (.drifting change) hrest⟩

end Adapter

end PolySql.SqlServer

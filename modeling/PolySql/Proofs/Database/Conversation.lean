import PolySql.Database.Driver

namespace PolySql

inductive Answer where
  | connected (answer : Except DriverFailure Handle)
  | rows (answer : Except DriverFailure RowSet)
  | count (answer : Except DriverFailure Nat)
  | closed (failure : Option DriverFailure)

structure Exchange where
  event : Event
  answer : Answer

def Event.isOn (h : Handle) : Event → Bool
  | .call h' _ => h' == h
  | .connect .. => false

def callsOn (h : Handle) (log : List Exchange) : List Exchange :=
  log.filter fun x => x.event.isOn h

def IsOn (h : Handle) (log : List Exchange) : Prop :=
  ∀ x ∈ log, ∃ c, x.event = .call h c

section Calls
variable {h h' : Handle} {log log' : List Exchange}

@[simp] theorem callsOn_append : callsOn h (log ++ log') = callsOn h log ++ callsOn h log' :=
  List.filter_append ..

theorem map_callsOn : (callsOn h log).map Exchange.event = (log.map Exchange.event).filter (Event.isOn h) := by
  rw [List.filter_map]
  rfl

theorem isOn_nil : IsOn h [] :=
  List.forall_mem_nil _

theorem isOn_cons {c : Call} {answer : Answer} (hlog : IsOn h log) :
    IsOn h (⟨.call h c, answer⟩ :: log) :=
  List.forall_mem_cons.2 ⟨⟨c, rfl⟩, hlog⟩

theorem isOn_append : IsOn h (log ++ log') ↔ IsOn h log ∧ IsOn h log' :=
  List.forall_mem_append

theorem IsOn.callsOn_eq (hlog : IsOn h log) : callsOn h log = log := by
  refine List.filter_eq_self.2 fun x hx => ?_
  obtain ⟨c, hc⟩ := hlog x hx
  simp [Event.isOn, hc]

theorem IsOn.callsOn_of_ne (hlog : IsOn h log) (hne : h' ≠ h) : callsOn h' log = [] := by
  refine List.filter_eq_nil_iff.2 fun x hx => ?_
  obtain ⟨c, hc⟩ := hlog x hx
  simp [Event.isOn, hc, hne.symm]

end Calls

namespace Driver

variable {σ α β : Type} (driver : Driver σ)

def react (w : World σ) : Event → Answer × World σ
  | .connect url credentials =>
    let r := (driver.open? url credentials).run w
    (.connected r.1, r.2)
  | .call h (.query sql binds) =>
    let r := (driver.runQuery h sql binds).run w
    (.rows r.1, r.2)
  | .call h (.execute sql) =>
    let r := (driver.runExecute h sql).run w
    (.count r.1, r.2)
  | .call h .disconnect =>
    let r := (driver.close h).run w
    (.closed r.1, r.2)

inductive Talked : World σ → List Exchange → World σ → Prop
  | nil (w : World σ) : Talked w [] w
  | cons {w w' : World σ} {e : Event} {log : List Exchange} :
    Talked (driver.react w e).2 log w' → Talked w (⟨e, (driver.react w e).1⟩ :: log) w'

def Says (x : Talk σ α) (post : α → List Exchange → Prop) : Prop :=
  ∀ w, ∃ log, driver.Talked w log (x.run w).2 ∧ post (x.run w).1 log

variable {driver}

theorem Talked.append {w w₁ w₂ : World σ} {log log' : List Exchange} (h : driver.Talked w log w₁)
    (h' : driver.Talked w₁ log' w₂) : driver.Talked w (log ++ log') w₂ := by
  induction h with
  | nil w => exact h'
  | cons _ ih => exact .cons (ih h')

theorem react_connect (w : World σ) (url : String) (credentials : Credentials) :
    (∃ state, driver.react w (.connect url credentials) =
      (.connected (.ok w.opened), ⟨state, w.opened + 1, w.trace ++ [.connect url credentials]⟩)) ∨
    ∃ f state, driver.react w (.connect url credentials) =
      (.connected (.error f), ⟨state, w.opened, w.trace ++ [.connect url credentials]⟩) := by
  simp only [react, open?, StateT.run]
  cases driver.connect w.opened url credentials w.state with
  | mk failure? state =>
    cases failure? with
    | none => exact .inl ⟨state, rfl⟩
    | some f => exact .inr ⟨f, state, rfl⟩

theorem trace_react (w : World σ) (e : Event) : (driver.react w e).2.trace = w.trace ++ [e] := by
  cases e with
  | connect url credentials =>
    obtain ⟨state, h⟩ | ⟨f, state, h⟩ := driver.react_connect w url credentials <;> rw [h]
  | call h c => cases c <;> rfl

theorem Talked.trace_eq {w w' : World σ} {log : List Exchange} (h : driver.Talked w log w') :
    w'.trace = w.trace ++ log.map Exchange.event := by
  induction h with
  | nil w => simp
  | @cons w w' e log _ ih =>
    rw [ih, trace_react, List.append_assoc]
    rfl

theorem talked_cons {w w' : World σ} {x : Exchange} {log : List Exchange} :
    driver.Talked w (x :: log) w' ↔
      x.answer = (driver.react w x.event).1 ∧ driver.Talked (driver.react w x.event).2 log w' := by
  constructor
  · rintro ⟨⟩
    exact ⟨rfl, ‹_›⟩
  · obtain ⟨e, answer⟩ := x
    rintro ⟨hanswer, h⟩
    obtain rfl : answer = (driver.react w e).1 := hanswer
    exact .cons h

theorem Talked.unique {w w₁ w₂ : World σ} {log log' : List Exchange} (h : driver.Talked w log w₁)
    (h' : driver.Talked w log' w₂) (he : log.map Exchange.event = log'.map Exchange.event) :
    log = log' := by
  induction h generalizing log' with
  | nil w => exact (List.map_eq_nil_iff.1 he.symm).symm
  | @cons w w₁ e log _ ih =>
    cases h' with
    | nil w => cases he
    | cons htail =>
      obtain ⟨rfl, hrest⟩ := List.cons.inj he
      rw [ih htail hrest]

theorem Talked.split {w w' : World σ} {log log' : List Exchange}
    (h : driver.Talked w (log ++ log') w') :
    ∃ m, driver.Talked w log m ∧ driver.Talked m log' w' := by
  induction log generalizing w with
  | nil => exact ⟨w, .nil w, h⟩
  | cons x log ih =>
    obtain ⟨hx, h⟩ := talked_cons.1 h
    obtain ⟨m, hlog, hlog'⟩ := ih h
    exact ⟨m, talked_cons.2 ⟨hx, hlog⟩, hlog'⟩

theorem Talked.opened_eq {w w' : World σ} {h : Handle} {log : List Exchange}
    (ht : driver.Talked w log w') (hlog : IsOn h log) : w'.opened = w.opened := by
  induction ht with
  | nil w => rfl
  | cons _ ih =>
    obtain ⟨⟨c, rfl⟩, hrest⟩ := List.forall_mem_cons.1 hlog
    rw [ih hrest]
    cases c <;> rfl

theorem Talked.of_connected {w w' : World σ} {url : String} {credentials : Credentials} {h : Handle}
    {log : List Exchange} (ht : driver.Talked w (⟨.connect url credentials, .connected (.ok h)⟩ :: log) w') :
    h = w.opened ∧ ∃ m, m.opened = w.opened + 1 ∧ driver.Talked m log w' := by
  obtain ⟨hanswer, ht⟩ := talked_cons.1 ht
  obtain ⟨state, hr⟩ | ⟨f, state, hr⟩ := driver.react_connect w url credentials
  · rw [hr] at hanswer ht
    exact ⟨Except.ok.inj (Answer.connected.inj hanswer), _, rfl, ht⟩
  · rw [hr] at hanswer
    cases hanswer

theorem Talked.of_refused {w w' : World σ} {url : String} {credentials : Credentials}
    {f : DriverFailure}
    (ht : driver.Talked w [⟨.connect url credentials, .connected (.error f)⟩] w') :
    w'.opened = w.opened := by
  obtain ⟨hanswer, ht⟩ := talked_cons.1 ht
  obtain ⟨state, hr⟩ | ⟨f', state, hr⟩ := driver.react_connect w url credentials
  · rw [hr] at hanswer
    cases hanswer
  · rw [hr] at ht
    cases ht
    rfl

theorem Says.imp {x : Talk σ α} {P Q : α → List Exchange → Prop} (h : driver.Says x P)
    (hPQ : ∀ a log, P a log → Q a log) : driver.Says x Q := by
  intro w
  obtain ⟨log, htalked, hpost⟩ := h w
  exact ⟨log, htalked, hPQ _ _ hpost⟩

theorem Says.and {x : Talk σ α} {P Q : α → List Exchange → Prop} (h : driver.Says x P)
    (h' : driver.Says x Q) : driver.Says x fun a log => P a log ∧ Q a log := by
  intro w
  obtain ⟨log, htalked, hP⟩ := h w
  obtain ⟨log', htalked', hQ⟩ := h' w
  have hevents : log.map Exchange.event = log'.map Exchange.event :=
    List.append_cancel_left (htalked.trace_eq.symm.trans htalked'.trace_eq)
  obtain rfl := htalked.unique htalked' hevents
  exact ⟨log, htalked, hP, hQ⟩

theorem says_pure {a : α} {P : α → List Exchange → Prop} (h : P a []) :
    driver.Says (pure a) P :=
  fun w => ⟨[], .nil w, h⟩

theorem Says.bind {x : Talk σ α} {f : α → Talk σ β} {P : α → List Exchange → Prop}
    {Q : β → List Exchange → Prop} (h : driver.Says x P)
    (hf : ∀ a log, P a log → driver.Says (f a) fun b log' => Q b (log ++ log')) :
    driver.Says (x >>= f) Q := by
  intro w
  obtain ⟨log, htalked, hpost⟩ := h w
  obtain ⟨log', htalked', hpost'⟩ := hf _ log hpost (x.run w).2
  exact ⟨log ++ log', htalked.append htalked', hpost'⟩

theorem Says.bind_pure {x : Talk σ α} {f : α → β} {P : α → List Exchange → Prop}
    {Q : β → List Exchange → Prop} (h : driver.Says x P) (hf : ∀ a log, P a log → Q (f a) log) :
    driver.Says (x >>= fun a => pure (f a)) Q :=
  h.bind fun a log hlog => says_pure ((List.append_nil log).symm ▸ hf a log hlog)

theorem Says.bindExcept {ε : Type} {x : ExceptT ε (Talk σ) α} {f : α → ExceptT ε (Talk σ) β}
    {P : Except ε α → List Exchange → Prop} {Q : Except ε β → List Exchange → Prop}
    (h : driver.Says x.run P) (herror : ∀ e log, P (.error e) log → Q (.error e) log)
    (hf : ∀ a log, P (.ok a) log → driver.Says (f a).run fun b log' => Q b (log ++ log')) :
    driver.Says (x >>= f).run Q := by
  rw [ExceptT.run_bind]
  refine h.bind fun result log hlog => ?_
  cases result with
  | error e => exact says_pure ((List.append_nil log).symm ▸ herror e log hlog)
  | ok a => exact hf a log hlog

theorem says_open? (url : String) (credentials : Credentials) :
    driver.Says (driver.open? url credentials) fun answer log =>
      log = [⟨.connect url credentials, .connected answer⟩] :=
  fun _ => ⟨_, .cons (.nil _), rfl⟩

theorem says_runQuery (h : Handle) (sql : String) (binds : List Value) :
    driver.Says (driver.runQuery h sql binds) fun answer log =>
      log = [⟨.call h (.query sql binds), .rows answer⟩] :=
  fun _ => ⟨_, .cons (.nil _), rfl⟩

theorem says_runExecute (h : Handle) (sql : String) :
    driver.Says (driver.runExecute h sql) fun answer log =>
      log = [⟨.call h (.execute sql), .count answer⟩] :=
  fun _ => ⟨_, .cons (.nil _), rfl⟩

theorem says_close (h : Handle) :
    driver.Says (driver.close h) fun answer log => log = [⟨.call h .disconnect, .closed answer⟩] :=
  fun _ => ⟨_, .cons (.nil _), rfl⟩

end Driver

end PolySql

import PolySql.Proofs.SqlServer.Options
import PolySql.Proofs.SqlServer.Version

namespace PolySql.SqlServer

open Driver Scope

variable {σ α β : Type}

abbrev Situation (σ : Type) := Option Session × World σ

namespace Adapter

variable (a : Adapter σ)

def opening : Event :=
  .connect a.settings.connectionUrl a.settings.credentials

def isolationStatement (level : Isolation) : String :=
  "SET TRANSACTION ISOLATION LEVEL " ++ level.sql

inductive SetUp (h : Handle) (v : Version) : List Exchange → Prop
  | plain {rows : RowSet} : Version.Reported rows v → (∃ n ∈ v.major, 13 ≤ n) →
    a.settings.isolation = none → SetUp h v [⟨.call h (.query Version.query []), .rows (.ok rows)⟩]
  | isolated {rows : RowSet} {level : Isolation} (count : Nat) : Version.Reported rows v →
    (∃ n ∈ v.major, 13 ≤ n) → a.settings.isolation = some level →
      SetUp h v
        [⟨.call h (.query Version.query []), .rows (.ok rows)⟩,
          ⟨.call h (.execute (isolationStatement level)), .count (.ok count)⟩]

inductive Rejected (h : Handle) : List Exchange → Prop
  | unanswered (f : DriverFailure) : Rejected h [⟨.call h (.query Version.query []), .rows (.error f)⟩]
  | unsupported {rows : RowSet} : (∀ v, Version.Reported rows v → ∀ n ∈ v.major, n < 13) →
    Rejected h [⟨.call h (.query Version.query []), .rows (.ok rows)⟩]
  | unisolated {rows : RowSet} {v : Version} {level : Isolation} (f : DriverFailure) :
    Version.Reported rows v → (∃ n ∈ v.major, 13 ≤ n) → a.settings.isolation = some level →
      Rejected h
        [⟨.call h (.query Version.query []), .rows (.ok rows)⟩,
          ⟨.call h (.execute (isolationStatement level)), .count (.error f)⟩]

section SetUp
variable {a} {h : Handle} {v : Version} {setup setup' log : List Exchange}

theorem Rejected.not_isPrefix (hs : a.Rejected h setup) (hs' : a.SetUp h v setup') :
    ¬ setup <+: setup' ++ log := by
  intro hprefix
  have hold {rows : RowSet} (hno : ∀ v, Version.Reported rows v → ∀ n ∈ v.major, n < 13)
      (hv : Version.Reported rows v) : ¬∃ n ∈ v.major, 13 ≤ n :=
    fun ⟨n, hn, hle⟩ => UInt32.not_lt.2 hle (hno v hv n hn)
  cases hs' with
  | plain hv hsupported hlevel =>
    cases hs with
    | unanswered f => simp at hprefix
    | unsupported hno =>
      have hrows := by simpa using hprefix
      exact hold (hrows ▸ hno) hv hsupported
    | unisolated f _ _ hlevel' =>
      rw [hlevel] at hlevel'
      cases hlevel'
  | isolated count hv hsupported hlevel =>
    cases hs with
    | unanswered f => simp at hprefix
    | unsupported hno =>
      have hrows := by simpa using hprefix
      exact hold (hrows ▸ hno) hv hsupported
    | unisolated f _ _ hlevel' => simp at hprefix

end SetUp

theorem says_check (v : Version) :
    a.driver.Says (pure v.check) fun result log => log = [] ∧ result.isOk = v.isSupported := by
  refine says_pure ⟨rfl, ?_⟩
  unfold Version.check
  split
  · rename_i hv
    exact hv.symm
  · rename_i hv
    exact (Bool.eq_false_iff.2 hv).symm

theorem says_configure (h : Handle) :
    a.driver.Says (a.configure h).run fun
      | .ok v, log => a.SetUp h v log
      | .error _, log => a.Rejected h log := by
  refine (a.says_runQuery h Version.query []).bindExcept ?_ ?_
  · rintro e log ⟨answer, rfl, he⟩
    cases answer with
    | ok rows => cases he
    | error f => exact .unanswered f
  rintro rows log ⟨answer, rfl, hrows⟩
  cases answer with
  | error f => cases hrows
  | ok rows' =>
    obtain rfl : rows = rows' := Except.ok.inj hrows
    cases hv : Version.ofRows? rows with
    | none =>
      refine says_pure (.unsupported fun v hreported => ?_)
      rw [Version.ofRows?_eq_some_iff.2 hreported] at hv
      cases hv
    | some v =>
      have hreported : Version.Reported rows v := Version.ofRows?_eq_some_iff.1 hv
      refine (a.says_check v).bindExcept ?_ ?_
      · rintro e log ⟨rfl, hv'⟩
        refine .unsupported fun v' hreported' n hn => UInt32.not_le.1 fun hle => ?_
        obtain rfl := Option.some.inj (hv.symm.trans (Version.ofRows?_eq_some_iff.2 hreported'))
        cases hv'.trans (Version.isSupported_iff.2 ⟨n, hn, hle⟩)
      rintro ⟨⟩ log ⟨rfl, hv'⟩
      have hsupported : ∃ n ∈ v.major, 13 ≤ n := Version.isSupported_iff.1 hv'.symm
      cases hlevel : a.settings.isolation with
      | none => exact says_pure (.plain hreported hsupported hlevel)
      | some level =>
        refine (a.says_runExecute h (isolationStatement level)).bindExcept ?_ ?_
        · rintro e log ⟨answer, rfl, he⟩
          cases answer with
          | ok n => cases he
          | error f => exact .unisolated f hreported hsupported hlevel
        · rintro n log ⟨answer, rfl, hn⟩
          cases answer with
          | error f => cases hn
          | ok n => exact says_pure (.isolated n hreported hsupported hlevel)

inductive Move (S : Call → Prop) : Option Session → List Exchange → Option Session → Prop
  | unopened (s : Option Session) (f : DriverFailure) :
    Move S s [⟨a.opening, .connected (.error f)⟩] s
  | rejected (s : Option Session) {h : Handle} {setup : List Exchange} (failure : Option DriverFailure) :
    a.Rejected h setup →
      Move S s (⟨a.opening, .connected (.ok h)⟩ :: (setup ++ [⟨.call h .disconnect, .closed failure⟩])) s
  | opened (s : Option Session) {h : Handle} {v : Version} {setup : List Exchange} : a.SetUp h v setup →
    Move S s (⟨a.opening, .connected (.ok h)⟩ :: setup) (some ⟨h, v, none⟩)
  | sent {s : Session} {c : Call} (answer : Answer) : c ≠ .disconnect → S c →
    Move S (some s) [⟨.call s.handle c, answer⟩] (some s)
  | collated {s : Session} (collation : Option String) :
    Move S (some s) [] (some { s with collation := collation })
  | closed {s : Session} (failure : Option DriverFailure) :
    Move S (some s) [⟨.call s.handle .disconnect, .closed failure⟩] none

inductive Moves (S : Call → Prop) : Option Session → List Exchange → Option Session → Prop
  | nil (s : Option Session) : Moves S s [] s
  | cons {s s' s'' : Option Session} {log log' : List Exchange} : a.Move S s log s' →
    Moves S s' log' s'' → Moves S s (log ++ log') s''

variable {a} {S : Call → Prop} {s s' : Option Session} {log log' : List Exchange}

theorem Move.moves (h : a.Move S s log s') : a.Moves S s log s' :=
  List.append_nil log ▸ .cons h (.nil s')

def Served (S : Call → Prop) (h : Handle) (log : List Exchange) : Prop :=
  ∀ x ∈ log, ∃ c, x.event = .call h c ∧ c ≠ .disconnect ∧ S c

theorem Served.isOn {h : Handle} (hlog : Served S h log) : IsOn h log :=
  fun x hx => (hlog x hx).imp fun _ hc => hc.1

theorem served_cons {h : Handle} {c : Call} {answer : Answer} (hc : c ≠ .disconnect) (hS : S c)
    (hlog : Served S h log) : Served S h (⟨.call h c, answer⟩ :: log) :=
  List.forall_mem_cons.2 ⟨⟨c, rfl, hc, hS⟩, hlog⟩

theorem served_singleton {h : Handle} {c : Call} {answer : Answer} (hc : c ≠ .disconnect) (hS : S c) :
    Served S h [⟨.call h c, answer⟩] :=
  served_cons hc hS (List.forall_mem_nil _)

theorem served_append {h : Handle} : Served S h (log ++ log') ↔ Served S h log ∧ Served S h log' :=
  List.forall_mem_append

section SetUp
variable {h : Handle} {v : Version} {setup : List Exchange}

theorem SetUp.served (hs : a.SetUp h v setup) : Served (fun _ => True) h setup := by
  cases hs with
  | plain _ _ _ => exact served_singleton nofun trivial
  | isolated count _ _ _ => exact served_cons nofun trivial (served_singleton nofun trivial)

theorem Rejected.served (hs : a.Rejected h setup) : Served (fun _ => True) h setup := by
  cases hs with
  | unanswered f => exact served_singleton nofun trivial
  | unsupported _ => exact served_singleton nofun trivial
  | unisolated f _ _ _ => exact served_cons nofun trivial (served_singleton nofun trivial)

theorem SetUp.isOn (hs : a.SetUp h v setup) : IsOn h setup :=
  hs.served.isOn

theorem Rejected.isOn (hs : a.Rejected h setup) : IsOn h setup :=
  hs.served.isOn

end SetUp

theorem Served.moves {s : Session} (h : Served S s.handle log) : a.Moves S (some s) log (some s) := by
  induction log with
  | nil => exact .nil _
  | cons x log ih =>
    obtain ⟨hx, hlog⟩ := List.forall_mem_cons.1 h
    obtain ⟨event, answer⟩ := x
    obtain ⟨c, rfl, hc, hS⟩ := hx
    exact .cons (.sent answer hc hS) (ih hlog)

theorem run_getSession_bind (f : Option Session → Work σ β) (s : Option Session) :
    (getSession >>= f).run.run s = (f s).run.run s :=
  rfl

theorem run_setSession_bind (f : Unit → Work σ β) (s t : Option Session) :
    (setSession t >>= f).run.run s = (f ()).run.run t :=
  rfl

theorem run_bind (x : Work σ α) (f : α → Work σ β) (s : Option Session) (w : World σ) :
    ((x >>= f).run.run s).run w =
      match (x.run.run s).run w with
      | ((.ok r, s'), w') => ((f r).run.run s').run w'
      | ((.error e, s'), w') => ((.error e, s'), w') := by
  rw [ExceptT.run_bind, StateT.run_bind, StateT.run_bind]
  generalize (x.run.run s).run w = r
  obtain ⟨⟨result, s'⟩, w'⟩ := r
  cases result <;> rfl

theorem run_onDriver (r : Request σ α) (s : Option Session) (w : World σ) :
    ((onDriver r).run.run s).run w = (((r.run.run w).1, s), (r.run.run w).2) :=
  rfl

def after (x : Work σ α) (now : Situation σ) : Situation σ :=
  let r := (x.run.run now.1).run now.2
  (r.1.2, r.2)

theorem after_bind (x : Work σ α) (f : α → Work σ β) (now : Situation σ) :
    after (x >>= f) now =
      match (x.run.run now.1).run now.2 with
      | ((.ok r, s), w) => after (f r) (s, w)
      | ((.error _, s), w) => (s, w) := by
  unfold after
  rw [run_bind]
  generalize (x.run.run now.1).run now.2 = r
  obtain ⟨⟨result, s⟩, w⟩ := r
  cases result <;> rfl

theorem after_map (x : Work σ α) (f : α → β) (now : Situation σ) :
    after (x >>= fun r => pure (f r)) now = after x now := by
  rw [after_bind]
  unfold after
  generalize (x.run.run now.1).run now.2 = r
  obtain ⟨⟨result, s⟩, w⟩ := r
  cases result <;> rfl

variable (a S)

theorem says_openSession :
    a.driver.Says a.openSession.run fun
      | .ok t, log => ∀ s, a.Move S s log (some t)
      | .error _, log => ∀ s, a.Move S s log s := by
  refine (says_open? _ _).bind fun answer log hlog => ?_
  subst hlog
  cases answer with
  | error f => exact says_pure fun s => .unopened s f
  | ok h =>
    refine (a.says_configure h).bind fun result log hlog => ?_
    cases result with
    | ok v => exact says_pure fun s => (List.append_nil log).symm ▸ .opened s hlog
    | error e =>
      refine (says_close h).bind_pure fun failure log' hlog' s => ?_
      subst hlog'
      exact .rejected s failure hlog

end Adapter

end PolySql.SqlServer

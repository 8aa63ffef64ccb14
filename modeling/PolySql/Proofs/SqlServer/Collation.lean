import PolySql.Proofs.SqlServer.Closing

namespace PolySql.SqlServer

open Driver

variable {σ : Type}

def Operation.Given (a : Adapter σ) (c : Call) : Operation → Prop
  | query sql binds | insert sql binds => c = .query sql binds
  | execute sql => c = .execute sql
  | explain sql binds => c = .query (Plan.interpolate a.dialect sql binds) []
  | withoutForeignKeys body => body.Sends c
  | _ => False

def Command.Given (a : Adapter σ) (c : Call) (cmd : Command) : Prop :=
  ∃ op, cmd.operation? a = some op ∧ op.Given a c

theorem Operation.given_of_brings {a : Adapter σ} {op : Operation}
    (h : op.Brings a (.query collationQuery [])) : op.Given a (.query collationQuery []) := by
  obtain ⟨hne, hsends⟩ := h
  cases op with
  | query sql binds => exact hsends
  | execute sql => exact hsends
  | insert sql binds =>
    obtain h | ⟨table, -, h | h⟩ := hsends
    · exact h
    · cases h
    · cases h
  | truncate table => obtain h | h := hsends <;> cases h
  | explain sql binds =>
    obtain h | h | h := hsends
    · cases h
    · exact h
    · cases h
  | withoutForeignKeys body =>
    obtain h | ⟨table, h | h⟩ | h := hsends
    · exact absurd (Call.query.inj h).1 (by decide)
    · cases h
    · cases h
    · exact h
  | collation => exact absurd rfl hne
  | connect | disconnect | reconnect | reset => exact hsends

def Told (log : List Exchange) (h : Handle) (c : String) : Prop :=
  ∃ answer, ⟨.call h (.query collationQuery []), .rows answer⟩ ∈ log ∧ learned answer = some c

theorem Told.append {log : List Exchange} {h : Handle} {c : String} (ht : Told log h c)
    (log' : List Exchange) : Told (log ++ log') h c :=
  ht.imp fun _ hanswer => ⟨List.mem_append_left _ hanswer.1, hanswer.2⟩

namespace Adapter

variable {a : Adapter σ} {S : Call → Prop} {asks : Prop} {h : Handle} {c : String} {log log' : List Exchange}
  {left : List Handle} {now next : Situation σ} {s s' : Option Session} {w w' : World σ}

theorem Move.of_none (hm : a.Move S none log s) (ht : a.driver.Talked w log w') :
    w.opened ≤ w'.opened ∧ (∀ x ∈ log, ∀ h c, x.event = .call h c → h = w.opened) ∧
      ∀ t ∈ s, t.handle = w.opened ∧ t.collation = none := by
  have hcalls {h : Handle} {answer : Answer} {calls : List Exchange} (hon : IsOn h calls) :
      ∀ x ∈ ⟨a.opening, answer⟩ :: calls, ∀ h' c, x.event = .call h' c → h' = h := by
    refine List.forall_mem_cons.2 ⟨nofun, fun x hx h' c he => ?_⟩
    obtain ⟨c', hc'⟩ := hon x hx
    rw [he] at hc'
    exact (Event.call.inj hc').1
  cases hm with
  | unopened _ f =>
    exact ⟨Nat.le_of_eq ht.of_refused.symm, List.forall_mem_singleton.2 nofun, nofun⟩
  | @rejected _ h setup failure hsetup =>
    obtain ⟨rfl, m, hm, hrest⟩ := ht.of_connected
    have hon : IsOn w.opened (setup ++ [⟨.call w.opened .disconnect, .closed failure⟩]) :=
      isOn_append.2 ⟨hsetup.isOn, isOn_cons isOn_nil⟩
    refine ⟨?_, hcalls hon, nofun⟩
    rw [hrest.opened_eq hon, hm]
    exact Nat.le_succ _
  | @opened _ h v setup hsetup =>
    obtain ⟨rfl, m, hm, hrest⟩ := ht.of_connected
    refine ⟨?_, hcalls hsetup.isOn, ?_⟩
    · rw [hrest.opened_eq hsetup.isOn, hm]
      exact Nat.le_succ _
    · rintro t ⟨⟩
      exact ⟨rfl, rfl⟩

def Known (now : Situation σ) (log : List Exchange) : Prop :=
  ∀ s ∈ now.1, ∀ c, s.collation = some c → Told log s.handle c

theorem Act.known (hact : a.Act S asks now log' left next) (hk : Known now log) :
    Known next (log ++ log') := by
  have hfresh {t : Option Session} {w w' : World σ} (hm : a.Move (fun _ => False) none log' t)
      (ht : a.driver.Talked w log' w') : ∀ s ∈ t, ∀ c, s.collation = some c → Told (log ++ log') s.handle c := by
    intro s hs c hc
    rw [((hm.of_none ht).2.2 s hs).2] at hc
    cases hc
  have hsame : ∀ s ∈ now.1, ∀ c, s.collation = some c → Told (log ++ log') s.handle c :=
    fun s hs c hc => (hk s hs c hc).append log'
  cases hact with
  | opening ht hm => exact hfresh hm ht
  | refused ht hm => exact hsame
  | replaced ht hm => exact hfresh hm ht
  | serving ht hserved => exact hsame
  | @learning w w' s answer _ ht hnone =>
    rintro t ⟨⟩ c hc
    exact ⟨answer, List.mem_append_right _ (List.mem_singleton.2 rfl), hc⟩
  | closing ht => exact nofun
  | drifting change => exact hsame

theorem Acts.known (hacts : a.Acts S asks now log' left next) (hk : Known now log) :
    Known next (log ++ log') := by
  induction hacts generalizing log with
  | nil now => rwa [List.append_nil]
  | cons hact _ ih =>
    rw [← List.append_assoc]
    exact ih (hact.known hk)

theorem Acts.known_of_none (hacts : a.Acts S asks (none, w) log left next) : Known next log := by
  have hnone : Known ((none, w) : Situation σ) [] := nofun
  exact hacts.known hnone

structure Kept (h : Handle) (c : String) (now : Situation σ) : Prop where
  lt : h < now.2.opened
  collation : ∀ s ∈ now.1, s.handle = h → s.collation = some c

theorem Kept.opened {s : Option Session} (hk : Kept h c (s, w)) (hm : a.Move S none log s')
    (ht : a.driver.Talked w log w') :
    Kept h c (s', w') ∧ ∀ x ∈ log, ∀ call, x.event ≠ .call h call := by
  obtain ⟨hle, hcalls, hfresh⟩ := hm.of_none ht
  have hne : h ≠ w.opened := Nat.ne_of_lt hk.lt
  refine ⟨⟨Nat.lt_of_lt_of_le hk.lt hle, fun t hs hh => ?_⟩, fun x hx call he => ?_⟩
  · exact absurd (hh.symm.trans (hfresh t hs).1) hne
  · exact absurd (hcalls x hx h call he) hne

theorem Act.kept (hact : a.Act S asks now log left next) (hk : Kept h c now) :
    Kept h c next ∧
      ∀ x ∈ log, x.event = .call h (.query collationQuery []) → S (.query collationQuery []) := by
  cases hact with
  | opening ht hm =>
    obtain ⟨hkept, hlog⟩ := hk.opened hm ht
    exact ⟨hkept, fun x hx he => absurd he (hlog x hx _)⟩
  | refused ht hm =>
    obtain ⟨hkept, hlog⟩ := hk.opened hm ht
    exact ⟨⟨hkept.lt, hk.collation⟩, fun x hx he => absurd he (hlog x hx _)⟩
  | replaced ht hm =>
    obtain ⟨hkept, hlog⟩ := hk.opened hm ht
    exact ⟨hkept, fun x hx he => absurd he (hlog x hx _)⟩
  | serving ht hserved =>
    refine ⟨⟨(ht.opened_eq hserved.isOn).symm ▸ hk.lt, hk.collation⟩, fun x hx he => ?_⟩
    obtain ⟨call, he', -, hS⟩ := hserved x hx
    obtain ⟨-, rfl⟩ := Event.call.inj (he.symm.trans he')
    exact hS
  | @learning w w' s answer _ ht hnone =>
    -- the connection does not know its collation, so it is another one
    have hne : s.handle ≠ h := fun hh => by
      rw [hk.collation s rfl hh] at hnone
      cases hnone
    refine ⟨⟨(ht.opened_eq (isOn_cons isOn_nil)).symm ▸ hk.lt, ?_⟩, ?_⟩
    · rintro t ⟨⟩ hh
      exact absurd hh hne
    · exact List.forall_mem_singleton.2 fun he => absurd (Event.call.inj he).1 hne
  | closing ht =>
    refine ⟨⟨(ht.opened_eq (isOn_cons isOn_nil)).symm ▸ hk.lt, nofun⟩, ?_⟩
    exact List.forall_mem_singleton.2 nofun
  | drifting change => exact ⟨⟨hk.lt, hk.collation⟩, List.forall_mem_nil _⟩

theorem Acts.kept (hacts : a.Acts S asks now log left next) (hk : Kept h c now) :
    Kept h c next ∧
      ∀ x ∈ log, x.event = .call h (.query collationQuery []) → S (.query collationQuery []) := by
  induction hacts with
  | nil now => exact ⟨hk, List.forall_mem_nil _⟩
  | cons hact _ ih =>
    obtain ⟨hfirst, hlog⟩ := hact.kept hk
    obtain ⟨hlast, hlog'⟩ := ih hfirst
    exact ⟨hlast, List.forall_mem_append.2 ⟨hlog, hlog'⟩⟩

variable (a) in
theorem handle_lt_run (before : List (Step σ)) (state : σ) :
    ∀ s ∈ (a.run before (none, World.start state)).1,
      s.handle < (a.run before (none, World.start state)).2.opened := by
  intro s hs
  have hlaw := a.closings_run before state s.handle
  have hheld : s.handle ∈ held (a.run before (none, World.start state)).1 :=
    List.mem_map_of_mem (Option.mem_toList.2 hs)
  have hpos := List.count_pos_iff.2 (List.mem_append_left (a.abandoned before (none, World.start state)) hheld)
  refine Nat.lt_of_not_ge fun hle => ?_
  dsimp only at hlaw
  rw [if_neg (Nat.not_lt.2 hle)] at hlaw
  exact absurd (Nat.eq_zero_of_add_eq_zero_left hlaw) (Nat.ne_of_gt hpos)

theorem of_run_collation {s : Session} {r : Except Failure (Option String)} {s' : Option Session}
    (h : (a.collation.run.run (some s)).run w = ((r, s'), w')) :
    (∀ c, r = .ok (some c) → ∃ t, s' = some t ∧ t.collation = some c) ∧
      ∀ e, r = .error e → s' = some s := by
  cases hc : s.collation with
  | some c =>
    rw [run_collation_known hc] at h
    cases h
    refine ⟨?_, nofun⟩
    rintro _ ⟨⟩
    exact ⟨s, rfl, hc⟩
  | none =>
    rw [run_collation_unknown hc] at h
    generalize (a.runQuery s.handle collationQuery []).run.run w = q at h
    obtain ⟨result, w''⟩ := q
    cases result with
    | error e =>
      cases h
      exact ⟨nofun, fun _ _ => rfl⟩
    | ok rows =>
      cases h
      exact ⟨fun c hc => ⟨_, rfl, Except.ok.inj hc⟩, nofun⟩

theorem run_collation_ok {c : String} {s : Option Session}
    (h : (a.collation.run.run now.1).run now.2 = ((.ok (some c), s), w)) :
    ∃ t, s = some t ∧ t.collation = some c := by
  obtain ⟨current, w₀⟩ := now
  cases current with
  | some t => exact (of_run_collation h).1 c rfl
  | none =>
    rw [run_collation_none] at h
    generalize a.openSession.run.run w₀ = o at h
    obtain ⟨result, w₁⟩ := o
    cases result with
    | error e => cases h
    | ok t => exact (of_run_collation h).1 c rfl

theorem run_collation_error {e : Failure} {s : Option Session}
    (h : (a.collation.run.run now.1).run now.2 = ((.error e, s), w)) :
    s = now.1 ∨ now.1 = none ∧ ∀ t ∈ s, t.collation = none := by
  obtain ⟨current, w₀⟩ := now
  cases current with
  | some t => exact .inl ((of_run_collation h).2 e rfl)
  | none =>
    rw [run_collation_none] at h
    obtain ⟨t, w₁, log, ho, ht, hmove⟩ | ⟨e', w₁, log, ho, -, -⟩ := a.run_openSession w₀
    · rw [ho] at h
      obtain rfl := (of_run_collation h).2 e rfl
      exact .inr ⟨rfl, fun t' ht' => ((hmove.of_none ht).2.2 t' ht').2⟩
    · rw [ho] at h
      cases h
      exact .inl rfl

variable (a) in
theorem collation_run (before : List (Step σ)) (state : σ) :
    let now := a.run before (none, World.start state)
    ∃ log, a.Ran before (none, World.start state) log ∧
      (∀ c s w, (a.collation.run.run now.1).run now.2 = ((.ok (some c), s), w) →
        ∃ log' t, a.driver.Talked now.2 log' w ∧ s = some t ∧ t.collation = some c ∧
          Told (log ++ log') t.handle c) ∧
      (∀ e s w, (a.collation.run.run now.1).run now.2 = ((.error e, s), w) →
        s = now.1 ∨ now.1 = none ∧ ∀ t ∈ s, t.collation = none) ∧
      ∀ (later : List (Step σ)), ∀ s ∈ now.1, ∀ c, s.collation = some c →
        ∃ log', a.Ran later now log' ∧
          (∀ x ∈ log', x.event = .call s.handle (.query collationQuery []) →
            ∃ cmd, .command cmd ∈ later ∧ cmd.Given a (.query collationQuery [])) ∧
          ∀ t ∈ (a.run later now).1, t.handle = s.handle →
            (a.collation.run.run (some t)).run (a.run later now).2 =
              ((.ok (some c), some t), (a.run later now).2) := by
  intro now
  obtain ⟨log, hran, hacts⟩ := a.exists_acts_run before (none, World.start state)
  have hknown : Known now log := hacts.known_of_none
  refine ⟨log, hran, fun c s w h => ?_, fun e s w h => run_collation_error h, fun later s hs c hc => ?_⟩
  · obtain ⟨log', ht, hasked⟩ := a.leads_collation (S := fun _ => False) trivial now
    obtain ⟨t, rfl, hc⟩ := run_collation_ok h
    have hafter : after a.collation now = (some t, w) := by rw [after, h]
    rw [hafter] at ht hasked
    exact ⟨log', t, ht, rfl, hc, hasked.known hknown t rfl c hc⟩
  · obtain ⟨log', hran', hacts'⟩ := a.exists_acts_run later now
    have hkept : Kept s.handle c now := by
      refine ⟨a.handle_lt_run before state s hs, fun t ht _ => ?_⟩
      rwa [Option.mem_unique ht hs]
    obtain ⟨hlast, hlog⟩ := hacts'.kept hkept
    refine ⟨log', hran', fun x hx he => ?_, fun t ht hh => ?_⟩
    · obtain ⟨cmd, hcmd, op, hop, hbrings⟩ := hlog x hx he
      exact ⟨cmd, hcmd, op, hop, Operation.given_of_brings hbrings⟩
    · exact run_collation_known (hlast.collation t ht hh) _

def latin : Driver Bool where
  connect _ _ _ _ := (none, false)
  query _ _ _ told := (.ok ⟨["v"], [[.text (if told then "Latin1_General_CI_AS" else "15.0.2000.5")]]⟩, true)
  execute _ _ told := (.ok 0, told)
  disconnect _ told := (none, told)
  isActive _ _ := true

def latinAdapter : Adapter Bool where
  driver := latin
  settings := .standard
  catalog := ⟨fun _ => [], fun _ => []⟩

def asked : Situation Bool :=
  latinAdapter.run [.command (.operation .collation)] (none, World.start false)

theorem collation_run_latin :
    let later := latinAdapter.run [.drift not, .command (.operation .collation)] asked
    (∃ log log' w, latinAdapter.Ran [.command (.operation .collation)] (none, World.start false) log ∧
        latin.Talked asked.2 log' w ∧ Told (log ++ log') 0 "Latin1_General_CI_AS") ∧
      (latinAdapter.collation.run.run later.1).run later.2 =
        ((.ok (some "Latin1_General_CI_AS"), later.1), later.2) := by
  intro later
  obtain ⟨log, hran, htold, -, hkept⟩ :=
    latinAdapter.collation_run [.command (.operation .collation)] false
  obtain ⟨log', t, htalked, ht, -, htold'⟩ := htold "Latin1_General_CI_AS" _ _ rfl
  obtain ⟨-, -, -, hlater⟩ := hkept [.drift not, .command (.operation .collation)] _ rfl _ rfl
  obtain rfl := Option.some.inj ht
  exact ⟨⟨log, log', _, hran, htalked, htold'⟩, hlater _ rfl rfl⟩

theorem collationQuery_asked_again :
    ¬∀ (before later : List (Step Bool)) (log log' : List Exchange),
      latinAdapter.Ran before (none, World.start false) log →
      latinAdapter.Ran later (latinAdapter.run before (none, World.start false)) log' →
      ∀ h c, Told log h c → ∀ x ∈ log', x.event ≠ .call h (.query collationQuery []) := by
  intro hnever
  obtain ⟨log, hran, hacts⟩ :=
    latinAdapter.exists_acts_run [.command (.operation .collation)] (none, World.start false)
  have hknown : Known asked log := hacts.known_of_none
  obtain ⟨log', ht, -⟩ := latinAdapter.leads_command (.operation (.query collationQuery [])) asked
  have hevents : log'.map Exchange.event = [.call 0 (.query collationQuery [])] :=
    List.append_cancel_left (ht.trace_eq.symm.trans rfl)
  obtain ⟨x, hx, he⟩ : ∃ x ∈ log', x.event = .call 0 (.query collationQuery []) := by
    rw [← List.mem_map, hevents]
    exact List.mem_singleton.2 rfl
  have htold : Told log 0 "Latin1_General_CI_AS" := hknown _ rfl _ rfl
  exact hnever _ _ log (log' ++ []) hran (.command ht (.nil _)) 0 _ htold x (List.mem_append_left _ hx) he

end Adapter

end PolySql.SqlServer

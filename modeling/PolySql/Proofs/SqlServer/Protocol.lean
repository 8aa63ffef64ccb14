import PolySql.Proofs.SqlServer.Act

namespace PolySql.SqlServer

open Driver Scope

namespace Adapter

variable {σ : Type} (a : Adapter σ)

inductive Life (S : Call → Prop) (h : Handle) : List Exchange → Prop
  | rejected {setup : List Exchange} (failure : Option DriverFailure) : a.Rejected h setup →
    Life S h (setup ++ [⟨.call h .disconnect, .closed failure⟩])
  | serving {v : Version} {setup log : List Exchange} : a.SetUp h v setup → Served S h log →
    Life S h (setup ++ log)
  | closed {v : Version} {setup log : List Exchange} (failure : Option DriverFailure) :
    a.SetUp h v setup → Served S h log →
      Life S h (setup ++ log ++ [⟨.call h .disconnect, .closed failure⟩])

inductive Serves (S : Call → Prop) (s : Session) : List Exchange → Prop
  | intro {setup log : List Exchange} : a.SetUp s.handle s.version setup → Served S s.handle log →
    Serves S s (setup ++ log)

structure Keeps (S : Call → Prop) (log : List Exchange) (opened : Nat) (session : Option Session) :
    Prop where
  life : ∀ h : Nat, h < opened → a.Life S h (callsOn h log)
  callsOn_eq_nil : ∀ h : Nat, opened ≤ h → callsOn h log = []
  handle_lt : ∀ s ∈ session, s.handle < opened
  serves : ∀ s ∈ session, a.Serves S s (callsOn s.handle log)

variable {a} {S : Call → Prop} {log new : List Exchange} {opened opened' : Nat} {s s' : Option Session}
  {w w' : World σ}

section Serves
variable {s : Session} {c : Call} {answer : Answer}

theorem Serves.life (hs : a.Serves S s log) : a.Life S s.handle log := by
  cases hs with
  | intro hsetup hlog => exact .serving hsetup hlog

theorem Serves.sent (hs : a.Serves S s log) (hc : c ≠ .disconnect) (hS : S c) :
    a.Serves S s (log ++ [⟨.call s.handle c, answer⟩]) := by
  cases hs with
  | intro hsetup hlog =>
    rw [List.append_assoc]
    exact .intro hsetup (served_append.2 ⟨hlog, served_singleton hc hS⟩)

theorem Serves.closed (hs : a.Serves S s log) (failure : Option DriverFailure) :
    a.Life S s.handle (log ++ [⟨.call s.handle .disconnect, .closed failure⟩]) := by
  cases hs with
  | intro hsetup hlog => exact .closed failure hsetup hlog

theorem Serves.of_setUp (hsetup : a.SetUp s.handle s.version log) : a.Serves S s log :=
  List.append_nil log ▸ .intro hsetup (List.forall_mem_nil _)

theorem Serves.congr {t : Session} (hs : a.Serves S s log) (hh : t.handle = s.handle)
    (hv : t.version = s.version) : a.Serves S t log := by
  cases hs with
  | intro hsetup hlog =>
    rw [← hh, ← hv] at hsetup
    exact .intro hsetup (hh ▸ hlog)

end Serves

theorem Keeps.extend {h : Nat} (hk : a.Keeps S log opened s)
    (hopened : opened' = opened ∧ h < opened ∨ h = opened ∧ opened' = opened + 1)
    (hother : ∀ h' ≠ h, callsOn h' new = []) (hlife : a.Life S h (callsOn h log ++ callsOn h new))
    (hs' : ∀ t ∈ s', t ∈ s ∧ t.handle ≠ h ∨
      t.handle = h ∧ a.Serves S t (callsOn h log ++ callsOn h new)) :
    a.Keeps S (log ++ new) opened' s' where
  life h' hh' := by
    rw [callsOn_append]
    by_cases hne : h' = h
    · rwa [hne]
    · rw [hother h' hne, List.append_nil]
      exact hk.life h' (by omega)
  callsOn_eq_nil h' hh' := by
    rw [callsOn_append, hk.callsOn_eq_nil h' (by omega), hother h' (by omega), List.append_nil]
  handle_lt t ht := by
    have hle : opened ≤ opened' ∧ h < opened' := by omega
    obtain ⟨hs, -⟩ | ⟨rfl, -⟩ := hs' t ht
    · exact Nat.lt_of_lt_of_le (hk.handle_lt t hs) hle.1
    · exact hle.2
  serves t ht := by
    rw [callsOn_append]
    obtain ⟨hs, hne⟩ | ⟨rfl, hserves⟩ := hs' t ht
    · rw [hother _ hne, List.append_nil]
      exact hk.serves t hs
    · exact hserves

theorem Keeps.unchanged (hk : a.Keeps S log opened s) (hnew : ∀ h, callsOn h new = [])
    (hs' : ∀ t ∈ s', ∃ t' ∈ s, t.handle = t'.handle ∧ t.version = t'.version) :
    a.Keeps S (log ++ new) opened s' := by
  have hcalls (h : Handle) : callsOn h (log ++ new) = callsOn h log := by
    rw [callsOn_append, hnew, List.append_nil]
  refine ⟨fun h hh => ?_, fun h hh => ?_, fun t ht => ?_, fun t ht => ?_⟩
  · rw [hcalls]
    exact hk.life h hh
  · rw [hcalls]
    exact hk.callsOn_eq_nil h hh
  · obtain ⟨t', ht', hh, -⟩ := hs' t ht
    rw [hh]
    exact hk.handle_lt t' ht'
  · obtain ⟨t', ht', hh, hv⟩ := hs' t ht
    rw [hcalls, hh]
    exact (hk.serves t' ht').congr hh hv

theorem Keeps.connected {h : Handle} {calls : List Exchange} (hk : a.Keeps S log w.opened s)
    (ht : a.driver.Talked w (⟨a.opening, .connected (.ok h)⟩ :: calls) w') (hon : IsOn h calls)
    (hlife : a.Life S h calls) (hs' : ∀ t ∈ s', t ∈ s ∨ t.handle = h ∧ a.Serves S t calls) :
    a.Keeps S (log ++ ⟨a.opening, .connected (.ok h)⟩ :: calls) w'.opened s' := by
  obtain ⟨rfl, m, hm, ht⟩ := ht.of_connected
  have hcalls : callsOn w.opened log ++
      callsOn w.opened (⟨a.opening, .connected (.ok w.opened)⟩ :: calls) = calls := by
    rw [hk.callsOn_eq_nil w.opened (Nat.le_refl _)]
    exact hon.callsOn_eq
  rw [ht.opened_eq hon, hm]
  refine hk.extend (.inr ⟨rfl, rfl⟩) (fun h' hne => hon.callsOn_of_ne hne) (hcalls.symm ▸ hlife) ?_
  intro t ht
  rw [hcalls]
  exact (hs' t ht).imp_left fun hs => ⟨hs, Nat.ne_of_lt (hk.handle_lt t hs)⟩

theorem Keeps.called {s : Session} {c : Call} {answer : Answer} (hk : a.Keeps S log w.opened (some s))
    (ht : a.driver.Talked w [⟨.call s.handle c, answer⟩] w')
    (hlife : a.Life S s.handle (callsOn s.handle log ++ [⟨.call s.handle c, answer⟩]))
    (hs' : ∀ t ∈ s', t.handle = s.handle ∧
      a.Serves S t (callsOn s.handle log ++ [⟨.call s.handle c, answer⟩])) :
    a.Keeps S (log ++ [⟨.call s.handle c, answer⟩]) w'.opened s' := by
  have hon : IsOn s.handle [⟨.call s.handle c, answer⟩] := isOn_cons isOn_nil
  rw [ht.opened_eq hon]
  refine hk.extend (.inl ⟨rfl, hk.handle_lt s rfl⟩) (fun h' hne => hon.callsOn_of_ne hne) ?_ ?_
  · rw [hon.callsOn_eq]
    exact hlife
  · rw [hon.callsOn_eq]
    exact fun t ht => .inr (hs' t ht)

theorem Keeps.move (hk : a.Keeps S log w.opened s) (hmove : a.Move S s new s')
    (ht : a.driver.Talked w new w') : a.Keeps S (log ++ new) w'.opened s' := by
  cases hmove with
  | unopened s f =>
    rw [ht.of_refused]
    exact hk.unchanged (fun _ => rfl) fun t ht => ⟨t, ht, rfl, rfl⟩
  | @rejected _ h setup failure hsetup =>
    have hon : IsOn h (setup ++ [⟨.call h .disconnect, .closed failure⟩]) :=
      isOn_append.2 ⟨hsetup.isOn, isOn_cons isOn_nil⟩
    exact hk.connected ht hon (.rejected failure hsetup) fun t ht => .inl ht
  | @opened _ h v setup hsetup =>
    have hserves : a.Serves S ⟨h, v, none⟩ setup := .of_setUp hsetup
    refine hk.connected ht hsetup.isOn hserves.life ?_
    rintro t ⟨⟩
    exact .inr ⟨rfl, hserves⟩
  | @sent s c answer hc hS =>
    have hserves : a.Serves S s (callsOn s.handle log ++ [⟨.call s.handle c, answer⟩]) :=
      (hk.serves s rfl).sent hc hS
    refine hk.called ht hserves.life ?_
    rintro t ⟨⟩
    exact ⟨rfl, hserves⟩
  | @collated s collation =>
    cases ht
    refine hk.unchanged (fun _ => rfl) ?_
    rintro t ⟨⟩
    exact ⟨s, rfl, rfl, rfl⟩
  | closed failure => exact hk.called ht ((hk.serves _ rfl).closed failure) (by rintro t ⟨⟩)

theorem Keeps.moves (hk : a.Keeps S log w.opened s) (hmoves : a.Moves S s new s')
    (ht : a.driver.Talked w new w') : a.Keeps S (log ++ new) w'.opened s' := by
  induction hmoves generalizing log w with
  | nil s =>
    cases ht
    rwa [List.append_nil]
  | cons hmove _ ih =>
    obtain ⟨m, hfirst, hrest⟩ := ht.split
    rw [← List.append_assoc]
    exact ih (hk.move hmove hfirst) hrest

theorem Move.mono {S' : Call → Prop} (hS : ∀ c, S c → S' c) (h : a.Move S s log s') : a.Move S' s log s' := by
  cases h with
  | unopened _ f => exact .unopened _ f
  | rejected _ failure hsetup => exact .rejected _ failure hsetup
  | opened _ hsetup => exact .opened _ hsetup
  | sent answer hc hc' => exact .sent answer hc (hS _ hc')
  | collated collation => exact .collated collation
  | closed failure => exact .closed failure

theorem Moves.mono {S' : Call → Prop} (hS : ∀ c, S c → S' c) (h : a.Moves S s log s') :
    a.Moves S' s log s' := by
  induction h with
  | nil s => exact .nil s
  | cons hmove _ ih => exact .cons (hmove.mono hS) ih

theorem Move.in_place (h : a.Move S none log s') (s : Option Session) : a.Move S s log (s'.or s) := by
  cases h with
  | unopened _ f => exact .unopened s f
  | rejected _ failure hsetup => exact .rejected s failure hsetup
  | opened _ hsetup => exact .opened s hsetup

theorem Act.moves {asks : Prop} {left : List Handle} {now next : Situation σ}
    (h : a.Act S asks now log left next) :
    a.Moves (fun c => S c ∨ asks ∧ c = .query collationQuery []) now.1 log next.1 := by
  cases h with
  | opening _ hmove => exact (hmove.mono nofun).moves
  | @refused w w' log s _ hmove => exact ((hmove.in_place (some s)).mono nofun).moves
  | @replaced w w' log s t _ hmove => exact ((hmove.in_place (some s)).mono nofun).moves
  | serving _ hserved => exact Moves.mono (fun _ => .inl) hserved.moves
  | @learning w w' s answer hasks _ _ =>
    have hquery : Call.query collationQuery [] ≠ .disconnect := nofun
    exact .cons (.sent (.rows answer) hquery (.inr ⟨hasks, rfl⟩)) (Move.moves (.collated _))
  | closing _ => exact Move.moves (.closed _)
  | drifting change => exact .nil _

theorem Act.talked {asks : Prop} {left : List Handle} {now next : Situation σ}
    (h : a.Act S asks now log left next) :
    a.driver.Talked now.2 log next.2 ∨
      log = [] ∧ next.2.opened = now.2.opened ∧ next.2.trace = now.2.trace ∧ next.1 = now.1 := by
  cases h with
  | opening ht _ | refused ht _ | replaced ht _ | serving ht _ | learning _ ht _ | closing ht => exact .inl ht
  | drifting change => exact .inr ⟨rfl, rfl, rfl, rfl⟩

theorem Acts.trace_eq {asks : Prop} {left : List Handle} {now later : Situation σ}
    (h : a.Acts S asks now log left later) :
    later.2.trace = now.2.trace ++ log.map Exchange.event := by
  induction h with
  | nil now => exact (List.append_nil _).symm
  | cons hact _ ih =>
    rw [ih, List.map_append, ← List.append_assoc]
    congr 1
    obtain ht | ⟨rfl, -, htrace, -⟩ := hact.talked
    · exact ht.trace_eq
    · rw [htrace, List.map_nil, List.append_nil]

theorem Keeps.acts {asks : Prop} {left : List Handle} {now later : Situation σ} {S' : Call → Prop}
    (hS : ∀ c, S' c ∨ asks ∧ c = .query collationQuery [] → S c) (h : a.Acts S' asks now new left later)
    (hk : a.Keeps S log now.2.opened now.1) : a.Keeps S (log ++ new) later.2.opened later.1 := by
  induction h generalizing log with
  | nil now => rwa [List.append_nil]
  | cons hact _ ih =>
    rw [← List.append_assoc]
    refine ih ?_
    obtain ht | ⟨rfl, hopened, -, hsession⟩ := hact.talked
    · exact hk.moves (hact.moves.mono hS) ht
    · rwa [List.append_nil, hopened, hsession]

variable (a) in
theorem life_run (steps : List (Step σ)) (state : σ) :
    let now := a.run steps (none, World.start state)
    let S := fun call => ∃ c, .command c ∈ steps ∧ c.Sends a call
    ∃ log, a.Ran steps (none, World.start state) log ∧ now.2.trace = log.map Exchange.event ∧
      (∀ h < now.2.opened, a.Life S h (callsOn h log)) ∧
      (∀ h, now.2.opened ≤ h → callsOn h log = []) ∧
      ∀ s, now.1 = some s → s.handle < now.2.opened ∧ a.Serves S s (callsOn s.handle log) ∧
        (∀ setup, a.Rejected s.handle setup → ¬ setup <+: callsOn s.handle log) ∧
        ((serverVersion (σ := σ)).run.run now.1).run now.2 = ((.ok (some s.version), now.1), now.2) := by
  intro now S
  obtain ⟨log, hran, hacts⟩ := a.exists_acts_run steps (none, World.start state)
  have hstart : a.Keeps S [] (World.start state).opened none :=
    ⟨fun h hh => absurd hh (Nat.not_lt_zero h), fun _ _ => rfl, by rintro s ⟨⟩, by rintro s ⟨⟩⟩
  have hkeeps : a.Keeps S log now.2.opened now.1 := by
    refine hstart.acts ?_ hacts
    rintro call (⟨c, hc, op, hop, -, hsends⟩ | ⟨⟨c, hc, hop⟩, rfl⟩)
    · exact ⟨c, hc, op, hop, hsends⟩
    · exact ⟨c, hc, .collation, hop, rfl⟩
  refine ⟨log, hran, hacts.trace_eq, hkeeps.life, hkeeps.callsOn_eq_nil, fun s hs => ?_⟩
  have hserves := hkeeps.serves s hs
  refine ⟨hkeeps.handle_lt s hs, hserves, fun setup hrejected => ?_, ?_⟩
  · generalize callsOn s.handle log = calls at hserves
    cases hserves with
    | intro hsetup _ => exact hrejected.not_isPrefix hsetup
  · rw [hs]
    rfl

def downgraded : Driver Bool where
  connect _ _ _ _ := (none, true)
  query h _ _ up := (.ok ⟨["v"], [[.text (if h = 0 then "15.0.2000.5" else "10.50.1600.1")]]⟩, up)
  execute _ _ up := (.ok 0, up)
  disconnect _ up := (none, up)
  isActive _ up := up

def serializableAdapter : Adapter Bool where
  driver := downgraded
  settings := { Settings.standard with isolation := some .serializable }
  catalog := ⟨fun _ => [], fun _ => []⟩

def relapse : List (Step Bool) :=
  [.command (.operation (.execute "SELECT 1")), .drift fun _ => false, .command (.operation .connect),
    .command (.operation (.execute "SELECT 2"))]

def relapsed : Situation Bool :=
  serializableAdapter.run relapse (none, World.start false)

theorem trace_relapsed :
    relapsed.2.trace =
      [serializableAdapter.opening, .call 0 (.query Version.query []),
        .call 0 (.execute "SET TRANSACTION ISOLATION LEVEL SERIALIZABLE"), .call 0 (.execute "SELECT 1"),
        serializableAdapter.opening, .call 1 (.query Version.query []), .call 1 .disconnect,
        .call 0 (.execute "SELECT 2")] :=
  rfl

theorem session_relapsed : relapsed.1 = some ⟨0, ⟨"15.0.2000.5", some 15, none, none⟩, none⟩ :=
  rfl

theorem opened_relapsed : relapsed.2.opened = 2 :=
  rfl

theorem life_run_relapse :
    let S := fun call => ∃ c, .command c ∈ relapse ∧ c.Sends serializableAdapter call
    ∃ log, serializableAdapter.Ran relapse (none, World.start false) log ∧
      (∃ s ∈ relapsed.1, s.handle = 0 ∧ serializableAdapter.Serves S s (callsOn 0 log)) ∧
      ∃ setup failure, serializableAdapter.Rejected 1 setup ∧
        callsOn 1 log = setup ++ [⟨.call 1 .disconnect, .closed failure⟩] := by
  intro S
  obtain ⟨log, hran, htrace, hlife, -, hsession⟩ := serializableAdapter.life_run relapse false
  change relapsed.2.trace = _ at htrace
  have hfirst := hsession _ session_relapsed
  have hsecond : serializableAdapter.Life S 1 (callsOn 1 log) :=
    hlife 1 (opened_relapsed.symm ▸ Nat.one_lt_two)
  refine ⟨log, hran, ⟨_, session_relapsed, rfl, hfirst.2.1⟩, ?_⟩
  have hsaid : (callsOn 1 log).map Exchange.event =
      [.call 1 (.query Version.query []), .call 1 .disconnect] := by
    rw [map_callsOn, ← htrace, trace_relapsed]
    rfl
  -- a set-up that passes has a second statement, the isolation level
  have hlong {v : Version} {setup : List Exchange} (hs : serializableAdapter.SetUp 1 v setup) :
      ∃ first sql, setup.map Exchange.event = [first, .call 1 (.execute sql)] := by
    cases hs with
    | plain _ _ hlevel => cases hlevel
    | isolated => exact ⟨_, _, rfl⟩
  generalize callsOn 1 log = calls at hsecond hsaid ⊢
  cases hsecond with
  | rejected failure hs => exact ⟨_, failure, hs, rfl⟩
  | serving hs _ =>
    obtain ⟨first, sql, hsetup⟩ := hlong hs
    simp [hsetup] at hsaid
  | closed failure hs _ =>
    obtain ⟨first, sql, hsetup⟩ := hlong hs
    simp [hsetup] at hsaid

end Adapter

end PolySql.SqlServer

import PolySql.Proofs.SqlServer.Act

namespace PolySql

variable {σ : Type}

def Event.closes (h : Handle) : Event → Bool
  | .call h' .disconnect => h' == h
  | _ => false

def World.closings (h : Handle) (w : World σ) : Nat :=
  w.trace.countP (Event.closes h)

namespace SqlServer

open Driver

def closings (h : Handle) (log : List Exchange) : Nat :=
  log.countP fun x => x.event.closes h

section Log
variable {h h' : Handle} {log : List Exchange}

theorem closings_talked {driver : Driver σ} {w w' : World σ} (ht : driver.Talked w log w') (h : Handle) :
    w'.closings h = w.closings h + closings h log := by
  rw [World.closings, ht.trace_eq, List.countP_append, List.countP_map]
  rfl

theorem closings_served {S : Call → Prop} (hlog : Adapter.Served S h' log) : closings h log = 0 := by
  refine List.countP_eq_zero.2 fun x hx => ?_
  obtain ⟨c, he, hc, -⟩ := hlog x hx
  rw [he]
  cases c with
  | disconnect => exact absurd rfl hc
  | query sql binds => exact Bool.false_ne_true
  | execute sql => exact Bool.false_ne_true

theorem closings_append {log' : List Exchange} : closings h (log ++ log') = closings h log + closings h log' :=
  List.countP_append ..

theorem closings_close {failure : Option DriverFailure} :
    closings h [⟨.call h' .disconnect, .closed failure⟩] = if h' = h then 1 else 0 := by
  simp [closings, Event.closes, List.countP_singleton]

end Log

namespace Adapter

variable {a : Adapter σ} {S : Call → Prop} {asks : Prop} {h : Handle} {v : Version} {log setup : List Exchange}
  {left left' : List Handle} {now next : Situation σ} {s : Option Session} {w w' : World σ}

theorem closings_opening {answer : Answer} : closings h (⟨a.opening, answer⟩ :: log) = closings h log :=
  List.countP_cons_of_neg Bool.false_ne_true

def held (s : Option Session) : List Handle :=
  s.toList.map Session.handle

theorem Move.balance (hm : a.Move S none log s) (ht : a.driver.Talked w log w') (h : Nat) :
    closings h log + (held s).count h + (if h < w.opened then 1 else 0) =
      if h < w'.opened then 1 else 0 := by
  have hnew : (if w.opened = h then 1 else 0) + (if h < w.opened then 1 else 0) =
      if h < w.opened + 1 then 1 else 0 := by
    grind
  cases hm with
  | unopened _ f =>
    rw [ht.of_refused]
    simp [closings, held, Event.closes, opening]
  | @rejected _ h' setup failure hsetup =>
    obtain ⟨rfl, m, hm, hcalls⟩ := ht.of_connected
    have hon : IsOn w.opened (setup ++ [⟨.call w.opened .disconnect, .closed failure⟩]) :=
      isOn_append.2 ⟨hsetup.isOn, isOn_cons isOn_nil⟩
    rw [closings_opening, closings_append, closings_served hsetup.served, closings_close, Nat.zero_add,
      hcalls.opened_eq hon, hm]
    exact hnew
  | @opened _ h' v setup hsetup =>
    obtain ⟨rfl, m, hm, hcalls⟩ := ht.of_connected
    rw [closings_opening, closings_served hsetup.served, Nat.zero_add, hcalls.opened_eq hsetup.isOn, hm,
      held, Option.toList, List.map_singleton, List.count_singleton]
    simpa using hnew

theorem Act.balance (hact : a.Act S asks now log left next) (h : Nat) :
    next.2.closings h + (held next.1 ++ left).count h + (if h < now.2.opened then 1 else 0) =
      now.2.closings h + (held now.1).count h + if h < next.2.opened then 1 else 0 := by
  rw [List.count_append]
  cases hact with
  | opening ht hmove =>
    have hbalance := hmove.balance ht h
    rw [closings_talked ht]
    simp only [held, Option.toList, List.map_nil, List.count_nil] at hbalance ⊢
    omega
  | refused ht hmove =>
    have hbalance := hmove.balance ht h
    rw [closings_talked ht]
    simp only [held, Option.toList, List.map_nil, List.count_nil] at hbalance ⊢
    omega
  | replaced ht hmove =>
    have hbalance := hmove.balance ht h
    rw [closings_talked ht]
    simp only [held, Option.toList, List.map_cons, List.map_nil] at hbalance ⊢
    omega
  | serving ht hserved =>
    rw [closings_talked ht, closings_served hserved, ht.opened_eq hserved.isOn]
    simp
  | learning _ ht hnone =>
    rw [closings_talked ht, ht.opened_eq (isOn_cons isOn_nil)]
    simp [closings, Event.closes, held]
  | @closing w w' s failure ht =>
    rw [closings_talked ht, closings_close, ht.opened_eq (isOn_cons isOn_nil)]
    simp [held, List.count_singleton]
  | drifting change => simp [World.closings]

theorem Acts.balance (hacts : a.Acts S asks now log left next) (h : Nat) :
    next.2.closings h + (held next.1 ++ left).count h + (if h < now.2.opened then 1 else 0) =
      now.2.closings h + (held now.1).count h + if h < next.2.opened then 1 else 0 := by
  induction hacts with
  | nil now => simp
  | cons hact _ ih =>
    have hfirst := hact.balance h
    simp only [List.count_append] at hfirst ih ⊢
    omega

variable (a) in
theorem closings_run (steps : List (Step σ)) (state : σ) (h : Nat) :
    let now := a.run steps (none, World.start state)
    now.2.closings h + (held now.1 ++ a.abandoned steps (none, World.start state)).count h =
      if h < now.2.opened then 1 else 0 := by
  obtain ⟨log, -, hacts⟩ := a.exists_acts_run steps (none, World.start state)
  simpa [World.start, World.closings, held] using hacts.balance h

variable (a) in
theorem closed_once_iff (steps : List (Step σ)) (state : σ) :
    let now := a.run steps (none, World.start state)
    ∀ h < now.2.opened,
      ((∃ s ∈ now.1, s.handle = h) ∨ now.2.closings h = 1 ↔
        h ∉ a.abandoned steps (none, World.start state)) ∧
      now.2.closings h ≤ 1 ∧ ∀ s ∈ now.1, s.handle = h → now.2.closings h = 0 := by
  intro now h hh
  have hlaw : now.2.closings h +
      ((held now.1).count h + (a.abandoned steps (none, World.start state)).count h) = 1 := by
    rw [← List.count_append]
    exact (a.closings_run steps state h).trans (if_pos hh)
  have hheld : (∃ s ∈ now.1, s.handle = h) ↔ 0 < (held now.1).count h := by
    rw [List.count_pos_iff]
    simp [held]
  have hleft : h ∉ a.abandoned steps (none, World.start state) ↔
      (a.abandoned steps (none, World.start state)).count h = 0 :=
    List.count_eq_zero.symm
  refine ⟨?_, by omega, fun s hs hsh => ?_⟩
  · rw [hheld, hleft]
    omega
  · have hpos := hheld.1 ⟨s, hs, hsh⟩
    omega

def mortal : Driver Bool where
  connect _ _ _ _ := (none, true)
  query _ _ _ up := (.ok ⟨["v"], [[.text "15.0.2000.5"]]⟩, up)
  execute _ _ up := (.ok 0, up)
  disconnect _ _ := (none, false)
  isActive _ up := up

def mortalAdapter : Adapter Bool where
  driver := mortal
  settings := .standard
  catalog := ⟨fun _ => [], fun _ => []⟩

def revived : List (Step Bool) :=
  [.command (.operation .connect), .drift fun _ => false, .command (.operation .connect)]

theorem closed_once_iff_revived :
    let now := mortalAdapter.run revived (none, World.start false)
    now.2.opened = 2 ∧ now.2.closings 0 = 0 ∧ (∀ s ∈ now.1, s.handle = 1) ∧
      ¬((∃ s ∈ now.1, s.handle = 0) ∨ now.2.closings 0 = 1) := by
  intro now
  have hopened : now.2.opened = 2 := rfl
  refine ⟨hopened, rfl, ?_, fun hkept => ?_⟩
  · rintro s ⟨⟩
    rfl
  · have hiff := (mortalAdapter.closed_once_iff revived false 0 (by rw [hopened]; decide)).1
    exact hiff.1 hkept (List.mem_singleton.2 rfl)

end Adapter

end SqlServer

end PolySql

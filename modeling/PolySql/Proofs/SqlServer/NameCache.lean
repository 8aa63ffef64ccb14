import Mathlib.Algebra.GroupWithZero.Nat
import PolySql.SqlServer.Dialect
import PolySql.SqlServer.NameCache

namespace PolySql.SqlServer

inductive NameRequest where
  | table (name : String)
  | column (name : String)
  deriving DecidableEq, Repr

namespace NameRequest

def name : NameRequest → String
  | table name | column name => name

def isStar : NameRequest → Bool
  | table _ => false
  | column name => name == "*"

def quoted : NameRequest → String
  | table name => dialect.quoteTable name
  | column name => dialect.quoteColumn name

theorem quoted_of_isStar {r : NameRequest} (h : r.isStar = true) : r.quoted = "*" := by
  cases r with
  | table name => cases h
  | column name => exact if_pos h

theorem quoted_of_not_isStar {r : NameRequest} (h : r.isStar = false) : r.quoted = quoteName r.name := by
  cases r with
  | table name => rfl
  | column name => exact if_neg (Bool.eq_false_iff.1 h)

end NameRequest

namespace NameCache

variable {c : NameCache}

structure IsFaithful (c : NameCache) : Prop where
  eq_quoteName : ∀ name text, c.get? name = some text → text = quoteName name
  size_le : c.entries.size ≤ limit

theorem isFaithful_empty : empty.IsFaithful where
  eq_quoteName := by simp [empty, get?]
  size_le := by simp [empty]

theorem IsFaithful.remember (h : c.IsFaithful) (name : String) :
    (c.remember name (quoteName name)).IsFaithful := by
  unfold NameCache.remember
  constructor
  · intro other text hget
    simp only [get?, Std.HashMap.getElem?_insert] at hget
    split at hget
    · rename_i hname
      obtain rfl := eq_of_beq hname
      exact (Option.some.inj hget).symm
    · split at hget
      · simp at hget
      · exact h.eq_quoteName other text hget
  · have hinsert (room : Std.HashMap String String) :
        (room.insert name (quoteName name)).size ≤ room.size + 1 := Std.HashMap.size_insert_le
    split
    · exact Nat.le_trans (hinsert ∅) (by simp [limit])
    · exact Nat.le_trans (hinsert c.entries) (by omega)

def serve (c : NameCache) : NameRequest → String × NameCache
  | .table name => c.quote name
  | .column name => c.quoteColumn name

theorem serve_of_isStar {r : NameRequest} (h : r.isStar = true) : c.serve r = ("*", c) := by
  cases r with
  | table name => cases h
  | column name => exact if_pos h

theorem serve_of_not_isStar {r : NameRequest} (h : r.isStar = false) : c.serve r = c.quote r.name := by
  cases r with
  | table name => rfl
  | column name => exact if_neg (Bool.eq_false_iff.1 h)

def serveAll (c : NameCache) : List NameRequest → List String × NameCache
  | [] => ([], c)
  | r :: rs =>
    let (text, c) := c.serve r
    let (texts, c) := c.serveAll rs
    (text :: texts, c)

end NameCache

inductive CallStage where
  | asked
  | missed
  | answered (text : String)
  deriving DecidableEq, Repr

structure NameCall where
  request : NameRequest
  stage : CallStage
  deriving DecidableEq, Repr

namespace NameCall

def turn (c : NameCache) (k : NameCall) : NameCall × NameCache :=
  match k.stage with
  | .asked =>
    if k.request.isStar then (⟨k.request, .answered "*"⟩, c)
    else
      match c.get? k.request.name with
      | some text => (⟨k.request, .answered text⟩, c)
      | none => (⟨k.request, .missed⟩, c)
  | .missed =>
    let text := quoteName k.request.name
    (⟨k.request, .answered text⟩, c.remember k.request.name text)
  | .answered _ => (k, c)

def turnsLeft (k : NameCall) : Nat :=
  match k.stage with
  | .asked => 2
  | .missed => 1
  | .answered _ => 0

structure IsSound (k : NameCall) : Prop where
  answer : ∀ text, k.stage = .answered text → text = k.request.quoted
  no_star : k.stage = .missed → k.request.isStar = false

variable {c : NameCache} {k : NameCall}

theorem isSound_asked (r : NameRequest) : IsSound ⟨r, .asked⟩ :=
  ⟨by rintro text ⟨⟩, by rintro ⟨⟩⟩

theorem isSound_missed {r : NameRequest} (h : r.isStar = false) : IsSound ⟨r, .missed⟩ :=
  ⟨by rintro text ⟨⟩, fun _ => h⟩

theorem isSound_answered {r : NameRequest} {text : String} (h : text = r.quoted) :
    IsSound ⟨r, .answered text⟩ :=
  ⟨by rintro _ ⟨⟩; exact h, by rintro ⟨⟩⟩

theorem turn_spec (hc : c.IsFaithful) (hk : k.IsSound) :
    (k.turn c).2.IsFaithful ∧ (k.turn c).1.IsSound := by
  obtain ⟨r, stage⟩ := k
  cases stage with
  | asked =>
    cases hstar : r.isStar with
    | true =>
      have hturn : turn c ⟨r, .asked⟩ = (⟨r, .answered "*"⟩, c) := by simp [turn, hstar]
      rw [hturn]
      exact ⟨hc, isSound_answered (NameRequest.quoted_of_isStar hstar).symm⟩
    | false =>
      cases hget : c.get? r.name with
      | some text =>
        have hturn : turn c ⟨r, .asked⟩ = (⟨r, .answered text⟩, c) := by simp [turn, hstar, hget]
        rw [hturn]
        refine ⟨hc, isSound_answered ?_⟩
        rw [NameRequest.quoted_of_not_isStar hstar]
        exact hc.eq_quoteName r.name text hget
      | none =>
        have hturn : turn c ⟨r, .asked⟩ = (⟨r, .missed⟩, c) := by simp [turn, hstar, hget]
        rw [hturn]
        exact ⟨hc, isSound_missed hstar⟩
  | missed =>
    exact ⟨hc.remember r.name,
      isSound_answered (NameRequest.quoted_of_not_isStar (hk.no_star rfl)).symm⟩
  | answered text => exact ⟨hc, hk⟩

theorem request_turn (c : NameCache) (k : NameCall) : (k.turn c).1.request = k.request := by
  unfold turn
  split
  · split
    · rfl
    · split <;> rfl
  · rfl
  · rfl

theorem turnsLeft_turn (h : k.turnsLeft ≠ 0) : (k.turn c).1.turnsLeft < k.turnsLeft := by
  obtain ⟨r, stage⟩ := k
  cases stage with
  | asked =>
    unfold turn
    dsimp only
    split
    · exact Nat.two_pos
    · split
      · exact Nat.two_pos
      · exact Nat.one_lt_two
  | missed => exact Nat.one_pos
  | answered text => exact absurd rfl h

theorem turn_of_turnsLeft_eq_zero (h : k.turnsLeft = 0) : k.turn c = (k, c) := by
  obtain ⟨r, stage⟩ := k
  cases stage with
  | asked => cases h
  | missed => cases h
  | answered text => rfl

theorem eq_answered (hk : k.IsSound) (h : k.turnsLeft = 0) : k = ⟨k.request, .answered k.request.quoted⟩ := by
  obtain ⟨r, stage⟩ := k
  cases stage with
  | asked => cases h
  | missed => cases h
  | answered text => rw [hk.answer text rfl]

theorem turn_turn (c : NameCache) (r : NameRequest) :
    (turn c ⟨r, .asked⟩).1.turn (turn c ⟨r, .asked⟩).2 =
      (⟨r, .answered (c.serve r).1⟩, (c.serve r).2) := by
  cases hstar : r.isStar with
  | true =>
    rw [NameCache.serve_of_isStar hstar]
    simp [turn, hstar]
  | false =>
    rw [NameCache.serve_of_not_isStar hstar, NameCache.quote]
    cases hget : c.get? r.name <;> simp [turn, hstar, hget]

end NameCall

structure SharedNames where
  memory : NameCache
  calls : List NameCall

namespace SharedNames

def start (requests : List NameRequest) : SharedNames :=
  ⟨.empty, requests.map fun r => ⟨r, .asked⟩⟩

inductive Step : SharedNames → SharedNames → Prop
  | turn {c : NameCache} (before : List NameCall) {k : NameCall} (after : List NameCall) :
    k.turnsLeft ≠ 0 →
      Step ⟨c, before ++ k :: after⟩ ⟨(k.turn c).2, before ++ (k.turn c).1 :: after⟩

inductive Run : Nat → SharedNames → SharedNames → Prop
  | nil (s : SharedNames) : Run 0 s s
  | snoc {n : Nat} {s t u : SharedNames} : Run n s t → Step t u → Run (n + 1) s u

def served (requests : List NameRequest) : SharedNames :=
  let (texts, memory) := NameCache.empty.serveAll requests
  ⟨memory, List.zipWith (fun r text => ⟨r, .answered text⟩) requests texts⟩

def turnsLeft (s : SharedNames) : Nat :=
  (s.calls.map NameCall.turnsLeft).sum

structure IsSound (requests : List NameRequest) (s : SharedNames) : Prop where
  memory : s.memory.IsFaithful
  calls : ∀ k ∈ s.calls, k.IsSound
  requests : s.calls.map NameCall.request = requests

variable {requests : List NameRequest} {n m : Nat} {s t u : SharedNames}

theorem isSound_start (requests : List NameRequest) : (start requests).IsSound requests where
  memory := NameCache.isFaithful_empty
  calls := List.forall_mem_map.2 fun r _ => NameCall.isSound_asked r
  requests := by simp [start, Function.comp_def]

theorem IsSound.step (h : s.IsSound requests) (hst : Step s t) : t.IsSound requests := by
  cases hst with
  | @turn c before k after _ =>
    obtain ⟨hbefore, hk, hafter⟩ : (∀ k ∈ before, k.IsSound) ∧ k.IsSound ∧ ∀ k ∈ after, k.IsSound := by
      simpa only [List.forall_mem_append, List.forall_mem_cons] using h.calls
    obtain ⟨hmemory, hturn⟩ := NameCall.turn_spec h.memory hk
    refine ⟨hmemory, List.forall_mem_append.2 ⟨hbefore, List.forall_mem_cons.2 ⟨hturn, hafter⟩⟩, ?_⟩
    rw [← h.requests]
    simp [NameCall.request_turn]

theorem turnsLeft_step (h : Step s t) : t.turnsLeft < s.turnsLeft := by
  cases h with
  | @turn c before k after hk =>
    have hturn := NameCall.turnsLeft_turn (c := c) hk
    simp only [turnsLeft, List.map_append, List.map_cons, List.sum_append, List.sum_cons]
    omega

theorem Run.isSound (h : Run n s t) (hs : s.IsSound requests) : t.IsSound requests := by
  induction h with
  | nil s => exact hs
  | snoc _ hstep ih => exact (ih hs).step hstep

theorem Run.add_turnsLeft_le (h : Run n s t) : n + t.turnsLeft ≤ s.turnsLeft := by
  induction h with
  | nil s => omega
  | snoc _ hstep ih =>
    have hless := turnsLeft_step hstep
    omega

theorem Run.trans (hst : Run n s t) (htu : Run m t u) : Run (n + m) s u := by
  induction htu with
  | nil t => exact hst
  | snoc _ hstep ih => exact .snoc (ih hst) hstep

theorem turnsLeft_start (requests : List NameRequest) :
    (start requests).turnsLeft = 2 * requests.length := by
  induction requests with
  | nil => rfl
  | cons r rs ih =>
    have hcons : (start (r :: rs)).turnsLeft = 2 + (start rs).turnsLeft := rfl
    rw [hcons, ih, List.length_cons]
    omega

theorem IsSound.calls_eq (h : s.IsSound requests) (hlast : ∀ t, ¬ Step s t) :
    s.calls = requests.map fun r => ⟨r, .answered r.quoted⟩ := by
  rw [← h.requests, List.map_map]
  refine (List.map_id' s.calls).symm.trans (List.map_congr_left fun k hk => ?_)
  refine NameCall.eq_answered (h.calls k hk) (Decidable.byContradiction fun hleft => ?_)
  obtain ⟨before, after, hsplit⟩ := List.append_of_mem hk
  have hstep := Step.turn (c := s.memory) before after hleft
  rw [← hsplit] at hstep
  exact hlast _ hstep

theorem exists_run_serve (c : NameCache) (r : NameRequest) (before after : List NameCall) :
    ∃ n, Run n ⟨c, before ++ ⟨r, .asked⟩ :: after⟩
      ⟨(c.serve r).2, before ++ ⟨r, .answered (c.serve r).1⟩ :: after⟩ := by
  have hasked : NameCall.turnsLeft ⟨r, .asked⟩ ≠ 0 := Nat.succ_ne_zero 1
  have hfirst := Run.snoc (.nil _) (.turn (c := c) before after hasked)
  have hboth := NameCall.turn_turn c r
  by_cases hleft : (NameCall.turn c ⟨r, .asked⟩).1.turnsLeft = 0
  · rw [NameCall.turn_of_turnsLeft_eq_zero hleft] at hboth
    obtain ⟨hcall, hmemory⟩ := Prod.mk.inj hboth
    rw [hcall, hmemory] at hfirst
    exact ⟨1, hfirst⟩
  · have hsecond := hfirst.snoc (.turn before after hleft)
    rw [hboth] at hsecond
    exact ⟨2, hsecond⟩

theorem exists_run_serveAll (c : NameCache) (before : List NameCall) (rs : List NameRequest) :
    ∃ n, Run n ⟨c, before ++ rs.map fun r => ⟨r, .asked⟩⟩
      ⟨(c.serveAll rs).2,
        before ++ List.zipWith (fun r text => ⟨r, .answered text⟩) rs (c.serveAll rs).1⟩ := by
  induction rs generalizing c before with
  | nil => exact ⟨0, .nil _⟩
  | cons r rs ih =>
    obtain ⟨n, hfirst⟩ := exists_run_serve c r before (rs.map fun r => ⟨r, .asked⟩)
    obtain ⟨m, hrest⟩ := ih (c.serve r).2 (before ++ [⟨r, .answered (c.serve r).1⟩])
    simp only [List.append_assoc, List.singleton_append] at hrest
    exact ⟨n + m, hfirst.trans hrest⟩

theorem answers_of_run (requests : List NameRequest) :
    (∃ n, Run n (start requests) (served requests)) ∧
      ∀ n s, Run n (start requests) s →
        s.memory.IsFaithful ∧
        (∀ k ∈ s.calls, ∀ text, k.stage = .answered text → text = k.request.quoted) ∧
        n ≤ 2 * requests.length ∧
        ((∀ t, ¬ Step s t) → s.calls = requests.map fun r => ⟨r, .answered r.quoted⟩) := by
  refine ⟨exists_run_serveAll .empty [] requests, fun n s hrun => ?_⟩
  have hsound := hrun.isSound (isSound_start requests)
  have hlength := hrun.add_turnsLeft_le
  rw [turnsLeft_start] at hlength
  exact ⟨hsound.memory, fun k hk => (hsound.calls k hk).answer, by omega, hsound.calls_eq⟩

theorem answers_of_run_bothMissing :
    let missed (r : NameRequest) : NameCall := ⟨r, .missed⟩
    let requests : List NameRequest := [.table "a.b", .column "a.b"]
    ∃ s, Run 2 (start requests) ⟨.empty, requests.map missed⟩ ∧
      Run 4 (start requests) s ∧ s.memory.IsFaithful ∧
        s.calls = [⟨.table "a.b", .answered "[a].[b]"⟩, ⟨.column "a.b", .answered "[a].[b]"⟩] := by
  intro missed requests
  have hmiss (r : NameRequest) (hr : r.isStar = false) :
      NameCall.turn .empty ⟨r, .asked⟩ = (missed r, .empty) := by
    simp [NameCall.turn, hr, NameCache.empty, NameCache.get?, missed]
  have hasked (r : NameRequest) : NameCall.turnsLeft ⟨r, .asked⟩ ≠ 0 := Nat.succ_ne_zero 1
  have hmissed (r : NameRequest) : (missed r).turnsLeft ≠ 0 := Nat.succ_ne_zero 0
  have hlook := Run.snoc (.nil _) (.turn (c := .empty) [] [⟨.column "a.b", .asked⟩] (hasked (.table "a.b")))
  rw [hmiss _ rfl] at hlook
  have hboth := hlook.snoc (.turn [missed (.table "a.b")] [] (hasked (.column "a.b")))
  rw [hmiss _ rfl] at hboth
  have hrun := (hboth.snoc (.turn [] [missed (.column "a.b")] (hmissed (.table "a.b")))).snoc
    (.turn [_] [] (hmissed (.column "a.b")))
  obtain ⟨hmemory, -⟩ := (answers_of_run requests).2 4 _ hrun
  have hquote : quoteName "a.b" = "[a].[b]" := by decide +kernel
  refine ⟨_, hboth, hrun, hmemory, ?_⟩
  rw [← hquote]
  rfl

end SharedNames

end PolySql.SqlServer

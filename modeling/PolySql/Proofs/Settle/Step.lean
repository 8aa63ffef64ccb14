import PolySql.Compiler.Settle.Select
import PolySql.Proofs.Tree.Equality

namespace PolySql.Select

variable (caps : Capabilities) (catalog : Catalog) (nested : Bool) (s : Select)

theorem dropIdleOrder_eq :
    s.dropIdleOrder caps nested =
      { s with orders := if nested && !caps.orderedSubqueries && !s.isPaged then [] else s.orders } := by
  cases s
  unfold dropIdleOrder
  split <;> rfl

theorem probeWithTop_eq :
    s.probeWithTop caps =
      { s with
        projections :=
          if caps.topExistsCheck && s.isProbe then
            [⟨.raw topOne [.int ((s.limit.bind Expr.intValue?).getD 1)], some probeAlias⟩]
          else s.projections
        limit := if caps.topExistsCheck && s.isProbe then none else s.limit } := by
  cases s
  unfold probeWithTop
  split <;> rfl

theorem orderPaging_eq :
    s.orderPaging caps catalog =
      { s with
        orders :=
          if s.isPaged && s.orders.isEmpty && caps.deterministicPaging then
            (keyOrder? catalog s.source).toList
          else s.orders } := by
  cases s
  unfold orderPaging
  split <;> rfl

theorem completeOffset_eq :
    s.completeOffset caps =
      { s with
        offset :=
          if caps.paging = .offsetFetch && s.limit.isSome && s.offset.isNone then some zero
          else s.offset } := by
  cases s
  unfold completeOffset
  split <;> rfl

theorem projectDistinctOrders_eq :
    s.projectDistinctOrders caps =
      { s with
        projections :=
          if caps.distinctOrderProjections && s.distinct && !s.hasTopOne && !s.selectsAll then
            numbered s.stemCount s.missingOrders ++ s.projections
          else s.projections } := by
  unfold projectDistinctOrders projectOrders
  generalize (caps.distinctOrderProjections && s.distinct && !s.hasTopOne) = b
  generalize s.selectsAll = a
  generalize numbered s.stemCount s.missingOrders = ps
  cases s
  cases a <;> cases b <;> rfl

theorem settleStep_keeps :
    settleStep caps catalog nested s =
      { s with
        projections := (settleStep caps catalog nested s).projections
        orders := (settleStep caps catalog nested s).orders
        limit := (settleStep caps catalog nested s).limit
        offset := (settleStep caps catalog nested s).offset } := by
  simp only [settleStep, projectDistinctOrders_eq, completeOffset_eq, orderPaging_eq, probeWithTop_eq,
    dropIdleOrder_eq]

def remember (seen : List Expr) (e : Expr) : List Expr :=
  if seen.any (· == e) then seen else seen ++ [e]

theorem mem_of_mem_remember {seen : List Expr} {e x : Expr} (h : x ∈ remember seen e) :
    x ∈ seen ∨ x = e := by
  unfold remember at h
  split at h
  · exact .inl h
  · simpa using h

theorem any_remember {seen : List Expr} {e x : Expr} (h : seen.any (· == e) = true) :
    (remember seen x).any (· == e) = true := by
  unfold remember
  split
  · exact h
  · rw [List.any_append, h, Bool.true_or]

theorem any_remember_self {seen : List Expr} {e : Expr} (he : (e == e) = true) :
    (remember seen e).any (· == e) = true := by
  unfold remember
  split
  · assumption
  · simp [he]

theorem mem_of_mem_unique {es : List Expr} {e : Expr} (h : e ∈ unique es) : e ∈ es := by
  suffices H : ∀ seen, e ∈ es.foldl remember seen → e ∈ seen ∨ e ∈ es by
    simpa using H [] h
  clear h
  induction es with
  | nil => intro seen h; exact .inl h
  | cons x es ih =>
    intro seen h
    rcases ih _ h with h | h
    · rcases mem_of_mem_remember h with h | rfl
      · exact .inl h
      · exact .inr (List.mem_cons_self ..)
    · exact .inr (List.mem_cons_of_mem _ h)

theorem any_unique {es : List Expr} {e : Expr} (h : e ∈ es) (he : (e == e) = true) :
    (unique es).any (· == e) = true := by
  suffices H : ∀ seen, seen.any (· == e) = true ∨ e ∈ es →
      (es.foldl remember seen).any (· == e) = true from H [] (.inr h)
  clear h
  induction es with
  | nil => intro seen h; simpa using h
  | cons x es ih =>
    intro seen h
    refine ih _ ?_
    rcases h with h | h
    · exact .inl (any_remember h)
    · rcases List.mem_cons.1 h with rfl | h
      · exact .inl (any_remember_self he)
      · exact .inr h

theorem numbered_exprs (es : List Expr) (start : Nat) :
    (numbered start es).map (·.expr) = es := by
  induction es generalizing start with
  | nil => rfl
  | cons e es ih => simp [numbered, ih]

def selects (e : Expr) : Bool :=
  s.projections.any fun p => p.expr == e

theorem missingOrders_eq_nil (h : ∀ o ∈ s.orders, s.selects (orderedBy o.expr) = true) :
    s.missingOrders = [] := by
  have hf : (s.orders.map fun o => orderedBy o.expr).filter (fun e => !s.selects e) = [] := by
    simp only [List.filter_eq_nil_iff, List.forall_mem_map]
    intro o ho
    simp [h o ho]
  show unique ((s.orders.map fun o => orderedBy o.expr).filter fun e => !s.selects e) = []
  rw [hf]
  rfl

theorem mem_of_mem_missingOrders {e : Expr} (h : e ∈ s.missingOrders) :
    ∃ o ∈ s.orders, orderedBy o.expr = e := by
  have hm := (List.mem_filter.1 (mem_of_mem_unique h)).1
  simpa using hm

theorem selects_projectOrders {o : Order} (ho : o ∈ s.orders)
    (hself : (orderedBy o.expr == orderedBy o.expr) = true) :
    { s with projections := numbered s.stemCount s.missingOrders ++ s.projections }.selects
      (orderedBy o.expr) = true := by
  by_cases h : s.selects (orderedBy o.expr) = true
  · unfold selects at h ⊢
    rw [List.any_append, h, Bool.or_true]
  · have hm : orderedBy o.expr ∈ (s.orders.map fun o => orderedBy o.expr).filter fun e =>
        !s.selects e := by
      rw [List.mem_filter]
      exact ⟨List.mem_map_of_mem ho, by simpa using h⟩
    have hu : (s.missingOrders.any (· == orderedBy o.expr)) = true := any_unique hm hself
    rw [← numbered_exprs s.missingOrders s.stemCount, List.any_map] at hu
    unfold selects
    rw [List.any_append, Bool.or_eq_true]
    exact .inl hu

structure IsSettled : Prop where
  no_probe : caps.topExistsCheck = true → s.isProbe = false
  offset_of_limit : caps.paging = .offsetFetch → s.limit.isSome → s.offset.isSome
  order_of_paging : caps.deterministicPaging = true → s.isPaged = true → s.orders = [] →
    keyOrder? catalog s.source = none
  orders_selected : caps.distinctOrderProjections = true → s.distinct = true →
    s.hasTopOne = false → s.selectsAll = false →
    ∀ o ∈ s.orders, s.selects (orderedBy o.expr) = true

variable {caps catalog s}

theorem mem_orders_dropIdleOrder {o : Order} (h : o ∈ (s.dropIdleOrder caps nested).orders) :
    o ∈ s.orders := by
  rw [dropIdleOrder_eq] at h
  dsimp only at h
  split at h
  · cases h
  · exact h

theorem dropIdleOrder_of_isPaged (h : s.isPaged = true) : s.dropIdleOrder caps nested = s := by
  unfold dropIdleOrder
  simp [h]

@[simp] theorem dropIdleOrder_false : s.dropIdleOrder caps false = s := by
  simp [dropIdleOrder]

namespace IsSettled

theorem dropIdleOrder (h : s.IsSettled caps catalog) :
    (s.dropIdleOrder caps nested).IsSettled caps catalog := by
  by_cases hp : s.isPaged = true
  · rwa [dropIdleOrder_of_isPaged nested hp]
  · have hsel := h.orders_selected
    have hmem (o : Order) : o ∈ (s.dropIdleOrder caps nested).orders → o ∈ s.orders :=
      mem_orders_dropIdleOrder nested
    rw [dropIdleOrder_eq] at hmem ⊢
    exact ⟨h.no_probe, h.offset_of_limit, fun _ hp' => absurd hp' hp,
      fun hc hd ht ha o ho => hsel hc hd ht ha o (hmem o ho)⟩

theorem probeWithTop (h : s.IsSettled caps catalog) : s.probeWithTop caps = s := by
  unfold Select.probeWithTop
  by_cases hc : caps.topExistsCheck = true
  · simp [h.no_probe hc]
  · simp [hc]

theorem orderPaging (h : s.IsSettled caps catalog) : s.orderPaging caps catalog = s := by
  unfold Select.orderPaging
  split
  · rename_i hc
    simp only [Bool.and_eq_true, List.isEmpty_iff] at hc
    obtain ⟨⟨hp, ho⟩, hd⟩ := hc
    rw [h.order_of_paging hd hp ho, Option.toList_none, ← ho]
    cases s
    rfl
  · rfl

theorem completeOffset (h : s.IsSettled caps catalog) : s.completeOffset caps = s := by
  unfold Select.completeOffset
  split
  · rename_i hc
    simp only [Bool.and_eq_true, decide_eq_true_eq, Option.isNone_iff_eq_none] at hc
    obtain ⟨⟨hp, hl⟩, ho⟩ := hc
    have hs := h.offset_of_limit hp hl
    simp [ho] at hs
  · rfl

theorem projectDistinctOrders (h : s.IsSettled caps catalog) :
    s.projectDistinctOrders caps = s := by
  unfold Select.projectDistinctOrders projectOrders
  split
  · rename_i hc
    simp only [Bool.and_eq_true, Bool.not_eq_true'] at hc
    obtain ⟨⟨hc, hd⟩, ht⟩ := hc
    split
    · rfl
    · rename_i ha
      rw [missingOrders_eq_nil s (h.orders_selected hc hd ht (by simpa using ha))]
      cases s
      rfl
  · rfl

theorem settleStep (h : s.IsSettled caps catalog) :
    settleStep caps catalog nested s = s.dropIdleOrder caps nested := by
  have hd := h.dropIdleOrder nested
  unfold Select.settleStep
  rw [hd.probeWithTop, hd.orderPaging, hd.completeOffset, hd.projectDistinctOrders]

end IsSettled

section Reached

theorem isProbe_iff :
    s.isProbe = true ↔
      s.distinct = true ∧ s.projections ≠ [] ∧ (∀ p ∈ s.projections, isProbeProjection p = true) ∧
        isProbeLimit s.limit = true ∧ s.offset = none := by
  simp only [isProbe, Bool.and_eq_true, Bool.not_eq_true', List.isEmpty_eq_false_iff,
    List.all_eq_true, Option.isNone_iff_eq_none, and_assoc]

theorem isProbe_probeWithTop (hc : caps.topExistsCheck = true) :
    (s.probeWithTop caps).isProbe = false := by
  unfold probeWithTop
  split
  · rw [← Bool.not_eq_true, isProbe_iff]
    rintro ⟨_, _, hp, _⟩
    exact absurd (hp _ (List.mem_singleton_self _)) Bool.false_ne_true
  · rename_i h
    simpa [hc] using h

theorem isProbe_orderPaging : (s.orderPaging caps catalog).isProbe = s.isProbe := by
  rw [orderPaging_eq]
  rfl

theorem isProbe_of_completeOffset (h : (s.completeOffset caps).isProbe = true) :
    s.isProbe = true := by
  unfold completeOffset at h
  split at h
  · simp [isProbe] at h
  · exact h

theorem sameIgnoringCase_probeAlias (n : Nat) :
    Text.sameIgnoringCase probeAlias (aliasStem ++ Number.natText n) = false := by
  have h : (Text.lower (aliasStem ++ Number.natText n)).toList.head? = some 'a' := by
    simp [Text.lower, aliasStem, String.toList_append]
  rw [Text.sameIgnoringCase, ← Bool.not_eq_true, beq_iff_eq]
  intro he
  rw [← he] at h
  exact absurd h (by decide)

theorem label_of_mem_numbered {es : List Expr} {start : Nat} {p : Projection}
    (h : p ∈ numbered start es) : ∃ n, p.label = some (aliasStem ++ Number.natText n) := by
  induction es generalizing start with
  | nil => cases h
  | cons e es ih =>
    rcases List.mem_cons.1 h with rfl | h
    · exact ⟨start, rfl⟩
    · exact ih h

theorem isProbeProjection_of_mem_numbered {es : List Expr} {start : Nat} {p : Projection}
    (h : p ∈ numbered start es) : isProbeProjection p = false := by
  obtain ⟨n, hlabel⟩ := label_of_mem_numbered h
  simp [isProbeProjection, hlabel, sameIgnoringCase_probeAlias]

theorem isProbe_of_projectDistinctOrders (h : (s.projectDistinctOrders caps).isProbe = true) :
    s.isProbe = true := by
  rw [projectDistinctOrders_eq, isProbe_iff] at h
  obtain ⟨hd, hn, hp, hl, ho⟩ := h
  dsimp only at hd hn hp hl ho
  split at hp
  · rename_i hc
    rw [if_pos hc] at hn
    cases hm : s.missingOrders with
    | nil =>
      rw [hm] at hp hn
      exact isProbe_iff.2 ⟨hd, hn, hp, hl, ho⟩
    | cons e es =>
      rw [hm] at hp
      have hmem : ⟨e, some (aliasStem ++ Number.natText s.stemCount)⟩ ∈
          numbered s.stemCount (e :: es) := List.mem_cons_self ..
      have ht := hp _ (List.mem_append_left _ hmem)
      rw [isProbeProjection_of_mem_numbered hmem] at ht
      cases ht
  · rename_i hc
    rw [if_neg hc] at hn
    exact isProbe_iff.2 ⟨hd, hn, hp, hl, ho⟩

theorem mem_orders_orderPaging {o : Order} (h : o ∈ (s.orderPaging caps catalog).orders) :
    o ∈ s.orders ∨ keyOrder? catalog s.source = some o := by
  rw [orderPaging_eq] at h
  dsimp only at h
  split at h
  · exact .inr (Option.mem_toList.1 h)
  · exact .inl h

theorem exists_of_keyOrder? {t : Option TableRef} {o : Order} (h : keyOrder? catalog t = some o) :
    ∃ source ∈ t, ∃ name qualifier, source.catalogName? = some (name, qualifier) ∧
      ∃ column ∈ catalog.orderingColumn? name, o.expr = .column (some qualifier) column := by
  simp only [keyOrder?, Option.bind_eq_bind, Option.bind_eq_some_iff, Option.pure_def,
    Option.some.injEq] at h
  obtain ⟨source, hsource, ⟨name, qualifier⟩, hname, column, hcolumn, rfl⟩ := h
  exact ⟨source, hsource, name, qualifier, hname, column, hcolumn, rfl⟩

theorem orderedBy_keyOrder {t : Option TableRef} {o : Order} (h : keyOrder? catalog t = some o) :
    ∃ qualifier column, o.expr = .column (some qualifier) column := by
  obtain ⟨-, -, -, qualifier, -, column, -, he⟩ := exists_of_keyOrder? h
  exact ⟨qualifier, column, he⟩

theorem of_catalogName?_table {P : String → Prop} {schema label : Option String}
    {n name qualifier : String}
    (h : (TableRef.table schema n label).catalogName? = some (name, qualifier))
    (hqualified : ∀ {s n}, P s → P n → P (s ++ "." ++ n)) (hs : ∀ a ∈ schema, P a) (hn : P n)
    (hl : ∀ a ∈ label, P a) : P name ∧ P qualifier := by
  obtain ⟨rfl, rfl⟩ := Prod.mk.inj (Option.some.inj h)
  refine ⟨hn, ?_⟩
  cases label with
  | some a => exact hl a rfl
  | none =>
    cases schema with
    | some a => exact hqualified (hs a rfl) hn
    | none => exact hn

theorem orders_selected_of_projectDistinctOrders
    (h : ∀ o ∈ s.orders, (orderedBy o.expr == orderedBy o.expr) = true)
    (hc : caps.distinctOrderProjections = true)
    (hd : (s.projectDistinctOrders caps).distinct = true)
    (ht : (s.projectDistinctOrders caps).hasTopOne = false)
    (ha : (s.projectDistinctOrders caps).selectsAll = false) :
    ∀ o ∈ s.orders, (s.projectDistinctOrders caps).selects (orderedBy o.expr) = true := by
  intro o ho
  have hsel := selects_projectOrders s ho (h o ho)
  rw [projectDistinctOrders_eq] at hd ht ha ⊢
  by_cases hp : (caps.distinctOrderProjections && s.distinct && !s.hasTopOne && !s.selectsAll) = true
  · simpa only [if_pos hp] using hsel
  · simp only [if_neg hp] at hd ht ha
    refine absurd ?_ hp
    have ht' : s.hasTopOne = false := ht
    have ha' : s.selectsAll = false := ha
    rw [hc, hd, ht', ha']
    rfl

theorem offset_of_limit_completeOffset (hc : caps.paging = .offsetFetch)
    (hl : (s.completeOffset caps).limit.isSome) : (s.completeOffset caps).offset.isSome := by
  rw [completeOffset_eq] at hl ⊢
  dsimp only at hl ⊢
  split
  · rfl
  · rename_i h
    simpa [hc, hl, Option.isSome_iff_ne_none] using h

theorem isPaged_of_completeOffset (h : (s.completeOffset caps).isPaged = true) :
    s.isPaged = true := by
  unfold completeOffset at h
  split at h
  · rename_i hc
    simp only [Bool.and_eq_true] at hc
    simp [isPaged, hc.1.2]
  · exact h

theorem order_of_paging_orderPaging (hc : caps.deterministicPaging = true)
    (hp : (s.orderPaging caps catalog).isPaged = true)
    (ho : (s.orderPaging caps catalog).orders = []) : keyOrder? catalog s.source = none := by
  rw [orderPaging_eq] at hp ho
  dsimp only at ho
  have hp' : s.isPaged = true := hp
  split at ho
  · simpa using ho
  · rename_i h
    simp [hc, hp', ho] at h

theorem isSettled_settleStep (h : ∀ o ∈ s.orders, (orderedBy o.expr == orderedBy o.expr) = true) :
    (Select.settleStep caps catalog nested s).IsSettled caps catalog := by
  unfold Select.settleStep
  generalize hp : Select.probeWithTop caps (Select.dropIdleOrder caps nested s) = p
  have hporders : ∀ o ∈ p.orders, o ∈ s.orders := by
    intro o ho
    rw [← hp, probeWithTop_eq] at ho
    exact mem_orders_dropIdleOrder nested ho
  generalize hq : Select.orderPaging caps catalog p = q
  have hself : ∀ o ∈ q.orders, (orderedBy o.expr == orderedBy o.expr) = true := by
    intro o ho
    rw [← hq] at ho
    rcases mem_orders_orderPaging ho with ho | ho
    · exact h o (hporders o ho)
    · obtain ⟨qualifier, column, he⟩ := orderedBy_keyOrder ho
      rw [he]
      show Expr.same _ _ = true
      simp [orderedBy, Expr.same]
  have hrorders : (Select.completeOffset caps q).orders = q.orders := by
    rw [completeOffset_eq]
  constructor
  · intro hc
    rw [← Bool.not_eq_true]
    intro hprobe
    have hprobe := isProbe_of_completeOffset (isProbe_of_projectDistinctOrders hprobe)
    rw [← hq, isProbe_orderPaging, ← hp, isProbe_probeWithTop hc] at hprobe
    cases hprobe
  · intro hc hl
    rw [projectDistinctOrders_eq] at hl ⊢
    exact offset_of_limit_completeOffset hc hl
  · intro hc hpaged ho
    rw [projectDistinctOrders_eq] at hpaged ho ⊢
    have hpaged : q.isPaged = true := isPaged_of_completeOffset hpaged
    have ho : q.orders = [] := hrorders.symm.trans ho
    have hs : (Select.completeOffset caps q).source = p.source := by
      rw [completeOffset_eq, ← hq, orderPaging_eq]
    rw [← hq] at hpaged ho
    exact hs ▸ order_of_paging_orderPaging hc hpaged ho
  · intro hc hd ht ha o ho
    rw [projectDistinctOrders_eq] at ho
    refine orders_selected_of_projectDistinctOrders ?_ hc hd ht ha o ho
    rwa [hrorders]

end Reached

end PolySql.Select

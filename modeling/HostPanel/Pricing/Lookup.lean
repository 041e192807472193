import HostPanel.Pricing.Timeline

namespace HostPanel.Model

open HostPanel.Lib HostPanel.Lib.Program

/-- The row a call returns, if it returns one. -/
def PriceCall.created (s : Store) (call : PriceCall) : List ProductPrice :=
  match (call.program.run s).2 with
  | .ok row => [row]
  | .error _ => []

/-- The rows the calls of a run returned. -/
def priceHistory (s : Store) : List PriceCall → List ProductPrice
  | [] => []
  | call :: calls => call.created s ++ priceHistory (call.after s) calls

/-- A stored row as the call that made it returned it. -/
def ProductPrice.asCreated (r : ProductPrice) : ProductPrice := { r with effectiveTo := none }

/-- The last version of a key that starts no later than an instant. -/
def latestVersion (history : List ProductPrice) (key : PriceKey) (t : DateTime) : Option ProductPrice :=
  (history.filter (fun r => decide (r.priceKey = key ∧ r.effectiveFrom ≤ t))).getLast?

/-- The price of the group, or else the price for everyone. -/
def referencePrice (history : List ProductPrice) (tenantId productId : Id) (currency : String) (cycle : BillingCycle)
    (clientGroupId : Option Id) (t : DateTime) : Option ProductPrice :=
  ((groupOf clientGroupId).bind (fun g =>
    latestVersion history ⟨tenantId, productId, currency, cycle, some g⟩ t)).or
    (latestVersion history ⟨tenantId, productId, currency, cycle, none⟩ t)

theorem asCreated_closing (previous : Option ProductPrice) (stop : DateTime) (r : ProductPrice) :
    (closing previous stop r).asCreated = r.asCreated := by
  unfold closing
  split <;> rfl

theorem effectiveFrom_closing (previous : Option ProductPrice) (stop : DateTime) (r : ProductPrice) :
    (closing previous stop r).effectiveFrom = r.effectiveFrom := by
  unfold closing
  split <;> rfl

theorem PriceCall.asCreated_after (s : Store) (call : PriceCall) :
    (call.after s).productPrices.rows.map ProductPrice.asCreated =
      s.productPrices.rows.map ProductPrice.asCreated ++ call.created s := by
  obtain ⟨_, hsame, e, he⟩ | ⟨row, _, hrun, _, _, hopen, hnew, hafter⟩ := call.after_cases s
  · rw [hsame, PriceCall.created, he, List.append_nil]
  · have hrow : row.asCreated = row := by
      rw [ProductPrice.asCreated, ← hopen]
    rw [hafter, Table.insert_rows ((find_closePrice _ _ _ _).mpr hnew), rows_closePrice, List.map_append, List.map_map,
      PriceCall.created, hrun, List.map_singleton, hrow]
    congr 1
    exact List.map_congr_left (fun r _ => asCreated_closing _ _ r)

theorem asCreated_runPrices (s : Store) (calls : List PriceCall) :
    (runPrices s calls).productPrices.rows.map ProductPrice.asCreated =
      s.productPrices.rows.map ProductPrice.asCreated ++ priceHistory s calls := by
  induction calls generalizing s with
  | nil => exact (List.append_nil _).symm
  | cons call calls ih =>
    have hrest := ih (call.after s)
    rw [PriceCall.asCreated_after, List.append_assoc] at hrest
    exact hrest

/-- No row starts after a call of its key that is still to come. -/
def Store.NoneAhead (s : Store) (calls : List PriceCall) : Prop :=
  ∀ r ∈ s.productPrices, ∀ call ∈ calls, r.priceKey = call.key → r.effectiveFrom ≤ call.start

theorem PriceCall.noneAhead_after {s : Store} {call : PriceCall} {calls : List PriceCall}
    (h : s.NoneAhead (call :: calls)) (hfirst : ∀ c ∈ calls, call.key = c.key → call.start ≤ c.start) :
    (call.after s).NoneAhead calls := by
  intro r hr c hc hkey
  obtain ⟨_, hsame, _⟩ | ⟨row, _, _, hrow, hstart, _, hnew, hafter⟩ := call.after_cases s
  · rw [hsame] at hr
    exact h r hr c (List.mem_cons_of_mem call hc) hkey
  · rw [hafter, Table.mem_insert ((find_closePrice _ _ _ _).mpr hnew), Table.mem_def, rows_closePrice] at hr
    obtain hold | rfl := hr
    · obtain ⟨q, hq, rfl⟩ := List.mem_map.mp hold
      rw [effectiveFrom_closing]
      rw [priceKey_closing] at hkey
      exact h q hq c (List.mem_cons_of_mem call hc) hkey
    · rw [hstart]
      exact hfirst c hc (hrow.symm.trans hkey)

theorem inOrder_of_pairwise {s : Store} {calls : List PriceCall}
    (hmono : calls.Pairwise (fun a b => a.key = b.key → a.start ≤ b.start)) (h : s.NoneAhead calls) :
    AlongRun PriceCall.after PriceCall.InOrder s calls := by
  induction calls generalizing s with
  | nil => trivial
  | cons call calls ih =>
    obtain ⟨hfirst, hrest⟩ := List.pairwise_cons.mp hmono
    refine ⟨fun _ r hr hkey _ => h r hr call List.mem_cons_self hkey, ?_⟩
    exact ih hrest (PriceCall.noneAhead_after h hfirst)

theorem tiled_runPrices {s : Store} {calls : List PriceCall} (h : s.PricesTiled)
    (hin : AlongRun PriceCall.after PriceCall.InOrder s calls) : (runPrices s calls).PricesTiled :=
  runFrom_inv (I := Store.PricesTiled) (fun _ _ ht hc => PriceCall.tiled_after hc ht) h hin

theorem latest_toList (env : Env) (r : Option ProductPrice) : env.latest r.toList = r := by
  cases r with
  | none => rfl
  | some r => exact env.latest_singleton r

theorem offered_iff {now : DateTime} {tenantId productId : Id} {currency : String} {cycle : BillingCycle}
    {group : Option Id} {r : ProductPrice} :
    (r.offered now tenantId productId currency cycle && r.clientGroupId == group) = true ↔
      ProductPrice.validity.InEffect now r ∧ r.priceKey = ⟨tenantId, productId, currency, cycle, group⟩ := by
  have hstop : r.effectiveTo.all (fun t => decide (now < t)) = true ↔ ∀ e, r.effectiveTo = some e → now < e := by
    cases r.effectiveTo with
    | none => simp
    | some e => simp
  simp only [ProductPrice.offered, Bool.and_eq_true, beq_iff_eq, decide_eq_true_eq, hstop, ProductPrice.priceKey,
    PriceKey.mk.injEq]
  constructor
  · rintro ⟨⟨⟨⟨⟨⟨ht, hp⟩, hc⟩, hb⟩, hstart⟩, hend⟩, hg⟩
    exact ⟨⟨hstart, hend⟩, ht, hp, hc, hb, hg⟩
  · rintro ⟨⟨hstart, hend⟩, ht, hp, hc, hb, hg⟩
    exact ⟨⟨⟨⟨⟨⟨ht, hp⟩, hc⟩, hb⟩, hstart⟩, hend⟩, hg⟩

theorem latestVersion_map_asCreated (rows : List ProductPrice) (key : PriceKey) (t : DateTime) :
    latestVersion (rows.map ProductPrice.asCreated) key t =
      (ProductPrice.validity.started t (rows.filter (fun r => decide (r.priceKey = key)))).getLast?.map
        ProductPrice.asCreated := by
  have hfilter : ProductPrice.validity.started t (rows.filter (fun r => decide (r.priceKey = key))) =
      rows.filter (fun r => decide (r.priceKey = key ∧ r.effectiveFrom ≤ t)) := by
    rw [Validity.started, List.filter_filter]
    apply List.filter_congr
    intro r _
    rw [← Bool.decide_and]
    exact decide_eq_decide.mpr And.comm
  rw [latestVersion, List.filter_map, List.getLast?_map, hfilter]
  rfl

/-- In tiled prices the row in effect is the last version that has started. -/
theorem Store.PricesTiled.latest_eq {s : Store} (h : s.PricesTiled) (env : Env) (tenantId productId : Id)
    (currency : String) (cycle : BillingCycle) (group : Option Id) :
    (env.latest (s.productPrices.rows.filter (fun r =>
      ProductPrice.offered env.now tenantId productId currency cycle r && r.clientGroupId == group))).map
        ProductPrice.asCreated =
      latestVersion (s.productPrices.rows.map ProductPrice.asCreated)
        ⟨tenantId, productId, currency, cycle, group⟩ env.now := by
  have hfilter : s.productPrices.rows.filter (fun r =>
      ProductPrice.offered env.now tenantId productId currency cycle r && r.clientGroupId == group) =
      ProductPrice.validity.inEffect env.now (s.pricesOf ⟨tenantId, productId, currency, cycle, group⟩) := by
    rw [Store.pricesOf, Validity.inEffect, List.filter_filter]
    apply List.filter_congr
    intro r _
    rw [Bool.eq_iff_iff, offered_iff, Bool.and_eq_true, decide_eq_true_eq, decide_eq_true_eq]
  rw [hfilter, (h _).inEffect_eq, latest_toList, latestVersion_map_asCreated]
  rfl

/-- The row a lookup finds is, as it was created, the one of the reference. -/
theorem Store.PricesTiled.currentPrice_eq {s : Store} (h : s.PricesTiled) (env : Env) (tenantId productId : Id)
    (currency : String) (cycle : BillingCycle) (clientGroupId : Option Id) :
    (s.currentPrice env tenantId productId currency cycle clientGroupId).map ProductPrice.asCreated =
      referencePrice (s.productPrices.rows.map ProductPrice.asCreated) tenantId productId currency cycle clientGroupId
        env.now := by
  simp only [Store.currentPrice, referencePrice, ← h.latest_eq env tenantId productId currency cycle]
  cases groupOf clientGroupId with
  | none => rfl
  | some g =>
    simp only [Option.bind_some]
    cases env.latest (s.productPrices.rows.filter (fun r =>
      ProductPrice.offered env.now tenantId productId currency cycle r && r.clientGroupId == some g)) <;> rfl

theorem run_getCurrentPrice (env : Env) (s : Store) (tenantId productId : Id) (currency : String)
    (cycle : BillingCycle) (clientGroupId : Option Id) :
    (getCurrentPrice env tenantId productId currency cycle.name clientGroupId).run s =
      (s, .ok (s.currentPrice env tenantId productId currency cycle clientGroupId)) := by
  have heval : (getCurrentPrice env tenantId productId currency cycle.name clientGroupId).eval s s =
      .ok (s.currentPrice env tenantId productId currency cycle clientGroupId, s, s) := by
    simp only [getCurrentPrice, findGroupPrice, findCommonPrice, Store.currentPrice, billingCycleEnum,
      BillingCycle.ofName?_name, lift, ret_bind]
    cases groupOf clientGroupId with
    | none => rfl
    | some g =>
      simp only [findLatestPrice, query_bind, eval_query, ret_bind, Option.bind_some]
      cases env.latest (s.productPrices.rows.filter (fun r =>
        ProductPrice.offered env.now tenantId productId currency cycle r && r.clientGroupId == some g)) <;> rfl
  exact run_ok_iff.mpr ⟨s, heval⟩

/-- After calls that set prices in the order of their starts, a lookup returns
the last version of the group's key that has started, or else that of the key
without a group, or else none. -/
theorem price_lookup (s : Store) (h : s.productPrices = ∅) (calls : List PriceCall)
    (hmono : calls.Pairwise (fun a b => a.key = b.key → a.start ≤ b.start)) (env : Env) (tenantId productId : Id)
    (currency : String) (cycle : BillingCycle) (clientGroupId : Option Id) :
    ∃ found, (getCurrentPrice env tenantId productId currency cycle.name clientGroupId).run (runPrices s calls) =
        (runPrices s calls, .ok found) ∧
      found.map ProductPrice.asCreated =
        referencePrice (priceHistory s calls) tenantId productId currency cycle clientGroupId env.now := by
  have hahead : s.NoneAhead calls := by
    intro r hr
    rw [h] at hr
    exact absurd hr (Table.not_mem_empty r)
  have htiled := tiled_runPrices (pricesTiled_of_empty h) (inOrder_of_pairwise hmono hahead)
  have hrows : (runPrices s calls).productPrices.rows.map ProductPrice.asCreated = priceHistory s calls := by
    rw [asCreated_runPrices, h]
    exact List.nil_append _
  refine ⟨_, run_getCurrentPrice env _ tenantId productId currency cycle clientGroupId, ?_⟩
  rw [htiled.currentPrice_eq, hrows]

open Sample in
theorem price_lookup_scheduled :
    ∃ found, (getCurrentPrice { env "d" with now := 60 } "tenant" "product" "USD" BillingCycle.monthly.name
        (some "wholesale")).run (runPrices unpriced [reprice "a" 1000 0, reprice "b" 1200 100]) =
          (runPrices unpriced [reprice "a" 1000 0, reprice "b" 1200 100], .ok found) ∧
      found.map ProductPrice.asCreated =
        referencePrice (priceHistory unpriced [reprice "a" 1000 0, reprice "b" 1200 100]) "tenant" "product" "USD"
          .monthly (some "wholesale") 60 :=
  price_lookup unpriced rfl [reprice "a" 1000 0, reprice "b" 1200 100] (by decide +kernel)
    { env "d" with now := 60 } "tenant" "product" "USD" .monthly (some "wholesale")

end HostPanel.Model

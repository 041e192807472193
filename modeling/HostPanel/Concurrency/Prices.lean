import HostPanel.Lib.Succession
import HostPanel.Pricing.Timeline

namespace HostPanel.Model

open HostPanel.Lib HostPanel.Lib.Program

/-- The open rows of a key. -/
def Store.openPrices (key : PriceKey) (s : Store) : Finset Id :=
  ((s.productPrices.rows.filter (fun r => decide (r.priceKey = key ∧ r.effectiveTo = none))).map
    ProductPrice.id).toFinset

def Store.HasPrice (id : Id) (s : Store) : Prop := ∃ r ∈ s.productPrices, r.id = id

theorem mem_openPrices {s : Store} {key : PriceKey} {id : Id} :
    id ∈ s.openPrices key ↔ ∃ r ∈ s.productPrices, r.priceKey = key ∧ r.effectiveTo = none ∧ r.id = id := by
  simp only [Store.openPrices, List.mem_toFinset, List.mem_map, List.mem_filter, decide_eq_true_eq, and_assoc]
  exact Iff.rfl

/-- No two rows of a key are open. -/
def Store.OneOpenPrice (s : Store) : Prop :=
  ∀ r ∈ s.productPrices, ∀ q ∈ s.productPrices, r.priceKey = q.priceKey → r.effectiveTo = none →
    q.effectiveTo = none → r = q

theorem oneOpenPrice_iff {s : Store} : s.OneOpenPrice ↔ ∀ key, (s.openPrices key).card ≤ 1 := by
  constructor
  · intro h key
    refine Finset.card_le_one.mpr (fun a ha b hb => ?_)
    obtain ⟨r, hr, hrkey, hropen, rfl⟩ := mem_openPrices.mp ha
    obtain ⟨q, hq, hqkey, hqopen, rfl⟩ := mem_openPrices.mp hb
    exact congrArg ProductPrice.id (h r hr q hq (hrkey.trans hqkey.symm) hropen hqopen)
  · intro h r hr q hq hkey hropen hqopen
    apply Table.eq_of_mem hr hq
    apply Finset.card_le_one.mp (h r.priceKey)
    · exact mem_openPrices.mpr ⟨r, hr, rfl, hropen, rfl⟩
    · exact mem_openPrices.mpr ⟨q, hq, hkey.symm, hqopen, rfl⟩

theorem mem_closePrice {id : Id} {stop : DateTime} {s : Store} {q : ProductPrice} :
    q ∈ (prisma.productPrice.modify id (fun r => { r with effectiveTo := some stop })
      (fun _ => rfl) s).productPrices ↔
      (q ∈ s.productPrices ∧ q.id ≠ id) ∨ ∃ r ∈ s.productPrices, r.id = id ∧ q = { r with effectiveTo := some stop } := by
  have hid : ∀ r : ProductPrice, ({ r with effectiveTo := some stop } : ProductPrice).id = r.id := fun _ => rfl
  exact @Table.mem_modify _ _ _ _ s.productPrices id _ hid q

theorem narrows_closePrice (id : Id) (stop : DateTime) :
    Narrows Store.openPrices Store.HasPrice
      (prisma.productPrice.modify id (fun r => { r with effectiveTo := some stop }) (fun _ => rfl)) := by
  refine ⟨fun key s a ha => ?_, fun a s => ?_⟩
  · obtain ⟨q, hq, hkey, hopen, hid⟩ := mem_openPrices.mp ha
    obtain ⟨hold, _⟩ | ⟨r, _, _, rfl⟩ := mem_closePrice.mp hq
    · exact mem_openPrices.mpr ⟨q, hold, hkey, hopen, hid⟩
    · cases hopen
  · constructor
    · rintro ⟨q, hq, hid⟩
      obtain ⟨hold, _⟩ | ⟨r, hr, _, rfl⟩ := mem_closePrice.mp hq
      · exact ⟨q, hold, hid⟩
      · exact ⟨r, hr, hid⟩
    · rintro ⟨r, hr, hid⟩
      by_cases hthis : r.id = id
      · exact ⟨_, mem_closePrice.mpr (Or.inr ⟨r, hr, hthis, rfl⟩), hid⟩
      · exact ⟨r, mem_closePrice.mpr (Or.inl ⟨hr, hthis⟩), hid⟩

theorem not_mem_openPrices_closePrice (id : Id) (stop : DateTime) (key : PriceKey) (s : Store) :
    id ∉ (prisma.productPrice.modify id (fun r => { r with effectiveTo := some stop })
      (fun _ => rfl) s).openPrices key := by
  intro hid
  obtain ⟨q, hq, _, hopen, hqid⟩ := mem_openPrices.mp hid
  obtain ⟨_, hne⟩ | ⟨r, _, _, rfl⟩ := mem_closePrice.mp hq
  · exact hne hqid
  · cases hopen

theorem opens_insertPrice {row : ProductPrice} (hopen : row.effectiveTo = none) :
    Opens Store.openPrices Store.HasPrice row.priceKey row.id (prisma.productPrice.insert row) := by
  have hold : ∀ {s : Store} {q}, q ∈ s.productPrices → q ∈ (prisma.productPrice.insert row s).productPrices := by
    intro s q hq
    exact Table.mem_of_find (Table.find_insert_of_find (Table.find_of_mem hq))
  have hcases : ∀ {s : Store} {q}, q ∈ (prisma.productPrice.insert row s).productPrices →
      q ∈ s.productPrices ∨ q = row := fun hq => Table.of_mem_insert hq
  refine ⟨fun a ha s => ⟨?_, ?_⟩, fun key hkey s a ha => ?_, fun s a ha => ?_, fun s hnew => ?_⟩
  · rintro ⟨q, hq, hid⟩
    obtain h | rfl := hcases hq
    · exact ⟨q, h, hid⟩
    · exact absurd hid.symm ha
  · rintro ⟨q, hq, hid⟩
    exact ⟨q, hold hq, hid⟩
  · obtain ⟨q, hq, hqkey, hqopen, hid⟩ := mem_openPrices.mp ha
    obtain h | rfl := hcases hq
    · exact mem_openPrices.mpr ⟨q, h, hqkey, hqopen, hid⟩
    · exact absurd hqkey.symm hkey
  · obtain ⟨q, hq, hqkey, hqopen, hid⟩ := mem_openPrices.mp ha
    obtain h | rfl := hcases hq
    · exact Finset.mem_insert_of_mem (mem_openPrices.mpr ⟨q, h, hqkey, hqopen, hid⟩)
    · exact Finset.mem_insert.mpr (Or.inl hid.symm)
  · have hfind : s.productPrices.find row.id = none :=
      Table.find_eq_none_iff.mpr (fun q hq hid => hnew ⟨q, hq, hid⟩)
    exact mem_openPrices.mpr ⟨row, (Table.mem_insert hfind).mpr (Or.inr rfl), rfl, hopen, rfl⟩

/-- A price call as a call that replaces the open row of its key. -/
abbrev SucceedsPrice {α : Type} (key : PriceKey) (p : Db α) (at_ : Search Id) : Prop :=
  p.Succeeds Store.openPrices Store.HasPrice Lock.productPrice key at_

section Calls

variable {α β : Type} {key : PriceKey} {at_ : Search Id}

theorem succeedsPrice_ensure_bind {p : Prop} [Decidable p] {e : Failure} {k : Unit → Db α}
    (h : SucceedsPrice key (k ()) at_) : SucceedsPrice key (ensure p e >>= k) at_ := by
  by_cases hp : p
  · rw [ensure, if_pos hp]
    exact h
  · rw [ensure, if_neg hp]
    trivial

theorem succeedsPrice_lift_bind {x : Except Failure β} {k : β → Db α} (h : ∀ a, SucceedsPrice key (k a) at_) :
    SucceedsPrice key (lift x >>= k) at_ := by
  cases x with
  | error e => trivial
  | ok a => exact h a

/-- The rest of a price call, once the open row it read is closed. -/
theorem succeedsPrice_store (x y : Except Failure Int4) (row : Int4 → Int4 → ProductPrice)
    (audit : Int4 → Int4 → ProductPrice → AuditLog) (hkey : ∀ a b, (row a b).priceKey = key)
    (hopen : ∀ a b, (row a b).effectiveTo = none) :
    SucceedsPrice key (lift x >>= fun a => lift y >>= fun b => prisma.productPrice.create (row a b) >>= fun created =>
      recordAuditLog (audit a b created) >>= fun _ => .commit (.ret created)) .ready := by
  apply succeedsPrice_lift_bind
  intro a
  apply succeedsPrice_lift_bind
  intro b v eff he
  obtain ⟨hfresh, rfl⟩ := Relation.effect_of_create he
  have hnew := fresh_price_iff.mp hfresh
  refine Or.inr (Or.inr ⟨(row a b).id, rfl, List.mem_singleton.mpr rfl, ?_, ?_, ?_⟩)
  · rintro ⟨q, hq, hid⟩
    exact Table.find_eq_none_iff.mp hnew q hq hid
  · rw [← hkey a b]
    exact opens_insertPrice (hopen a b)
  · intro w eff' he'
    obtain rfl := effect_of_appendLog he'
    exact Or.inl ⟨fun _ _ => rfl, fun _ _ => Iff.rfl, rfl, _, rfl⟩

theorem succeedsPrice_closePrevious_bind {r : ProductPrice} {stop : DateTime} {k : Unit → Db α}
    (h : SucceedsPrice key (k ()) .ready) : SucceedsPrice key (closePrevious (some r) stop >>= k) (.found r.id) := by
  intro v eff he
  obtain ⟨q, hq, rfl⟩ := Relation.effect_of_update he
  have hfound := Relation.find_modify (R := prisma.productPrice)
    (f := fun r => { r with effectiveTo := some stop }) (fun _ => rfl) hq
  refine Or.inr (Or.inl ⟨r.id, rfl, narrows_closePrice _ _, not_mem_openPrices_closePrice _ _ _, ?_⟩)
  simp only [hfound]
  exact h

theorem succeedsPrice_findLatestPrice_bind {env : Env} {p : ProductPrice → Bool} {k : Option ProductPrice → Db α}
    (hp : ∀ r, p r = true ↔ r.priceKey = key ∧ r.effectiveTo = none) (hnone : SucceedsPrice key (k none) .ready)
    (hsome : ∀ r, SucceedsPrice key (k (some r)) (.found r.id)) :
    SucceedsPrice key (findLatestPrice env p >>= k) .looking := by
  refine ⟨rfl, fun v => ?_⟩
  change (_ ∧ SucceedsPrice key (k (env.latest (v.productPrices.rows.filter p))) _) ∨
    ∃ a ∈ _, SucceedsPrice key (k (env.latest (v.productPrices.rows.filter p))) _
  cases hlatest : env.latest (v.productPrices.rows.filter p) with
  | none =>
    refine Or.inl ⟨Finset.eq_empty_of_forall_notMem (fun a ha => ?_), hnone⟩
    obtain ⟨q, hq, hkey, hopen, _⟩ := mem_openPrices.mp ha
    have hin : q ∈ v.productPrices.rows.filter p := List.mem_filter.mpr ⟨hq, (hp q).mpr ⟨hkey, hopen⟩⟩
    rw [Env.latest_eq_none_iff.mp hlatest] at hin
    exact List.not_mem_nil hin
  | some r =>
    obtain ⟨hr, hcurrent⟩ := List.mem_filter.mp (Env.latest_mem hlatest)
    obtain ⟨hkey, hopen⟩ := (hp r).mp hcurrent
    exact Or.inr ⟨r.id, mem_openPrices.mpr ⟨r, hr, hkey, hopen, rfl⟩, hsome r⟩

end Calls

theorem PriceCall.succeeds (call : PriceCall) : SucceedsPrice call.key call.program .looking := by
  have hstore := fun previous => succeedsPrice_store (toInt4 call.input.price)
    (toInt4 (call.input.setupFee.getD (.integer 0))) (newPrice call.env call.actor call.input)
    (fun _ _ created => priceCreatedAudit call.env call.actor call.input created.id previous)
    (fun _ _ => (rfl : _ = call.key)) (fun _ _ => rfl)
  simp only [PriceCall.program, setProductPrice, requirePermission, transaction, bind_assoc]
  apply succeedsPrice_ensure_bind
  apply succeedsPrice_findLatestPrice_bind
  · exact fun r => current_iff
  · exact hstore none
  · intro r
    apply succeedsPrice_closePrevious_bind
    exact hstore (some r)

section Runs

variable {ι : Type} [Fintype ι] [DecidableEq ι]

abbrev priceMachine (s : Store) (calls : ι → PriceCall) : Config ι Store Lock Failure ProductPrice :=
  Config.start s (fun i => (calls i).program)

/-- A call stores its row while the open rows of the key are those it read, and
no other call has stored a row of the key that is not committed. -/
abbrev StoresAlone (calls : ι → PriceCall) :
    Config ι Store Lock Failure ProductPrice → ι → Move Failure → Prop :=
  Config.OpensAlone Store.openPrices (fun i => (calls i).key)

/-- In every run whose calls store their rows alone, every key has one open row
at most at every moment. -/
theorem one_open_price (calls : ι → PriceCall) {s : Store} (hs : s.OneOpenPrice) {schedule : List (ι × Move Failure)}
    (halone : Config.Along (StoresAlone calls) (priceMachine s calls) schedule) :
    ((priceMachine s calls).run schedule).db.OneOpenPrice := by
  have hhas : ∀ (key : PriceKey) (t : Store) id, id ∈ t.openPrices key → t.HasPrice id := by
    intro key t id hid
    obtain ⟨r, hr, _, _, hrid⟩ := mem_openPrices.mp hid
    exact ⟨r, hr, hrid⟩
  have hone := Config.oneEach_run hhas (fun i => (calls i).succeeds) (oneOpenPrice_iff.mp hs) halone
  exact oneOpenPrice_iff.mpr hone.single

end Runs

namespace Sample

def twoPrices (second : Bool) : PriceCall := if second then reprice "b" 1200 100 else reprice "a" 1000 0

/-- Both calls look for an open row before either of them stores one. -/
def pricesCrossed : List (Bool × Move Failure) :=
  [(false, .advance), (true, .advance)] ++ List.replicate 3 (false, .advance) ++ List.replicate 3 (true, .advance)

def pricesInTurn : List (Bool × Move Failure) := List.replicate 4 (false, .advance) ++ List.replicate 5 (true, .advance)

end Sample

open Sample in
/-- Two first prices of a key, both open once both are committed. -/
theorem first_prices_both_open :
    unpriced.OneOpenPrice ∧
      ((priceMachine unpriced twoPrices).run pricesCrossed).db.productPrices.rows.map
        (fun r => (r.id, r.price.val, r.effectiveTo)) = [("id-a0", 1000, none), ("id-b0", 1200, none)] ∧
      ¬ ((priceMachine unpriced twoPrices).run pricesCrossed).db.OneOpenPrice := by
  have hrows : ∃ r ∈ ((priceMachine unpriced twoPrices).run pricesCrossed).db.productPrices.rows,
      ∃ q ∈ ((priceMachine unpriced twoPrices).run pricesCrossed).db.productPrices.rows,
        r.priceKey = q.priceKey ∧ r.id ≠ q.id ∧ r.effectiveTo = none ∧ q.effectiveTo = none := by decide +kernel
  refine ⟨fun r hr => absurd hr List.not_mem_nil, by decide +kernel, fun hone => ?_⟩
  obtain ⟨r, hr, q, hq, hkey, hid, hropen, hqopen⟩ := hrows
  exact hid (congrArg ProductPrice.id (hone r hr q hq hkey hropen hqopen))

open Sample in
theorem one_open_price_inTurn : ((priceMachine unpriced twoPrices).run pricesInTurn).db.OneOpenPrice :=
  one_open_price twoPrices (fun _ hr => absurd hr List.not_mem_nil) (by decide +kernel)

end HostPanel.Model

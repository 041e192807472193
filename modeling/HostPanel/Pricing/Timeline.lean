import HostPanel.Lib.Run
import HostPanel.Lib.Versions
import HostPanel.Model.Services

namespace HostPanel.Model

open HostPanel.Lib HostPanel.Lib.Program

/-- What a price is for. -/
structure PriceKey where
  tenantId : Id
  productId : Id
  currency : String
  billingCycle : BillingCycle
  clientGroupId : Option Id
deriving DecidableEq

def ProductPrice.priceKey (r : ProductPrice) : PriceKey :=
  ⟨r.tenantId, r.productId, r.currency, r.billingCycle, r.clientGroupId⟩

def ProductPrice.validity : Validity ProductPrice DateTime := ⟨ProductPrice.effectiveFrom, ProductPrice.effectiveTo⟩

/-- The rows of one key, in the order they were made. -/
def Store.pricesOf (s : Store) (key : PriceKey) : List ProductPrice :=
  s.productPrices.rows.filter (fun r => decide (r.priceKey = key))

/-- A call of `setProductPrice`. -/
structure PriceCall where
  env : Env
  actor : StaffActor
  input : SetProductPriceInput

namespace PriceCall

def program (call : PriceCall) : Db ProductPrice := setProductPrice call.env call.actor call.input

def after (s : Store) (call : PriceCall) : Store := call.program.after s

def key (call : PriceCall) : PriceKey :=
  ⟨call.actor.tenantId, call.input.productId, call.input.currency, call.input.billingCycle, call.input.clientGroupId⟩

def start (call : PriceCall) : DateTime := call.input.start call.env

/-- The call passes its checks and stores the row. -/
def Stores (s : Store) (call : PriceCall) (row : ProductPrice) : Prop :=
  ∃ price setupFee, PriceAccepted call.env call.actor call.input s price setupFee ∧
    row = newPrice call.env call.actor call.input price setupFee

end PriceCall

/-- Prices set one after the other. -/
abbrev runPrices (s : Store) (calls : List PriceCall) : Store := runFrom PriceCall.after s calls

theorem current_iff {call : PriceCall} {r : ProductPrice} :
    r.current call.actor.tenantId call.input = true ↔ r.priceKey = call.key ∧ r.effectiveTo = none := by
  simp only [ProductPrice.current, Bool.and_eq_true, beq_iff_eq, ProductPrice.priceKey, PriceCall.key,
    PriceKey.mk.injEq, and_assoc]

/-- A call stores a row, or leaves the prices as they are. -/
theorem PriceCall.after_cases (s : Store) (call : PriceCall) :
    ((∀ row, ¬ call.Stores s row) ∧ call.after s = s ∧ ∃ e, (call.program.run s).2 = .error e) ∨
      ∃ row, call.Stores s row ∧ call.program.run s = (call.after s, .ok row) ∧ row.priceKey = call.key ∧
        row.effectiveFrom = call.start ∧ row.effectiveTo = none ∧ s.productPrices.find row.id = none ∧
        (call.after s).productPrices =
          (s.closePrice (s.previousPrice call.env call.actor call.input) call.start).productPrices.insert row := by
  cases h : call.program.eval s s with
  | error x =>
    obtain ⟨e, c⟩ := x
    refine Or.inl ⟨?_, ?_, e, by rw [run, h]⟩
    · rintro row ⟨price, fee, hacc, rfl⟩
      have hok := setProductPrice_ok_iff.mpr ⟨price, fee, hacc, rfl, rfl, rfl⟩
      rw [PriceCall.program] at h
      rw [h] at hok
      cases hok
    · rw [PriceCall.after, Program.after, run, h]
      exact eval_error_of_atomic (atomic_setProductPrice _ _ _) h
  | ok q =>
    obtain ⟨row, c, s'⟩ := q
    have hafter : call.after s = s' := by rw [PriceCall.after, Program.after, run, h]
    obtain ⟨price, fee, hacc, rfl, rfl, rfl⟩ := setProductPrice_ok_iff.mp h
    refine Or.inr ⟨_, ⟨price, fee, hacc, rfl⟩, ?_, rfl, rfl, rfl, hacc.fresh, ?_⟩
    · rw [hafter, run, h]
    · rw [hafter]
      rfl

/-- What closing the previous row does to each row. -/
def closing (previous : Option ProductPrice) (stop : DateTime) (r : ProductPrice) : ProductPrice :=
  if previous.map ProductPrice.id = some r.id then { r with effectiveTo := some stop } else r

theorem rows_closePrice (s : Store) (previous : Option ProductPrice) (stop : DateTime) :
    (s.closePrice previous stop).productPrices.rows = s.productPrices.rows.map (closing previous stop) := by
  cases previous with
  | none => exact (List.map_id' _).symm
  | some p =>
    apply List.map_congr_left
    intro r _
    by_cases hid : r.id = p.id
    · simp [closing, hid]
    · simp [closing, hid, Ne.symm hid]

theorem priceKey_closing (previous : Option ProductPrice) (stop : DateTime) (r : ProductPrice) :
    (closing previous stop r).priceKey = r.priceKey := by
  unfold closing
  split <;> rfl

section Step

variable {s : Store} {call : PriceCall} {row r : ProductPrice}

theorem PriceCall.mem_of_previous (h : s.previousPrice call.env call.actor call.input = some r) :
    r ∈ s.productPrices ∧ r.priceKey = call.key ∧ r.effectiveTo = none := by
  obtain ⟨hmem, hcurrent⟩ := List.mem_filter.mp (Env.latest_mem h)
  exact ⟨hmem, current_iff.mp hcurrent⟩

theorem PriceCall.closing_previous (h : s.previousPrice call.env call.actor call.input = some r) (stop : DateTime) :
    closing (s.previousPrice call.env call.actor call.input) stop r = { r with effectiveTo := some stop } := by
  rw [h, closing, if_pos (Option.map_some ..)]

theorem PriceCall.closing_other (hr : r ∈ s.productPrices)
    (h : s.previousPrice call.env call.actor call.input ≠ some r) (stop : DateTime) :
    closing (s.previousPrice call.env call.actor call.input) stop r = r := by
  rw [closing, if_neg]
  intro hid
  obtain ⟨p, hp, hpid⟩ := Option.map_eq_some_iff.mp hid
  have he : p = r := Table.eq_of_mem (PriceCall.mem_of_previous hp).1 hr hpid
  exact h (he ▸ hp)

theorem PriceCall.pricesOf_after (hnew : s.productPrices.find row.id = none)
    (hafter : (call.after s).productPrices =
      (s.closePrice (s.previousPrice call.env call.actor call.input) call.start).productPrices.insert row)
    (key : PriceKey) :
    (call.after s).pricesOf key =
      (s.pricesOf key).map (closing (s.previousPrice call.env call.actor call.input) call.start) ++
        if row.priceKey = key then [row] else [] := by
  have hfilter : ∀ l : List ProductPrice, (l.map (closing (s.previousPrice call.env call.actor call.input)
      call.start)).filter (fun r => decide (r.priceKey = key)) =
      (l.filter (fun r => decide (r.priceKey = key))).map
        (closing (s.previousPrice call.env call.actor call.input) call.start) := by
    intro l
    rw [List.filter_map]
    simp only [Function.comp_def, priceKey_closing]
  rw [Store.pricesOf, hafter, Table.insert_rows ((find_closePrice _ _ _ _).mpr hnew), rows_closePrice,
    List.filter_append, hfilter, List.filter_singleton]
  by_cases hk : row.priceKey = key <;> simp [hk, Store.pricesOf]

theorem PriceCall.pricesOf_other {key : PriceKey} (hk : key ≠ call.key) (stop : DateTime) :
    (s.pricesOf key).map (closing (s.previousPrice call.env call.actor call.input) stop) = s.pricesOf key := by
  refine (List.map_congr_left (fun r hr => ?_)).trans (List.map_id _)
  obtain ⟨hmem, hkey⟩ := List.mem_filter.mp hr
  exact PriceCall.closing_other hmem
    (fun hp => hk ((of_decide_eq_true hkey).symm.trans (PriceCall.mem_of_previous hp).2.1)) stop

theorem PriceCall.mem_insert_closing {q : ProductPrice} (hnew : s.productPrices.find row.id = none)
    (hr : r ∈ s.productPrices)
    (hq : closing (s.previousPrice call.env call.actor call.input) call.start r = q) :
    q ∈ (s.closePrice (s.previousPrice call.env call.actor call.input) call.start).productPrices.insert row := by
  refine (Table.mem_insert ((find_closePrice _ _ _ _).mpr hnew)).mpr (Or.inl ?_)
  rw [Table.mem_def, rows_closePrice]
  exact List.mem_map.mpr ⟨r, hr, hq⟩

end Step

/-- The rows of every key tile the time. -/
def Store.PricesTiled (s : Store) : Prop := ∀ key, ProductPrice.validity.Tiled (s.pricesOf key)

/-- No call that stores a price starts it before the open row of its key. -/
def PriceCall.InOrder (s : Store) (call : PriceCall) : Prop :=
  (∃ row, call.Stores s row) → ∀ r ∈ s.productPrices, r.priceKey = call.key → r.effectiveTo = none →
    r.effectiveFrom ≤ call.start

/-- In a tiled key the row that is closed is the one that is open. -/
theorem Store.PricesTiled.previous_iff {s : Store} (h : s.PricesTiled) {call : PriceCall} {r : ProductPrice}
    (hr : r ∈ s.pricesOf call.key) :
    s.previousPrice call.env call.actor call.input = some r ↔ r.effectiveTo = none := by
  constructor
  · exact fun hp => (PriceCall.mem_of_previous hp).2.2
  · intro hopen
    obtain ⟨hmem, hkey⟩ := List.mem_filter.mp hr
    cases hp : s.previousPrice call.env call.actor call.input with
    | none =>
      have hempty := Env.latest_eq_none_iff.mp hp
      have hin := List.mem_filter.mpr ⟨hmem, current_iff.mpr ⟨of_decide_eq_true hkey, hopen⟩⟩
      rw [hempty] at hin
      exact absurd hin List.not_mem_nil
    | some q =>
      obtain ⟨hq, hqkey, hqopen⟩ := PriceCall.mem_of_previous hp
      have hqmem : q ∈ s.pricesOf call.key := List.mem_filter.mpr ⟨hq, decide_eq_true hqkey⟩
      exact ((h call.key).eq_getLast hqmem hqopen).symm.trans ((h call.key).eq_getLast hr hopen)

/-- A call in order keeps the tiling. -/
theorem PriceCall.tiled_after {s : Store} {call : PriceCall} (hin : call.InOrder s) (h : s.PricesTiled) :
    (call.after s).PricesTiled := by
  intro key
  obtain ⟨_, hsame, _⟩ | ⟨row, hstores, _, hkey, hstart, hopen, hnew, hafter⟩ := call.after_cases s
  · rw [hsame]
    exact h key
  · rw [PriceCall.pricesOf_after hnew hafter key]
    by_cases hk : row.priceKey = key
    · have hcall : key = call.key := hk.symm.trans hkey
      subst hcall
      have hclose : (s.pricesOf call.key).map
          (closing (s.previousPrice call.env call.actor call.input) call.start) =
          (s.pricesOf call.key).map (fun r => if ProductPrice.validity.stop r = none then
            { r with effectiveTo := some call.start } else r) := by
        apply List.map_congr_left
        intro r hr
        have hp := h.previous_iff hr
        by_cases hopen : r.effectiveTo = none
        · rw [PriceCall.closing_previous (hp.mpr hopen)]
          exact (if_pos hopen).symm
        · rw [PriceCall.closing_other (List.mem_filter.mp hr).1 (fun he => hopen (hp.mp he))]
          exact (if_neg hopen).symm
      rw [hclose, if_pos hk]
      refine (h call.key).supersede (fun _ => rfl) (fun _ => congrArg some hstart.symm) hopen ?_
      intro r hr hstop
      obtain ⟨hmem, hrkey⟩ := List.mem_filter.mp hr
      exact (hin ⟨row, hstores⟩ r hmem (of_decide_eq_true hrkey) hstop).trans hstart.ge
    · rw [if_neg hk, List.append_nil, PriceCall.pricesOf_other (fun he => hk (hkey.trans he.symm))]
      exact h key

/-- A row that stops before it starts. -/
def Store.Backdated (s : Store) : Prop :=
  ∃ r ∈ s.productPrices, ∃ e, r.effectiveTo = some e ∧ e < r.effectiveFrom

theorem PriceCall.backdated_after {s : Store} {call : PriceCall} (h : s.Backdated) : (call.after s).Backdated := by
  obtain ⟨r, hr, e, he, hlt⟩ := h
  obtain ⟨_, hsame, _⟩ | ⟨row, _, _, _, _, _, hnew, hafter⟩ := call.after_cases s
  · rw [hsame]
    exact ⟨r, hr, e, he, hlt⟩
  · have hp : s.previousPrice call.env call.actor call.input ≠ some r := by
      intro hp
      rw [(PriceCall.mem_of_previous hp).2.2] at he
      cases he
    refine ⟨r, ?_, e, he, hlt⟩
    rw [hafter]
    exact PriceCall.mem_insert_closing hnew hr (PriceCall.closing_other hr hp call.start)

/-- A call out of order closes the open row before it starts. -/
theorem PriceCall.backdated_of_not_inOrder {s : Store} {call : PriceCall} (h : ¬ call.InOrder s) :
    (call.after s).Backdated := by
  simp only [PriceCall.InOrder, not_forall, not_le] at h
  obtain ⟨⟨row, hstores⟩, r, hr, hkey, hopen, hlt⟩ := h
  obtain ⟨hnone, _, _⟩ | ⟨row', _, _, _, _, _, hnew, hafter⟩ := call.after_cases s
  · exact absurd hstores (hnone row)
  · have hcurrent : r ∈ s.productPrices.rows.filter (ProductPrice.current call.actor.tenantId call.input) :=
      List.mem_filter.mpr ⟨hr, current_iff.mpr ⟨hkey, hopen⟩⟩
    cases hp : s.previousPrice call.env call.actor call.input with
    | none =>
      rw [Env.latest_eq_none_iff.mp hp] at hcurrent
      exact absurd hcurrent List.not_mem_nil
    | some q =>
      obtain ⟨hq, _, _⟩ := PriceCall.mem_of_previous hp
      refine ⟨{ q with effectiveTo := some call.start }, ?_, call.start, rfl, ?_⟩
      · rw [hafter]
        exact PriceCall.mem_insert_closing hnew hq (PriceCall.closing_previous hp call.start)
      · exact lt_of_lt_of_le hlt (Env.le_latest (r := q) hp hcurrent)

/-- No closed row stops before it starts, and at no instant are two rows of a
key in effect. -/
structure Store.PricesDisjoint (s : Store) : Prop where
  ordered : ∀ r ∈ s.productPrices, ∀ e, r.effectiveTo = some e → r.effectiveFrom ≤ e
  single : ∀ r ∈ s.productPrices, ∀ q ∈ s.productPrices, r.priceKey = q.priceKey → ∀ t,
    ProductPrice.validity.InEffect t r → ProductPrice.validity.InEffect t q → r = q

theorem Store.PricesTiled.disjoint {s : Store} (h : s.PricesTiled) : s.PricesDisjoint := by
  have hmem : ∀ r ∈ s.productPrices, r ∈ s.pricesOf r.priceKey :=
    fun r hr => List.mem_filter.mpr ⟨hr, decide_eq_true rfl⟩
  constructor
  · intro r hr e he
    exact (h r.priceKey).start_le_stop (hmem r hr) he
  · intro r hr q hq hkey t hrt hqt
    exact (h r.priceKey).eq_of_inEffect (hmem r hr) (hkey ▸ hmem q hq) hrt hqt

theorem Store.Backdated.not_disjoint {s : Store} (h : s.Backdated) : ¬ s.PricesDisjoint := by
  obtain ⟨r, hr, e, he, hlt⟩ := h
  exact fun hd => absurd (hd.ordered r hr e he) (not_le.mpr hlt)

theorem pricesTiled_of_empty {s : Store} (h : s.productPrices = ∅) : s.PricesTiled := by
  intro key
  rw [Store.pricesOf, h]
  exact Validity.tiled_nil

theorem backdated_runPrices {s : Store} (h : s.Backdated) (calls : List PriceCall) : (runPrices s calls).Backdated := by
  induction calls generalizing s with
  | nil => exact h
  | cons call calls ih => exact ih (PriceCall.backdated_after h)

/-- Over calls that set prices on an empty table, the rows of every key are
disjoint exactly when every call was in order. -/
theorem prices_disjoint_iff (s : Store) (h : s.productPrices = ∅) (calls : List PriceCall) :
    (runPrices s calls).PricesDisjoint ↔ AlongRun PriceCall.after PriceCall.InOrder s calls := by
  have htiled := pricesTiled_of_empty h
  clear h
  induction calls generalizing s with
  | nil => exact iff_of_true htiled.disjoint trivial
  | cons call calls ih =>
    by_cases hin : call.InOrder s
    · refine (ih (call.after s) (PriceCall.tiled_after hin htiled)).trans ?_
      exact ⟨fun halong => ⟨hin, halong⟩, fun halong => halong.2⟩
    · have hbad := backdated_runPrices (PriceCall.backdated_of_not_inOrder hin) calls
      exact iff_of_false hbad.not_disjoint (fun halong => hin halong.1)

namespace Sample

/-- Staff sets the price of the product from a day on. -/
def reprice (tag : String) (price : ℤ) (start : DateTime) : PriceCall :=
  ⟨env tag, staff, { productId := "product", currency := "USD", billingCycle := .monthly, price := .integer price
                     effectiveFrom := some start }⟩

def unpriced : Store :=
  { vacant with
    productGroups := (∅ : Table ProductGroup.id).insert hosting
    products := (∅ : Table Product.id).insert product }

/-- A price from day 0, one from day 100, and then one from day 50. -/
def backdating : List PriceCall := [reprice "a" 1000 0, reprice "b" 1200 100, reprice "c" 900 50]

end Sample

open Sample in
/-- The last price is in effect together with the first one, and the second one
stops before it starts. -/
theorem backdated_price_overlaps :
    (runPrices unpriced backdating).productPrices.rows.map
        (fun r => (r.price.val, r.effectiveFrom, r.effectiveTo)) =
        [(1000, 0, some 100), (1200, 100, some 50), (900, 50, none)] ∧
      ¬ (runPrices unpriced backdating).PricesDisjoint := by
  have hrows : ∃ r ∈ (runPrices unpriced backdating).productPrices.rows, ∃ q ∈
      (runPrices unpriced backdating).productPrices.rows, r.priceKey = q.priceKey ∧ r.id ≠ q.id ∧
        ProductPrice.validity.InEffect 60 r ∧ ProductPrice.validity.InEffect 60 q := by decide +kernel
  refine ⟨by decide +kernel, fun hd => ?_⟩
  obtain ⟨r, hr, q, hq, hkey, hid, hrt, hqt⟩ := hrows
  exact hid (congrArg ProductPrice.id (hd.single r hr q hq hkey 60 hrt hqt))

open Sample in
/-- A price from day 0 on, and one from day 100 on. -/
theorem prices_disjoint_iff_twice :
    (runPrices unpriced [reprice "a" 1000 0, reprice "b" 1200 100]).PricesDisjoint ∧
      (runPrices unpriced [reprice "a" 1000 0, reprice "b" 1200 100]).productPrices.rows.map
        (fun r => (r.price.val, r.effectiveFrom, r.effectiveTo)) = [(1000, 0, some 100), (1200, 100, none)] := by
  have hstarts : ∀ r ∈ ((reprice "a" 1000 0).after unpriced).productPrices.rows, r.effectiveFrom ≤ 100 := by
    decide +kernel
  refine ⟨(prices_disjoint_iff unpriced rfl _).mpr ⟨fun _ r hr => ?_, fun _ r hr _ _ => hstarts r hr, trivial⟩,
    by decide +kernel⟩
  exact absurd hr (Table.not_mem_empty r)

end HostPanel.Model

import HostPanel.Concurrency.Prices
import HostPanel.Pricing.Lookup

namespace HostPanel.Model

open HostPanel.Lib HostPanel.Lib.Program

/-- The rows of a key in effect at an instant. -/
abbrev Store.pricesAt (s : Store) (t : DateTime) (key : PriceKey) : List ProductPrice :=
  ProductPrice.validity.inEffect t (s.pricesOf key)

/-- What a call of `getCurrentPrice` asks for. -/
structure PriceLookup where
  tenantId : Id
  productId : Id
  currency : String
  billingCycle : BillingCycle
  clientGroupId : Option Id

namespace PriceLookup

def keyFor (q : PriceLookup) (group : Option Id) : PriceKey :=
  ⟨q.tenantId, q.productId, q.currency, q.billingCycle, group⟩

def program (q : PriceLookup) (env : Env) : Db (Option ProductPrice) :=
  getCurrentPrice env q.tenantId q.productId q.currency q.billingCycle.name q.clientGroupId

/-- What the lookup may return at an instant: the database is free to choose
among the rows that start last. -/
def mayReturn (q : PriceLookup) (s : Store) (t : DateTime) : Set (Option ProductPrice) :=
  {found | ∃ env : Env, env.now = t ∧ (q.program env).run s = (s, .ok found)}

/-- The lookup reads the rows of the key: those of the client's group, and those
for everyone where the group has no row in effect. -/
def Consults (q : PriceLookup) (s : Store) (t : DateTime) (key : PriceKey) : Prop :=
  (∃ g, groupOf q.clientGroupId = some g ∧ key = q.keyFor (some g)) ∨
    (key = q.keyFor none ∧ ∀ g, groupOf q.clientGroupId = some g → s.pricesAt t (q.keyFor (some g)) = [])

/-- The rows the lookup chooses from. -/
def candidates (q : PriceLookup) (s : Store) (t : DateTime) : List ProductPrice :=
  match groupOf q.clientGroupId with
  | none => s.pricesAt t (q.keyFor none)
  | some g => if s.pricesAt t (q.keyFor (some g)) = [] then s.pricesAt t (q.keyFor none)
    else s.pricesAt t (q.keyFor (some g))

end PriceLookup

theorem latest_iff (env : Env) {t : DateTime} {rows : List ProductPrice} {found : Option ProductPrice} :
    found ∈ ProductPrice.validity.latest rows ↔ ∃ env : Env, env.now = t ∧ env.latest rows = found := by
  constructor
  · intro h
    cases found with
    | none => exact ⟨{ env with now := t }, rfl, Env.latest_eq_none_iff.mpr h⟩
    | some r =>
      obtain ⟨hr, hlast⟩ := h
      have htop : r ∈ rows.filter (fun r => rows.all (fun q => decide (q.effectiveFrom ≤ r.effectiveFrom))) :=
        List.mem_filter.mpr ⟨hr, List.all_eq_true.mpr (fun q hq => decide_eq_true (hlast q hq))⟩
      obtain ⟨i, hi⟩ := List.mem_iff_getElem?.mp htop
      refine ⟨{ env with now := t, tieBreak := fun _ => i }, rfl, ?_⟩
      have hlt := (List.getElem?_eq_some_iff.mp hi).1
      rw [Env.latest, Nat.mod_eq_of_lt hlt]
      exact hi
  · rintro ⟨env, _, rfl⟩
    cases h : env.latest rows with
    | none => exact Env.latest_eq_none_iff.mp h
    | some r => exact ⟨Env.latest_mem h, fun q hq => Env.le_latest h hq⟩

namespace PriceLookup

theorem currentPrice_eq (q : PriceLookup) (s : Store) (env : Env) :
    s.currentPrice env q.tenantId q.productId q.currency q.billingCycle q.clientGroupId =
      env.latest (q.candidates s env.now) := by
  have hrows : ∀ group, s.productPrices.rows.filter (fun r =>
      ProductPrice.offered env.now q.tenantId q.productId q.currency q.billingCycle r && r.clientGroupId == group) =
      s.pricesAt env.now (q.keyFor group) := by
    intro group
    rw [Store.pricesAt, Store.pricesOf, Validity.inEffect, List.filter_filter]
    apply List.filter_congr
    intro r _
    rw [Bool.eq_iff_iff, offered_iff, Bool.and_eq_true, decide_eq_true_eq, decide_eq_true_eq]
    exact Iff.rfl
  simp only [Store.currentPrice, hrows, candidates]
  cases groupOf q.clientGroupId with
  | none => rfl
  | some g =>
    simp only [Option.bind_some]
    by_cases hnone : s.pricesAt env.now (q.keyFor (some g)) = []
    · rw [if_pos hnone, Env.latest_eq_none_iff.mpr hnone, Option.none_or]
    · rw [if_neg hnone]
      obtain ⟨r, hr⟩ := Option.ne_none_iff_exists'.mp (fun h => hnone (Env.latest_eq_none_iff.mp h))
      rw [hr, Option.some_or]

theorem mayReturn_eq (env : Env) (q : PriceLookup) (s : Store) (t : DateTime) :
    q.mayReturn s t = ProductPrice.validity.latest (q.candidates s t) := by
  ext found
  refine Iff.trans ?_ (latest_iff (t := t) env).symm
  constructor
  · rintro ⟨env, rfl, hrun⟩
    rw [program, run_getCurrentPrice, currentPrice_eq] at hrun
    exact ⟨env, rfl, Except.ok.inj (congrArg Prod.snd hrun)⟩
  · rintro ⟨env, rfl, rfl⟩
    refine ⟨env, rfl, ?_⟩
    rw [program, run_getCurrentPrice, currentPrice_eq]

theorem candidates_map {q : PriceLookup} {s s' : Store} {t : DateTime} {f : ProductPrice → ProductPrice}
    (h : ∀ key, q.Consults s t key → s'.pricesAt t key = (s.pricesAt t key).map f) :
    q.candidates s' t = (q.candidates s t).map f := by
  unfold candidates
  cases hg : groupOf q.clientGroupId with
  | none =>
    apply h
    refine Or.inr ⟨rfl, fun g hsome => ?_⟩
    rw [hg] at hsome
    cases hsome
  | some g =>
    have hgroup := h (q.keyFor (some g)) (Or.inl ⟨g, hg, rfl⟩)
    dsimp only
    by_cases hnone : s.pricesAt t (q.keyFor (some g)) = []
    · have hnone' : s'.pricesAt t (q.keyFor (some g)) = [] := by
        rw [hgroup, hnone]
        rfl
      rw [if_pos hnone, if_pos hnone']
      apply h
      refine Or.inr ⟨rfl, fun g' hg' => ?_⟩
      rw [hg] at hg'
      exact Option.some.inj hg' ▸ hnone
    · have hsome' : s'.pricesAt t (q.keyFor (some g)) ≠ [] := by
        rw [hgroup]
        exact fun he => hnone (List.map_eq_nil_iff.mp he)
      rw [if_neg hnone, if_neg hsome', hgroup]

end PriceLookup

section Step

variable {s : Store} {call : PriceCall} {row : ProductPrice}

theorem PriceCall.closesAt_closing {r : ProductPrice} (hr : r ∈ s.productPrices) :
    ProductPrice.validity.ClosesAt call.start r
      (closing (s.previousPrice call.env call.actor call.input) call.start r) := by
  by_cases hp : s.previousPrice call.env call.actor call.input = some r
  · rw [PriceCall.closing_previous hp]
    exact Or.inr ⟨(PriceCall.mem_of_previous hp).2.2, rfl, rfl⟩
  · exact Or.inl (PriceCall.closing_other hr hp call.start)

/-- Before the call's start the same rows are in effect, one of them closed later. -/
theorem PriceCall.pricesAt_before (hstart : row.effectiveFrom = call.start)
    (hnew : s.productPrices.find row.id = none)
    (hafter : (call.after s).productPrices =
      (s.closePrice (s.previousPrice call.env call.actor call.input) call.start).productPrices.insert row)
    {t : DateTime} (ht : t < call.start) (key : PriceKey) :
    (call.after s).pricesAt t key =
      (s.pricesAt t key).map (closing (s.previousPrice call.env call.actor call.input) call.start) := by
  rw [Store.pricesAt, PriceCall.pricesOf_after hnew hafter]
  refine Validity.inEffect_supersede (fun r hr => ?_) (fun r hr => ?_) ht
  · exact PriceCall.closesAt_closing (List.mem_filter.mp hr).1
  · by_cases hk : row.priceKey = key
    · rw [if_pos hk] at hr
      rw [List.mem_singleton.mp hr]
      exact hstart
    · rw [if_neg hk] at hr
      exact absurd hr List.not_mem_nil

theorem PriceCall.pricesOf_after_other {key : PriceKey} (hk : key ≠ call.key) :
    (call.after s).pricesOf key = s.pricesOf key := by
  obtain ⟨_, hsame, _⟩ | ⟨row, _, _, hkey, _, _, hnew, hafter⟩ := call.after_cases s
  · rw [hsame]
  · have hrow : row.priceKey ≠ key := fun he => hk (he.symm.trans hkey)
    rw [PriceCall.pricesOf_after hnew hafter, if_neg hrow, List.append_nil, PriceCall.pricesOf_other hk]

/-- With one open row to a key at most, a call that finds an open row closes it. -/
theorem PriceCall.previous_of_open (h : s.OneOpenPrice) {r : ProductPrice} (hr : r ∈ s.productPrices)
    (hkey : r.priceKey = call.key) (hopen : r.effectiveTo = none) :
    s.previousPrice call.env call.actor call.input = some r := by
  cases hp : s.previousPrice call.env call.actor call.input with
  | none =>
    have hin := List.mem_filter.mpr ⟨hr, current_iff.mpr ⟨hkey, hopen⟩⟩
    rw [Env.latest_eq_none_iff.mp hp] at hin
    exact absurd hin List.not_mem_nil
  | some p =>
    obtain ⟨hmem, hpkey, hpopen⟩ := PriceCall.mem_of_previous hp
    rw [h p hmem r hr (hpkey.trans hkey.symm) hpopen hopen]

theorem PriceCall.oneOpen_after (h : s.OneOpenPrice) : (call.after s).OneOpenPrice := by
  obtain ⟨_, hsame, _⟩ | ⟨row, _, _, hkey, _, _, hnew, hafter⟩ := call.after_cases s
  · rw [hsame]
    exact h
  · -- A row that is open afterwards is the new one, or was open and is of another key.
    have hcases : ∀ q ∈ (call.after s).productPrices, q.effectiveTo = none →
        q = row ∨ (q ∈ s.productPrices ∧ q.priceKey ≠ call.key) := by
      intro q hq hopen
      rw [hafter, Table.mem_insert ((find_closePrice _ _ _ _).mpr hnew), Table.mem_def, rows_closePrice] at hq
      obtain hold | rfl := hq
      · obtain ⟨r, hr, rfl⟩ := List.mem_map.mp hold
        have hcloses : ProductPrice.validity.ClosesAt call.start r
            (closing (s.previousPrice call.env call.actor call.input) call.start r) := PriceCall.closesAt_closing hr
        obtain hsame | ⟨_, _, hstop⟩ := hcloses
        · rw [hsame] at hopen ⊢
          refine Or.inr ⟨hr, fun hrkey => ?_⟩
          rw [PriceCall.closing_previous (PriceCall.previous_of_open h hr hrkey hopen)] at hsame
          rw [← hsame] at hopen
          cases hopen
        · have hstopped := hopen.symm.trans hstop
          cases hstopped
      · exact Or.inl rfl
    intro r hr q hq hrq hropen hqopen
    obtain rfl | ⟨hrmem, hrkey⟩ := hcases r hr hropen
    · obtain rfl | ⟨_, hqkey⟩ := hcases q hq hqopen
      · rfl
      · exact absurd (hrq.symm.trans hkey) hqkey
    · obtain rfl | ⟨hqmem, _⟩ := hcases q hq hqopen
      · exact absurd (hrq.trans hkey) hrkey
      · exact h r hrmem q hqmem hrq hropen hqopen

end Step

theorem oneOpen_runPrices {s : Store} (h : s.OneOpenPrice) (calls : List PriceCall) :
    (runPrices s calls).OneOpenPrice := by
  induction calls generalizing s with
  | nil => exact h
  | cons call calls ih => exact ih (PriceCall.oneOpen_after h)

/-- What a call changes of the answers to lookups, and what it does not. Rows
are compared as they were created. -/
structure PriceCall.Framed (s : Store) (call : PriceCall) : Prop where
  past : ∀ (q : PriceLookup) (t : DateTime), t < call.start →
    Option.map ProductPrice.asCreated '' q.mayReturn (call.after s) t =
      Option.map ProductPrice.asCreated '' q.mayReturn s t
  others : ∀ (q : PriceLookup) (t : DateTime), call.start ≤ t → ¬ q.Consults s t call.key →
    q.mayReturn (call.after s) t = q.mayReturn s t
  current : ∀ row, (call.program.run s).2 = .ok row → ∀ t, call.start ≤ t →
    row ∈ (call.after s).productPrices ∧ row.priceKey = call.key ∧ ProductPrice.validity.InEffect t row
  replaced : ∀ row, (call.program.run s).2 = .ok row → ∀ r ∈ s.productPrices, r.priceKey = call.key →
    r.effectiveTo = none → ∀ t, call.start ≤ t →
      ∃ q ∈ (call.after s).productPrices, q.asCreated = r.asCreated ∧ ¬ ProductPrice.validity.InEffect t q

theorem PriceCall.mayReturn_before (s : Store) (call : PriceCall) (q : PriceLookup) {t : DateTime}
    (ht : t < call.start) :
    Option.map ProductPrice.asCreated '' q.mayReturn (call.after s) t =
      Option.map ProductPrice.asCreated '' q.mayReturn s t := by
  obtain ⟨_, hsame, _⟩ | ⟨row, _, _, _, hstart, _, hnew, hafter⟩ := call.after_cases s
  · rw [hsame]
  · have hcandidates := PriceLookup.candidates_map (q := q) (fun key _ =>
      PriceCall.pricesAt_before hstart hnew hafter ht key)
    rw [PriceLookup.mayReturn_eq call.env, PriceLookup.mayReturn_eq call.env, hcandidates,
      Validity.latest_map (effectiveFrom_closing _ _), Set.image_image]
    congr 1
    funext found
    rw [Option.map_map]
    congr 1
    funext r
    exact asCreated_closing _ _ r

theorem PriceCall.mayReturn_other (s : Store) (call : PriceCall) {q : PriceLookup} {t : DateTime}
    (hother : ¬ q.Consults s t call.key) : q.mayReturn (call.after s) t = q.mayReturn s t := by
  have hcandidates : q.candidates (call.after s) t = (q.candidates s t).map id := by
    apply PriceLookup.candidates_map
    intro key hkey
    rw [List.map_id, Store.pricesAt, PriceCall.pricesOf_after_other (fun he => hother (he ▸ hkey))]
  rw [PriceLookup.mayReturn_eq call.env, PriceLookup.mayReturn_eq call.env, hcandidates, List.map_id]

theorem PriceCall.framed {s : Store} (h : s.OneOpenPrice) (call : PriceCall) : call.Framed s := by
  refine ⟨fun q t ht => call.mayReturn_before s q ht, fun q t _ hother => call.mayReturn_other s hother, ?_, ?_⟩
  · intro row hok t ht
    obtain ⟨_, _, e, he⟩ | ⟨row', _, hrun, hkey, hstart, hopen, hnew, hafter⟩ := call.after_cases s
    · rw [he] at hok
      cases hok
    · rw [hrun] at hok
      cases hok
      refine ⟨?_, hkey, (Validity.inEffect_of_open hopen).mpr (hstart.trans_le ht)⟩
      rw [hafter]
      exact (Table.mem_insert ((find_closePrice _ _ _ _).mpr hnew)).mpr (Or.inr rfl)
  · intro row hok r hr hkey hropen t ht
    obtain ⟨_, _, e, he⟩ | ⟨row', _, _, _, _, _, hnew, hafter⟩ := call.after_cases s
    · rw [he] at hok
      cases hok
    · have hclosed := PriceCall.closing_previous (PriceCall.previous_of_open h hr hkey hropen) call.start
      refine ⟨{ r with effectiveTo := some call.start }, ?_, rfl, Validity.not_inEffect_of_stop rfl ht⟩
      rw [hafter]
      exact PriceCall.mem_insert_closing hnew hr hclosed

/-- After any calls that set prices, one more leaves the answers before its
start and to lookups that do not consult its key. -/
theorem price_call_framed (s : Store) (h : s.productPrices = ∅) (calls : List PriceCall) (call : PriceCall) :
    call.Framed (runPrices s calls) := by
  refine PriceCall.framed (oneOpen_runPrices (fun r hr => ?_) calls) call
  rw [h] at hr
  exact absurd hr (Table.not_mem_empty r)

open Sample in
theorem price_call_framed_backdating : (reprice "c" 900 50).Framed (runPrices unpriced [reprice "a" 1000 0,
    reprice "b" 1200 100]) :=
  price_call_framed unpriced rfl [reprice "a" 1000 0, reprice "b" 1200 100] (reprice "c" 900 50)

end HostPanel.Model

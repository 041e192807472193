import HostPanel.Model.Invoices

namespace HostPanel.Model

open HostPanel.Lib

def sum (currency : String) (items : List Money) : Except Failure Money := do
  let start ← zero currency
  items.foldlM add start

/-- The invoices that the dashboard counts. -/
def Invoice.isUnpaid (i : Invoice) : Bool :=
  decide (i.status ∈ [InvoiceStatus.issued, .partiallyPaid, .overdue])

def Store.unpaidInvoices (s : Store) : List Invoice := s.invoices.rows.filter Invoice.isUnpaid

/-- The total of the dashboard, over the invoices as they were read. -/
def unpaidTotal : List Invoice → Except Failure Money
  | [] => .ok ⟨0, "USD"⟩
  | first :: rest => sum first.currency ((first :: rest).map (fun i => ⟨i.amountDue.val, i.currency⟩))

theorem mem_unpaidInvoices {s : Store} {i : Invoice} : i ∈ s.unpaidInvoices ↔ i ∈ s.invoices ∧ i.isUnpaid = true :=
  List.mem_filter

/-- The amounts of 32 bits are too small to make a sum infinite. -/
theorem add_absorbs {acc x : ℤ} (hacc : acc.natAbs ≤ 2 ^ 85) (hx : x.natAbs ≤ 2 ^ 31) :
    ∃ n, Number.add acc x = .integer n ∧ n.natAbs ≤ 2 ^ 85 := by
  have htriangle := Int.natAbs_add_le acc x
  have hlimit : 2 ^ 85 < Number.limit := by decide +kernel
  exact Number.ofExact_absorbs (by decide) hlimit (by omega)

/-- Amounts are added up as long as they are of the currency of the total. -/
theorem foldlM_add_ok_iff {currency : String} (hcode : isCurrencyCode currency = true)
    (hupper : toUpperCase currency = currency) {items : List Money} (hitems : ∀ m ∈ items, m.amount.natAbs ≤ 2 ^ 31)
    {acc : ℤ} (hacc : acc.natAbs ≤ 2 ^ 85) :
    (∃ total, items.foldlM add ⟨acc, currency⟩ = .ok total) ↔ ∀ m ∈ items, m.currency = currency := by
  induction items generalizing acc with
  | nil => exact iff_of_true ⟨_, rfl⟩ (fun m hm => absurd hm List.not_mem_nil)
  | cons x items ih =>
    obtain ⟨hx, hrest⟩ := List.forall_mem_cons.mp hitems
    rw [List.foldlM_cons, List.forall_mem_cons]
    by_cases hsame : x.currency = currency
    · obtain ⟨n, hadd, hn⟩ := add_absorbs hacc hx
      have hstep : add ⟨acc, currency⟩ x = .ok ⟨n, currency⟩ :=
        add_ok_iff.mpr ⟨hsame.symm, money_ok_iff.mpr ⟨n, hadd, hcode, by rw [hupper]⟩⟩
      rw [hstep]
      exact (ih hrest hn).trans (iff_and_self.mpr (fun _ => hsame))
    · refine iff_of_false ?_ (fun h => hsame h.1)
      rintro ⟨total, htotal⟩
      obtain ⟨next, hnext, _⟩ := except_bind_ok.mp htotal
      exact hsame (add_ok_iff.mp hnext).1.symm

/-- All invoices are in one currency, written in upper case. -/
def OneCurrency (rows : List Invoice) : Prop :=
  ∀ i ∈ rows, isCurrencyCode i.currency = true ∧ toUpperCase i.currency = i.currency ∧
    ∀ j ∈ rows, j.currency = i.currency

theorem unpaidTotal_ok_iff (rows : List Invoice) : (∃ total, unpaidTotal rows = .ok total) ↔ OneCurrency rows := by
  cases rows with
  | nil => exact iff_of_true ⟨_, rfl⟩ (fun i hi => absurd hi List.not_mem_nil)
  | cons first rest =>
    have hitems : ∀ m ∈ (first :: rest).map (fun i => (⟨i.amountDue.val, i.currency⟩ : Money)),
        m.amount.natAbs ≤ 2 ^ 31 := by
      intro m hm
      obtain ⟨i, _, rfl⟩ := List.mem_map.mp hm
      exact Int4.natAbs_le i.amountDue
    have hall : ∀ c : String, (∀ m ∈ (first :: rest).map (fun i => (⟨i.amountDue.val, i.currency⟩ : Money)),
        m.currency = c) ↔ ∀ i ∈ first :: rest, i.currency = c := fun c => List.forall_mem_map
    have hsum : ∀ {total}, unpaidTotal (first :: rest) = .ok total ↔ isCurrencyCode first.currency = true ∧
        ((first :: rest).map (fun i => (⟨i.amountDue.val, i.currency⟩ : Money))).foldlM add
          ⟨0, toUpperCase first.currency⟩ = .ok total := by
      intro total
      refine except_bind_ok.trans ?_
      constructor
      · rintro ⟨start, hstart, hfold⟩
        obtain ⟨k, hk, hcode, rfl⟩ := money_ok_iff.mp hstart
        cases hk
        exact ⟨hcode, hfold⟩
      · rintro ⟨hcode, hfold⟩
        exact ⟨_, money_ok_iff.mpr ⟨0, rfl, hcode, rfl⟩, hfold⟩
    constructor
    · rintro ⟨total, htotal⟩
      obtain ⟨hcode, hfold⟩ := hsum.mp htotal
      have hcode' := isCurrencyCode_toUpperCase hcode
      have hupper := toUpperCase_toUpperCase hcode
      have hsame := (hall _).mp ((foldlM_add_ok_iff hcode' hupper hitems (by decide)).mp ⟨total, hfold⟩)
      intro i hi
      rw [hsame i hi]
      exact ⟨hcode', hupper, hsame⟩
    · intro h
      obtain ⟨hcode, hupper, hsame⟩ := h first List.mem_cons_self
      obtain ⟨total, hfold⟩ := (foldlM_add_ok_iff hcode hupper hitems (by decide : (0 : ℤ).natAbs ≤ 2 ^ 85)).mpr
        ((hall _).mpr hsame)
      refine ⟨total, hsum.mpr ⟨hcode, ?_⟩⟩
      rw [hupper]
      exact hfold

end HostPanel.Model

import Mathlib.Algebra.BigOperators.Ring.Finset
import HostPanel.Lib.Serial
import HostPanel.Model.Actions

namespace HostPanel.Model

open HostPanel.Lib HostPanel.Lib.Program

section Statements

variable {α β ρ δ : Type} {cell : Store → β} {lock : Lock} {R : β → β → Prop} {seen : Store}

theorem updates_ensure_bind {p : Prop} [Decidable p] {e : Failure} {k : Unit → Db α}
    (h : p → (k ()).Updates cell lock R seen) : (ensure p e >>= k).Updates cell lock R seen := by
  by_cases hp : p
  · rw [ensure, if_pos hp]
    exact h hp
  · rw [ensure, if_neg hp]
    trivial

theorem updates_lift_bind {x : Except Failure δ} {k : δ → Db α}
    (h : ∀ a, x = .ok a → (k a).Updates cell lock R seen) : (lift x >>= k).Updates cell lock R seen := by
  cases x with
  | error e => trivial
  | ok a => exact h a rfl

variable {ι : Type} [DecidableEq ι] {key : ρ → ι} {T : Relation key} {i : ι}

theorem updates_findUniqueOrThrow_bind {k : ρ → Db α}
    (h : ∀ v r, (T.get v).find i = some r → (k r).Updates cell lock R v) :
    (T.findUniqueOrThrow i >>= k).Updates cell lock R seen := by
  intro v
  cases hr : (T.get v).find i with
  | none =>
    simp only [hr]
    trivial
  | some r =>
    simp only [hr]
    exact h v r hr

theorem updates_update_bind {f : ρ → ρ} {hf : ∀ r, key (f r) = key r} {k : ρ → Db α} (hlock : lock = T.lock i)
    (hrule : ∃ g : β → β, (∀ s, cell (T.modify i f hf s) = g (cell s)) ∧ R (cell seen) (g (cell seen)))
    (hleaves : ∀ r, (k r).Leaves cell) (hatomic : ∀ r, (k r).Atomic) :
    (T.update i f hf >>= k).Updates cell lock R seen := by
  intro v eff he
  cases hr : (T.get v).find i with
  | none => simp [hr] at he
  | some r =>
    simp only [hr] at he
    cases he
    have hfound : (T.get (T.modify i f hf v)).find i = some (f r) := by
      rw [Relation.modify, T.get_set, Table.find_modify_self, hr, Option.map_some]
    refine ⟨by rw [hlock]; exact List.mem_singleton.mpr rfl, hrule, ?_⟩
    simp only [hfound]
    exact ⟨hleaves (f r), hatomic (f r)⟩

end Statements

/-- The amounts of an invoice. -/
structure Amounts where
  total : Int4
  amountPaid : Int4
  amountDue : Int4
deriving DecidableEq

namespace Amounts

def Balanced (a : Amounts) : Prop :=
  a.amountDue.val = a.total.val - a.amountPaid.val ∧ a.amountPaid.val ≤ a.total.val

/-- A payment taken by itself. -/
structure Takes (amount : ℤ) (a a' : Amounts) : Prop where
  total : a'.total = a.total
  paid : a'.amountPaid.val = a.amountPaid.val + amount
  balanced : a'.Balanced

end Amounts

def Invoice.amounts (i : Invoice) : Amounts := ⟨i.total, i.amountPaid, i.amountDue⟩

def Store.amounts (s : Store) (invoiceId : Id) : Option Amounts := (s.invoices.find invoiceId).map Invoice.amounts

theorem amounts_payInvoice (s : Store) (invoiceId : Id) (paid due : Int4) (status : InvoiceStatus)
    (paidAt : Option DateTime) :
    (prisma.invoice.modify invoiceId (Invoice.withPayment paid due status paidAt)
        (Invoice.withPayment_id paid due status paidAt) s).amounts invoiceId =
      (s.amounts invoiceId).map (fun a => ⟨a.total, paid, due⟩) := by
  have hfind : (s.invoices.modify invoiceId (Invoice.withPayment paid due status paidAt)
      (Invoice.withPayment_id paid due status paidAt)).find invoiceId =
        (s.invoices.find invoiceId).map (Invoice.withPayment paid due status paidAt) := Table.find_modify_self _ _ _ _
  change ((s.invoices.modify invoiceId (Invoice.withPayment paid due status paidAt)
    (Invoice.withPayment_id paid due status paidAt)).find invoiceId).map Invoice.amounts = _
  rw [hfind, Store.amounts, Option.map_map, Option.map_map]
  rfl

/-- The amount asked for, where it is one. -/
def PaymentInput.units (input : PaymentInput) : ℤ :=
  match input.amount with
  | .integer n => n
  | .other _ => 0

/-- The rule of one payment for the row of the invoice. -/
def PaymentInput.Takes (input : PaymentInput) (a a' : Option Amounts) : Prop :=
  ∃ b b', a = some b ∧ a' = some b' ∧ Amounts.Takes input.units b b'

theorem Payment.takes {invoice : Invoice} {input : PaymentInput} {amount : ℤ} {paid due : Int4}
    {status : InvoiceStatus} (h : Payment invoice amount paid due status) (hamount : input.amount = .integer amount) :
    input.Takes (some invoice.amounts) (some ⟨invoice.total, paid, due⟩) := by
  have hunits : input.units = amount := by
    rw [PaymentInput.units, hamount]
  exact ⟨_, _, rfl, rfl, rfl, by rw [hunits]; exact h.paid_eq, h.due_eq, h.fits⟩

theorem leaves_settleOrder (invoiceId : Id) (actor : StaffActor) (invoice : Invoice) (nextStatus : InvoiceStatus) :
    (settleOrder actor invoice nextStatus).Leaves (fun s => s.amounts invoiceId) := by
  unfold settleOrder
  split
  · apply leaves_whenTruthy
    intro orderId
    apply (leaves_transitionOrderStatus (fun _ _ => rfl) (fun _ _ => rfl) (fun _ _ => rfl) _ _ _ _).bind
    exact fun _ => trivial
  · trivial

/-- A payment is a read, one write of the invoice, and a commit. -/
theorem markInvoicePaidManually_updates (env : Env) (actor : StaffActor) (invoiceId : Id) (input : PaymentInput)
    (seen : Store) :
    (markInvoicePaidManually env actor invoiceId input).Updates (fun s => s.amounts invoiceId)
      (prisma.invoice.lock invoiceId) input.Takes seen := by
  simp only [markInvoicePaidManually, requirePermission, transaction, bind_assoc]
  apply updates_ensure_bind
  intro _
  apply updates_lift_bind
  intro amount hamount
  obtain ⟨hinput, hpos⟩ := paymentAmount_ok_iff.mp hamount
  apply updates_findUniqueOrThrow_bind
  intro v invoice hfound
  apply updates_ensure_bind
  intro hpayable
  apply updates_lift_bind
  intro current hcurrent
  apply updates_lift_bind
  intro payment hpayment
  apply updates_lift_bind
  intro newPaid hnew
  apply updates_lift_bind
  intro total htotal
  apply updates_ensure_bind
  intro hover
  apply updates_lift_bind
  intro paid hpaid
  apply updates_lift_bind
  intro due hdue
  obtain ⟨_, _, htaken⟩ := payment_of_checks hpos hpayable hcurrent hpayment hnew htotal hover hpaid hdue
  apply updates_update_bind rfl
  · refine ⟨Option.map (fun a => ⟨a.total, paid, due⟩), fun s => amounts_payInvoice s invoiceId paid due _ _, ?_⟩
    have hseen : v.amounts invoiceId = some invoice.amounts := congrArg (Option.map Invoice.amounts) hfound
    rw [hseen]
    exact htaken.takes hinput
  · intro updated
    apply (leaves_recordStatusTransition _ (fun _ => rfl)).bind
    intro _
    apply (leaves_recordAuditLog _ (fun _ => rfl)).bind
    intro _
    apply (leaves_settleOrder invoiceId _ _ _).bind
    exact fun _ => trivial
  · intro updated
    apply (uncommitted_recordStatusTransition _).bind_atomic
    intro _
    apply (uncommitted_recordAuditLog _).bind_atomic
    intro _
    apply (uncommitted_settleOrder _ _ _).bind_atomic
    exact fun _ => ⟨_, rfl⟩

section Runs

variable {ι : Type} [Fintype ι] [DecidableEq ι]

/-- Payments of one invoice, each by its own staff. -/
def payments (env : ι → Env) (actor : ι → StaffActor) (invoiceId : Id) (input : ι → PaymentInput) (i : ι) : Db Invoice :=
  markInvoicePaidManually (env i) (actor i) invoiceId (input i)

/-- What the calls that committed took. -/
def collected (input : ι → PaymentInput) (c : Config ι Store Lock Failure Invoice) : ℤ :=
  ∑ i with 0 < (c.tasks i).commits, (input i).units

/-- Every committed payment is in the invoice. -/
def PaymentsKept (invoiceId : Id) (input : ι → PaymentInput) (invoice : Invoice)
    (c : Config ι Store Lock Failure Invoice) : Prop :=
  ∃ row, c.db.invoices.find invoiceId = some row ∧ row.total = invoice.total ∧
    row.amountPaid.val = invoice.amountPaid.val + collected input c ∧
    (invoice.amounts.Balanced ∨ (∃ i, 0 < (c.tasks i).commits) → row.amounts.Balanced)

theorem paymentsKept_of_serial {invoiceId : Id} {input : ι → PaymentInput} {invoice : Invoice}
    {c : Config ι Store Lock Failure Invoice} {l : List ι} (hnodup : l.Nodup)
    (hmem : ∀ i, i ∈ l ↔ 0 < (c.tasks i).commits)
    (h : Serial (fun i => (input i).Takes) (some invoice.amounts) l (c.db.amounts invoiceId)) :
    PaymentsKept invoiceId input invoice c := by
  have htotals : (c.db.amounts invoiceId).map Amounts.total = some invoice.total := by
    apply h.inv (I := fun a => a.map Amounts.total = some invoice.total) _ rfl
    rintro i _ _ ⟨a, a', rfl, rfl, htake⟩ hi
    simpa [htake.total] using hi
  have hpaid : ((c.db.amounts invoiceId).map (fun a => a.amountPaid.val)).getD 0 =
      invoice.amountPaid.val + (l.map (fun i => (input i).units)).sum := by
    apply h.sum_eq (m := fun a => (a.map (fun a => a.amountPaid.val)).getD 0)
    rintro i _ _ ⟨a, a', rfl, rfl, htake⟩
    simpa using htake.paid
  have hsum : (l.map (fun i => (input i).units)).sum = collected input c := by
    rw [← List.sum_toFinset _ hnodup, collected]
    congr 1
    ext i
    simp [hmem]
  have hbalanced : invoice.amounts.Balanced ∨ (∃ i, 0 < (c.tasks i).commits) →
      ∀ a ∈ c.db.amounts invoiceId, a.Balanced := by
    rintro (hb | ⟨i, hi⟩)
    · apply h.inv (I := fun a => ∀ b ∈ a, Amounts.Balanced b)
      · rintro _ _ _ ⟨a, a', rfl, rfl, htake⟩ _ b hb
        cases hb
        exact htake.balanced
      · rintro b hb'
        cases hb'
        exact hb
    · apply h.established (I := fun a => ∀ b ∈ a, Amounts.Balanced b)
      · rintro _ _ _ ⟨a, a', rfl, rfl, htake⟩ b hb
        cases hb
        exact htake.balanced
      · exact List.ne_nil_of_mem ((hmem i).mpr hi)
  rw [hsum] at hpaid
  unfold Store.amounts at htotals hpaid hbalanced
  cases hrow : c.db.invoices.find invoiceId with
  | none =>
    rw [hrow] at htotals
    cases htotals
  | some row =>
    rw [hrow] at htotals hpaid hbalanced
    exact ⟨row, hrow, Option.some.inj htotals, hpaid, fun hb => hbalanced hb _ rfl⟩

/-- In every run whose writes of the invoice find the amounts their call read,
every committed payment is in the invoice at every moment. -/
theorem payments_kept (env : ι → Env) (actor : ι → StaffActor) {invoiceId : Id} (input : ι → PaymentInput)
    {s : Store} {invoice : Invoice} (hfound : s.invoices.find invoiceId = some invoice)
    {moves : List (ι × Move Failure)}
    (hfresh : Config.Along (Config.Fresh (fun t : Store => t.amounts invoiceId) (prisma.invoice.lock invoiceId))
      (Config.start s (payments env actor invoiceId input)) moves) :
    PaymentsKept invoiceId input invoice ((Config.start s (payments env actor invoiceId input)).run moves) := by
  have hcalls : ∀ i, (payments env actor invoiceId input i).Updates (fun t : Store => t.amounts invoiceId)
      (prisma.invoice.lock invoiceId) (input i).Takes s :=
    fun i => markInvoicePaidManually_updates (env i) (actor i) invoiceId (input i) s
  obtain ⟨_, _, l, hnodup, hmem, hserial⟩ := Config.run_serialised (R := fun i => (input i).Takes) hcalls hfresh
  have hstart : s.amounts invoiceId = some invoice.amounts := congrArg (Option.map Invoice.amounts) hfound
  rw [hstart] at hserial
  exact paymentsKept_of_serial hnodup hmem hserial

end Runs

namespace Sample

def partPayment (second : Bool) : PaymentInput := { amount := .integer (if second then 400 else 300) }

def twoPayments : Config Bool Store Lock Failure Invoice :=
  .start billed (payments (fun _ => env "pay") (fun _ => staff) "id-a2" partPayment)

/-- Both calls read the invoice before either of them writes it. -/
def crossed : List (Bool × Move Failure) :=
  [(false, .advance), (true, .advance)] ++ List.replicate 4 (false, .advance) ++ List.replicate 4 (true, .advance)

def inTurn : List (Bool × Move Failure) := List.replicate 5 (false, .advance) ++ List.replicate 5 (true, .advance)

end Sample

open Sample in
/-- Of two part payments that both commit, one is lost. -/
theorem part_payment_lost :
    (∀ i, ((twoPayments.run crossed).tasks i).code.finished = true ∧
      ((twoPayments.run crossed).tasks i).commits = 1) ∧
    collected partPayment (twoPayments.run crossed) = 700 ∧
    ((twoPayments.run crossed).db.invoices.rows.map (fun i => (i.id, i.total.val, i.amountPaid.val))) =
      [("id-a2", 1000, 400)] ∧
    ∀ invoice, billed.invoices.find "id-a2" = some invoice →
      ¬ PaymentsKept "id-a2" partPayment invoice (twoPayments.run crossed) := by
  refine ⟨by decide +kernel, by decide +kernel, by decide +kernel, ?_⟩
  rintro invoice hfound ⟨row, hrow, _, hpaid, _⟩
  have hbefore : (billed.invoices.find "id-a2").map (fun i => i.amountPaid.val) = some 0 := by decide +kernel
  have hafter : ((twoPayments.run crossed).db.invoices.find "id-a2").map (fun i => i.amountPaid.val) = some 400 := by
    decide +kernel
  have hsum : collected partPayment (twoPayments.run crossed) = 700 := by decide +kernel
  rw [hfound] at hbefore
  rw [hrow] at hafter
  have hzero : invoice.amountPaid.val = 0 := Option.some.inj hbefore
  have hfour : row.amountPaid.val = 400 := Option.some.inj hafter
  rw [hsum] at hpaid
  omega

open Sample in
theorem payments_kept_inTurn : ∃ invoice, billed.invoices.find "id-a2" = some invoice ∧
    PaymentsKept "id-a2" partPayment invoice (twoPayments.run inTurn) := by
  have hsome : (billed.invoices.find "id-a2").isSome = true := by decide +kernel
  obtain ⟨invoice, hfound⟩ := Option.isSome_iff_exists.mp hsome
  have hfresh : Config.Along (Config.Fresh (fun t : Store => t.amounts "id-a2") (prisma.invoice.lock "id-a2"))
      twoPayments inTurn := by
    decide +kernel
  exact ⟨invoice, hfound, payments_kept (fun _ => env "pay") (fun _ => staff) partPayment hfound hfresh⟩

end HostPanel.Model

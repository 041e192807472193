import HostPanel.Lib.Numbering
import HostPanel.Access.Aging
import HostPanel.Model.Services

namespace HostPanel.Model

open HostPanel.Lib HostPanel.Lib.Program

/-- The text of a number, padded where it is short. -/
def documentNumber (options : SequenceOptions) (n : ℤ) : String :=
  options.prefixText ++ padStart (toString n) options.padding '0'

theorem padStart_toString_inj {m n padding : ℕ}
    (h : padStart (toString m) padding '0' = padStart (toString n) padding '0') : m = n := by
  have hvalue : ∀ k : ℕ, Nat.ofDigitChars 10 (padStart (toString k) padding '0').toList 0 = k := by
    intro k
    rw [padStart, String.toList_ofList, Nat.ofDigitChars_append, Nat.ofDigitChars_replicate_zero, Nat.mul_zero,
      Nat.toString_eq_ofList_toDigits, String.toList_ofList, Nat.ofDigitChars_ten_toDigits]
  rw [← hvalue m, h, hvalue n]

theorem documentNumber_succ (options : SequenceOptions) (n : ℕ) :
    documentNumber options (n + 1) = options.prefixText ++ padStart (toString (n + 1)) options.padding '0' := rfl

theorem documentNumber_inj (options : SequenceOptions) {m n : ℕ}
    (h : documentNumber options (m + 1) = documentNumber options (n + 1)) : m = n := by
  rw [documentNumber_succ, documentNumber_succ] at h
  exact Nat.succ.inj (padStart_toString_inj ((String.append_right_inj _).mp h))

/-- The value of a counter of a tenant, zero where there is none. -/
def Store.counted (counter : String) (tenantId : Id) (s : Store) : ℤ :=
  ((s.counters.find (tenantId, counter)).map (fun r => r.value.val)).getD 0

theorem incremented_ok {v : Store} {tenantId : Id} {counter : String} {value : Int4}
    (h : v.incremented (tenantId, counter) = .ok value) : value.val = v.counted counter tenantId + 1 := by
  unfold Store.incremented at h
  unfold Store.counted
  cases hr : v.counters.find (tenantId, counter) with
  | none =>
    simp only [hr] at h
    split at h
    · exact (toInt4_integer_ok_iff.mp h).symm
    · cases h
  | some r =>
    rw [hr] at h
    exact (toInt4_integer_ok_iff.mp h).symm

theorem find_withCounter_ne (s : Store) {ref ref' : Id × String} (value : Int4) (h : ref' ≠ ref) :
    (s.withCounter ref value).counters.find ref' = s.counters.find ref' := by
  have hmodify := Table.find_modify_ne s.counters (fun counter => { counter with value := value }) (fun _ => rfl) h
  exact (Table.find_insert_ne _ (⟨ref.1, ref.2, value⟩ : Counter) h).trans hmodify

theorem counted_withCounter (s : Store) (counter : String) (tenantId : Id) (value : Int4) :
    (s.withCounter (tenantId, counter) value).counted counter tenantId = value.val := by
  rw [Store.counted, find_withCounter]
  rfl

theorem counted_withCounter_ne (s : Store) {counter : String} {tenantId : Id} {ref : Id × String} (value : Int4)
    (h : (tenantId, counter) ≠ ref) :
    (s.withCounter ref value).counted counter tenantId = s.counted counter tenantId := by
  rw [Store.counted, find_withCounter_ne s value h]
  rfl

section Series

variable {ρ : Type} {key : ρ → Id} (R : Relation key) (tenant : ρ → Id) (number : ρ → String)

/-- The numbers of a tenant's documents, in the order in which they were
committed. -/
def Relation.numbers (tenantId : Id) (s : Store) : List String :=
  ((R.get s).rows.filter (fun r => tenant r == tenantId)).map number

def Relation.Has (id : Id) (s : Store) : Prop := ∃ r ∈ R.get s, key r = id

/-- A change of nothing that has to do with the numbers of the documents. -/
abbrev KeepsNumbers (counter : String) : Store → Store → Prop :=
  Unnumbered (R.numbers tenant number) (Store.counted counter) R.Has

variable {R tenant number} {counter : String} {s t : Store}

theorem keepsNumbers_of_same (hrows : R.get t = R.get s) (hcounters : t.counters = s.counters) :
    KeepsNumbers R tenant number counter s t := by
  refine ⟨fun x => ?_, fun x => ?_, fun r => ?_⟩
  · rw [Relation.numbers, hrows]
    rfl
  · rw [Store.counted, hcounters]
    rfl
  · rw [Relation.Has, hrows]
    exact Iff.rfl

theorem keepsNumbers_modify {i : Id} {f : ρ → ρ} (hf : ∀ r, key (f r) = key r) (htenant : ∀ r, tenant (f r) = tenant r)
    (hnumber : ∀ r, number (f r) = number r) (hcounters : (R.modify i f hf s).counters = s.counters) :
    KeepsNumbers R tenant number counter s (R.modify i f hf s) := by
  have hrows : (R.get (R.modify i f hf s)).rows = (R.get s).rows.map (fun r => if decide (key r = i) then f r else r) := by
    rw [Relation.modify, R.get_set]
    rfl
  refine ⟨fun x => ?_, fun x => ?_, fun id => ?_⟩
  · have hsame : ∀ r, tenant (if decide (key r = i) then f r else r) = tenant r := by
      intro r
      split
      · exact htenant r
      · rfl
    have hsame' : ∀ r, number (if decide (key r = i) then f r else r) = number r := by
      intro r
      split
      · exact hnumber r
      · rfl
    simp only [Relation.numbers, hrows, List.filter_map, List.map_map, Function.comp_def, hsame, hsame']
  · rw [Store.counted, hcounters]
    rfl
  · have hid : ∀ r, key (if decide (key r = i) then f r else r) = key r := by
      intro r
      split
      · exact hf r
      · rfl
    simp only [Relation.Has, Table.mem_def, hrows, List.mem_map, exists_exists_and_eq_and, hid]

theorem keepsNumbers_withCounter {ref : Id × String} (value : Int4) (hrows : R.get (s.withCounter ref value) = R.get s)
    (hne : ref.2 ≠ counter) : KeepsNumbers R tenant number counter s (s.withCounter ref value) := by
  refine ⟨fun x => ?_, fun x => ?_, fun r => ?_⟩
  · rw [Relation.numbers, hrows]
    rfl
  · exact counted_withCounter_ne s value (fun h => hne (congrArg Prod.snd h).symm)
  · rw [Relation.Has, hrows]
    exact Iff.rfl

theorem draws_withCounter {tenantId : Id} (value : Int4)
    (hrows : ∀ s : Store, R.get (s.withCounter (tenantId, counter) value) = R.get s) :
    Draws (R.numbers tenant number) (Store.counted counter) R.Has tenantId value.val
      (fun s => s.withCounter (tenantId, counter) value) := by
  refine ⟨fun y s => ?_, fun s => counted_withCounter s counter tenantId value, fun y hy s => ?_, fun r s => ?_⟩
  · rw [Relation.numbers, hrows]
    rfl
  · exact counted_withCounter_ne s value (fun h => hy (congrArg Prod.fst h))
  · rw [Relation.Has, hrows]
    exact Iff.rfl

theorem enters_insert {label : ℤ → String} {row : ρ} {n : ℤ} (hnumber : number row = label n)
    (hcounters : ∀ s, (R.insert row s).counters = s.counters) :
    Enters (R.numbers tenant number) (Store.counted counter) R.Has label (tenant row) n (key row) (R.insert row) := by
  have hrows : ∀ s, ¬ R.Has (key row) s → (R.get (R.insert row s)).rows = (R.get s).rows ++ [row] := by
    intro s hnew
    rw [Relation.insert, R.get_set]
    exact Table.insert_rows (Table.find_eq_none_iff.mpr (fun q hq hk => hnew ⟨q, hq, hk⟩))
  have hold : ∀ s, R.Has (key row) s → R.get (R.insert row s) = R.get s := by
    rintro s ⟨q, hq, hk⟩
    rw [Relation.insert, R.get_set]
    exact dif_pos (List.mem_map.mpr ⟨q, hq, hk⟩)
  refine ⟨fun s hnew => ?_, fun y hy s => ?_, fun y s => ?_, fun q hq s => ?_⟩
  · simp only [Relation.numbers, hrows s hnew, List.filter_append, List.map_append, List.filter_cons, beq_self_eq_true,
      if_true, List.filter_nil, List.map_cons, List.map_nil, hnumber]
  · by_cases hnew : R.Has (key row) s
    · rw [Relation.numbers, hold s hnew]
      rfl
    · have hother : (tenant row == y) = false := by simp [Ne.symm hy]
      simp only [Relation.numbers, hrows s hnew, List.filter_append, List.filter_cons, hother, List.filter_nil,
        List.append_nil, Bool.false_eq_true, if_false]
  · rw [Store.counted, hcounters]
    rfl
  · by_cases hnew : R.Has (key row) s
    · rw [Relation.Has, hold s hnew]
      exact Iff.rfl
    · constructor
      · rintro ⟨r, hr, hk⟩
        rw [Table.mem_def, hrows s hnew] at hr
        obtain hr | hr := List.mem_append.mp hr
        · exact ⟨r, hr, hk⟩
        · exact absurd (List.mem_singleton.mp hr ▸ hk).symm hq
      · rintro ⟨r, hr, hk⟩
        refine ⟨r, ?_, hk⟩
        rw [Table.mem_def, hrows s hnew]
        exact List.mem_append_left _ hr

end Series

section Calls

variable {ρ : Type} {key : ρ → Id} {R : Relation key} {tenant : ρ → Id} {number : ρ → String} {counter : String}
variable {options : SequenceOptions} {α : Type} {tenantId : Id}

/-- A call as one that numbers the documents of a tenant. -/
abbrev NumbersDocuments (R : Relation key) (tenant : ρ → Id) (number : ρ → String) (counter : String)
    (options : SequenceOptions) (tenantId : Id) (p : Db α) (at_ : Numbered) : Prop :=
  p.Numbers (R.numbers tenant number) (Store.counted counter) R.Has (documentNumber options)
    (fun x => prisma.counter.lock (x, counter)) R.lock tenantId at_

theorem numbers_nextSequenceNumber_bind {k : String → Db α}
    (hrows : ∀ (s : Store) value, R.get (s.withCounter (tenantId, counter) value) = R.get s)
    (hk : ∀ value : Int4, NumbersDocuments R tenant number counter options tenantId (k (sequenceNumber options value))
      (.drawn value.val)) :
    NumbersDocuments R tenant number counter options tenantId (nextSequenceNumber tenantId counter options >>= k)
      .idle := by
  intro v eff he
  cases hvalue : v.incremented (tenantId, counter) with
  | error e =>
    simp only [hvalue] at he
    cases he
  | ok value =>
    simp only [hvalue] at he
    cases he
    have hfound := find_withCounter v (tenantId, counter) value
    rw [← incremented_ok hvalue]
    refine Or.inr (Or.inl ⟨rfl, List.mem_singleton.mpr rfl, draws_withCounter value (fun s => hrows s value), ?_⟩)
    simp only [hfound]
    exact hk value

theorem numbers_create_bind {row : ρ} {n : ℤ} {k : ρ → Db α} (htenant : tenant row = tenantId)
    (hnumber : number row = documentNumber options n) (hcounters : ∀ s, (R.insert row s).counters = s.counters)
    (hk : NumbersDocuments R tenant number counter options tenantId (k row) .entered) :
    NumbersDocuments R tenant number counter options tenantId (R.create row >>= k) (.drawn n) := by
  intro v eff he
  obtain ⟨hfresh, rfl⟩ := Relation.effect_of_create he
  refine Or.inr (Or.inr ⟨n, key row, rfl, R.lock_mem row, ?_, htenant ▸ enters_insert hnumber hcounters, hk⟩)
  rintro ⟨q, hq, hk⟩
  exact Table.find_eq_none_iff.mp (Relation.find_of_fresh hfresh) q hq hk

theorem keepsNumbers_recordStatusTransition (hrows : ∀ (s : Store) row, R.get (s.withStatusHistory row) = R.get s)
    (row : StatusHistory) : (recordStatusTransition row).Guarantees (KeepsNumbers R tenant number counter) :=
  guarantees_recordStatusTransition row (fun s => keepsNumbers_of_same (hrows s row) rfl)

theorem keepsNumbers_recordAuditLog (hrows : ∀ (s : Store) row, R.get (s.withAuditLog row) = R.get s)
    (row : AuditLog) : (recordAuditLog row).Guarantees (KeepsNumbers R tenant number counter) :=
  guarantees_recordAuditLog row (fun s => keepsNumbers_of_same (hrows s row) rfl)

end Calls

abbrev NumbersOrders {α : Type} (tenantId : Id) (p : Db α) (at_ : Numbered) : Prop :=
  NumbersDocuments prisma.order Order.tenantId Order.orderNumber "order_number" orderNumberOptions tenantId p at_

abbrev NumbersInvoices {α : Type} (tenantId : Id) (p : Db α) (at_ : Numbered) : Prop :=
  NumbersDocuments prisma.invoice Invoice.tenantId Invoice.invoiceNumber "invoice_number" invoiceNumberOptions tenantId p at_

abbrev KeepsOrderNumbers : Store → Store → Prop :=
  KeepsNumbers prisma.order Order.tenantId Order.orderNumber "order_number"

abbrev KeepsInvoiceNumbers : Store → Store → Prop :=
  KeepsNumbers prisma.invoice Invoice.tenantId Invoice.invoiceNumber "invoice_number"

section Services

variable {env : Env}

theorem numbers_insertOrder (actor : Actor) (input : CreateOrderInput) (client : Client) :
    NumbersOrders actor.tenantId (transaction (insertOrder env actor input client)) .idle := by
  simp only [transaction, insertOrder, insertOrderWith, bind_assoc]
  refine (guarantees_lift _).numbers_bind (uncommitted_lift _) (fun start => ?_)
  refine (guarantees_orderLines _ _ _ _ _).numbers_bind (uncommitted_orderLines _ _ _ _ _) (fun lines => ?_)
  refine numbers_nextSequenceNumber_bind (fun _ _ => rfl) (fun value => ?_)
  refine (guarantees_lift _).numbers_bind (uncommitted_lift _) (fun items => ?_)
  refine (guarantees_lift _).numbers_bind (uncommitted_lift _) (fun subtotal => ?_)
  refine (guarantees_lift _).numbers_bind (uncommitted_lift _) (fun total => ?_)
  refine numbers_create_bind rfl rfl (fun _ => rfl) ?_
  refine (keepsNumbers_recordStatusTransition (fun _ _ => rfl) _).numbers_bind (uncommitted_recordStatusTransition _)
    (fun _ => ?_)
  refine (keepsNumbers_recordAuditLog (fun _ _ => rfl) _).numbers_bind (uncommitted_recordAuditLog _) (fun _ => ?_)
  exact ⟨fun _ h => Numbered.noConfusion h, trivial⟩

theorem numbers_createOrder (actor : Actor) (input : CreateOrderInput) :
    NumbersOrders actor.tenantId (createOrder env actor input) .idle := by
  refine (guarantees_requireOrderActor _ _).numbers_bind uncommitted_requireOrderActor (fun _ => ?_)
  refine (guarantees_ensure _ _).numbers_bind (uncommitted_ensure _ _) (fun _ => ?_)
  refine (Relation.guarantees_findFirst _).numbers_bind (Relation.uncommitted_findFirst _) (fun existing => ?_)
  cases existing with
  | some order => trivial
  | none =>
    refine (Relation.guarantees_findUniqueOrThrow _).numbers_bind (Relation.uncommitted_findUniqueOrThrow _) ?_
    exact fun client => numbers_insertOrder actor input client

theorem numbers_issueInvoiceForOrder (order : Order) (actor : TransitionActor) :
    NumbersInvoices order.tenantId (issueInvoiceForOrder env order actor) .idle := by
  simp only [issueInvoiceForOrder, transaction, bind_assoc]
  refine (Relation.guarantees_findUniqueOrThrow _).numbers_bind (Relation.uncommitted_findUniqueOrThrow _)
    (fun client => ?_)
  refine (guarantees_getCompanyProfile _).numbers_bind (uncommitted_getCompanyProfile _) (fun company => ?_)
  refine numbers_nextSequenceNumber_bind (fun _ _ => rfl) (fun value => ?_)
  refine (guarantees_lift _).numbers_bind (uncommitted_lift _) (fun items => ?_)
  refine numbers_create_bind rfl rfl (fun _ => rfl) ?_
  refine (keepsNumbers_recordStatusTransition (fun _ _ => rfl) _).numbers_bind (uncommitted_recordStatusTransition _)
    (fun _ => ?_)
  refine (keepsNumbers_recordAuditLog (fun _ _ => rfl) _).numbers_bind (uncommitted_recordAuditLog _) (fun _ => ?_)
  have hsame : ∀ s t : Store, t.invoices = s.invoices → t.counters = s.counters → KeepsInvoiceNumbers s t :=
    fun _ _ hrows hcounters => keepsNumbers_of_same hrows hcounters
  refine (guarantees_awaitPayment (fun _ _ _ => hsame _ _ rfl rfl) (fun _ _ => hsame _ _ rfl rfl)
    (fun _ _ => hsame _ _ rfl rfl) _ _).numbers_bind (uncommitted_awaitPayment _ _) (fun _ => ?_)
  exact ⟨fun _ h => Numbered.noConfusion h, trivial⟩

theorem keepsInvoiceNumbers_createOrder (actor : Actor) (input : CreateOrderInput) :
    (createOrder env actor input).Guarantees KeepsInvoiceNumbers := by
  refine (guarantees_requireOrderActor _ _).bind (fun _ => (guarantees_ensure _ _).bind (fun _ => ?_))
  refine (Relation.guarantees_findFirst _).bind (fun existing => ?_)
  cases existing with
  | some order => trivial
  | none =>
    refine (Relation.guarantees_findUniqueOrThrow _).bind (fun client => Guarantees.transaction ?_)
    refine (guarantees_lift _).bind (fun _ => (guarantees_orderLines _ _ _ _ _).bind (fun _ => ?_))
    refine Guarantees.bind (guarantees_nextSequenceNumber _ _ _ (fun value t => ?_)) (fun _ => ?_)
    · exact keepsNumbers_withCounter value rfl (fun h : "order_number" = "invoice_number" => absurd h (by decide))
    refine (guarantees_lift _).bind (fun _ => (guarantees_lift _).bind (fun _ => (guarantees_lift _).bind (fun _ => ?_)))
    refine Guarantees.bind (Relation.guarantees_create _ (fun t => ?_)) (fun _ => ?_)
    · exact keepsNumbers_of_same rfl rfl
    refine (keepsNumbers_recordStatusTransition (fun _ _ => rfl) _).bind (fun _ => ?_)
    exact (keepsNumbers_recordAuditLog (fun _ _ => rfl) _).bind (fun _ => trivial)

theorem keepsOrderNumbers_issueInvoiceForOrder (order : Order) (actor : TransitionActor) :
    (issueInvoiceForOrder env order actor).Guarantees KeepsOrderNumbers := by
  refine Guarantees.transaction ((Relation.guarantees_findUniqueOrThrow _).bind (fun _ => ?_))
  refine (guarantees_getCompanyProfile _).bind (fun _ => ?_)
  refine Guarantees.bind (guarantees_nextSequenceNumber _ _ _ (fun value t => ?_)) (fun _ => ?_)
  · exact keepsNumbers_withCounter value rfl (fun h : "invoice_number" = "order_number" => absurd h (by decide))
  refine (guarantees_lift _).bind (fun _ => ?_)
  refine Guarantees.bind (Relation.guarantees_create _ (fun t => ?_)) (fun _ => ?_)
  · exact keepsNumbers_of_same rfl rfl
  refine (keepsNumbers_recordStatusTransition (fun _ _ => rfl) _).bind (fun _ => ?_)
  refine (keepsNumbers_recordAuditLog (fun _ _ => rfl) _).bind (fun _ => ?_)
  refine Guarantees.bind (guarantees_awaitPayment (fun t i status => ?_) (fun _ _ => keepsNumbers_of_same rfl rfl)
    (fun _ _ => keepsNumbers_of_same rfl rfl) _ _) (fun _ => trivial)
  exact keepsNumbers_modify _ (fun _ => rfl) (fun _ => rfl) rfl

end Services

/-- What a relation must keep for the services that number nothing to keep it. -/
structure KeptUnnumbered (rel : Store → Store → Prop) : Prop where
  same : ∀ s t : Store, t.orders = s.orders → t.invoices = s.invoices → t.counters = s.counters → rel s t
  order : ∀ (t : Store) (i : Id) (status : OrderStatus),
    rel t (prisma.order.modify i (fun o => { o with status := status }) (fun _ => rfl) t)
  invoice : ∀ i f hf, (∀ r, (f r).tenantId = r.tenantId ∧ (f r).invoiceNumber = r.invoiceNumber) →
    ∀ t, rel t (prisma.invoice.modify i f hf t)

theorem keptUnnumbered_orders : KeptUnnumbered KeepsOrderNumbers where
  same _ _ horders _ hcounters := keepsNumbers_of_same horders hcounters
  order _ _ _ := keepsNumbers_modify _ (fun _ => rfl) (fun _ => rfl) rfl
  invoice _ _ _ _ _ := keepsNumbers_of_same rfl rfl

theorem keptUnnumbered_invoices : KeptUnnumbered KeepsInvoiceNumbers where
  same _ _ _ hinvoices hcounters := keepsNumbers_of_same hinvoices hcounters
  order _ _ _ := keepsNumbers_of_same rfl rfl
  invoice _ _ hf hsame _ := keepsNumbers_modify hf (fun r => (hsame r).1) (fun r => (hsame r).2) rfl

section Unnumbered

variable {rel : Store → Store → Prop} (h : KeptUnnumbered rel) {env : Env}

include h

theorem KeptUnnumbered.access : KeptByAccess (fun _ => True) rel where
  traces s t ht := by
    have horders : t.withoutTraces.orders = s.withoutTraces.orders := congrArg Store.orders ht
    have hinvoices : t.withoutTraces.invoices = s.withoutTraces.invoices := congrArg Store.invoices ht
    have hcounters : t.withoutTraces.counters = s.withoutTraces.counters := congrArg Store.counters ht
    exact h.same s t horders hinvoices hcounters
  auditLog _ t := h.same t _ rfl rfl rfl
  statusHistory _ t := h.same t _ rfl rfl rfl
  staffUser _ _ _ _ t := h.same t _ rfl rfl rfl
  newStaffUser _ t := h.same t _ rfl rfl rfl
  staffSession _ _ _ _ t := h.same t _ rfl rfl rfl
  newStaffSession _ _ t := h.same t _ rfl rfl rfl
  contact _ _ _ _ t := h.same t _ rfl rfl rfl
  newContact _ t := h.same t _ rfl rfl rfl
  clientSession _ _ _ _ t := h.same t _ rfl rfl rfl
  newClientSession _ _ t := h.same t _ rfl rfl rfl

theorem KeptUnnumbered.setProductPrice (actor : StaffActor) (input : SetProductPriceInput) :
    (setProductPrice env actor input).Guarantees rel := by
  have hleaves : (Model.setProductPrice env actor input).Leaves (fun s => (s.orders, s.invoices, s.counters)) :=
    leaves_setProductPrice env actor input (fun _ _ => rfl) (fun _ _ => rfl)
  refine hleaves.guarantees (fun s t ht => ?_)
  simp only [Prod.mk.injEq] at ht
  exact h.same s t ht.1 ht.2.1 ht.2.2

theorem KeptUnnumbered.markInvoicePaidManually (actor : StaffActor) (invoiceId : Id) (input : PaymentInput) :
    (markInvoicePaidManually env actor invoiceId input).Guarantees rel := by
  refine (guarantees_requirePermission _ _).bind (fun _ => (guarantees_lift _).bind (fun _ => Guarantees.transaction ?_))
  refine (Relation.guarantees_findUniqueOrThrow _).bind (fun _ => (guarantees_ensure _ _).bind (fun _ => ?_))
  refine (guarantees_lift _).bind (fun _ => (guarantees_lift _).bind (fun _ => ?_))
  refine (guarantees_lift _).bind (fun _ => (guarantees_lift _).bind (fun _ => ?_))
  refine (guarantees_ensure _ _).bind (fun _ => (guarantees_lift _).bind (fun _ => ?_))
  refine (guarantees_lift _).bind (fun _ => ?_)
  refine Guarantees.bind (Relation.guarantees_update _ _ _ ?_) (fun _ => ?_)
  · exact h.invoice _ _ _ (fun _ => ⟨rfl, rfl⟩)
  refine (kept_recordStatusTransition h.access _).bind (fun _ => (kept_recordAuditLog h.access _).bind (fun _ => ?_))
  refine (guarantees_settleOrder h.order (fun t _ => h.same t _ rfl rfl rfl) (fun t _ => h.same t _ rfl rfl rfl)
    _ _ _).bind (fun _ => trivial)

theorem KeptUnnumbered.cancelInvoice (actor : StaffActor) (invoiceId : Id) (reason : String) :
    (cancelInvoice actor invoiceId reason).Guarantees rel := by
  refine (guarantees_requirePermission _ _).bind (fun _ => Guarantees.transaction (Guarantees.bind ?_ (fun _ => ?_)))
  · refine (Relation.guarantees_findUniqueOrThrow _).bind (fun _ => (guarantees_ensure _ _).bind (fun _ => ?_))
    refine Guarantees.bind (Relation.guarantees_update _ _ _ ?_) (fun _ => ?_)
    · exact h.invoice _ _ _ (fun _ => ⟨rfl, rfl⟩)
    exact (kept_recordStatusTransition h.access _).bind (fun _ => trivial)
  · exact (kept_recordAuditLog h.access _).bind (fun _ => trivial)

end Unnumbered

/-- The tenant whose documents a call may number. -/
def Call.numberedTenant : Call → Id
  | createOrder _ actor _ => actor.tenantId
  | issueInvoiceForOrder _ order _ => order.tenantId
  | _ => ""

theorem KeptUnnumbered.call {rel : Store → Store → Prop} (h : KeptUnnumbered rel) (call : Call)
    (horder : ∀ env actor input, call = .createOrder env actor input → call.program.Guarantees rel)
    (hinvoice : ∀ env order actor, call = .issueInvoiceForOrder env order actor → call.program.Guarantees rel) :
    call.program.Guarantees rel := by
  cases call with
  | setProductPrice env actor input => exact (h.setProductPrice actor input).bind (fun _ => trivial)
  | createOrder env actor input => exact horder env actor input rfl
  | issueInvoiceForOrder env order actor => exact hinvoice env order actor rfl
  | markInvoicePaidManually env actor invoiceId input =>
    exact (h.markInvoicePaidManually actor invoiceId input).bind (fun _ => trivial)
  | cancelInvoice actor invoiceId reason => exact (h.cancelInvoice actor invoiceId reason).bind (fun _ => trivial)
  | registerClient env input => exact (kept_registerClient h.access input).bind (fun _ => trivial)
  | verifyClientEmail env token => exact kept_verifyClientEmail h.access token
  | addClientNote env actor clientId body => exact kept_addClientNote h.access actor clientId body
  | changeClientStatus env actor clientId toStatus reason =>
    exact kept_changeClientStatus h.access actor clientId toStatus reason
  | updateClientProfile env actor clientId patch => exact kept_updateClientProfile h.access actor clientId patch
  | disableStaffUser env actor targetUserId => exact kept_disableStaffUser h.access actor targetUserId

theorem Call.numbersOrders (call : Call) : NumbersOrders call.numberedTenant call.program .idle := by
  by_cases hcreate : ∃ env actor input, call = .createOrder env actor input
  · obtain ⟨env, actor, input, rfl⟩ := hcreate
    exact (numbers_createOrder actor input).map (fun _ => ())
  · refine Guarantees.numbers (keptUnnumbered_orders.call call ?_ ?_)
    · exact fun env actor input he => absurd ⟨env, actor, input, he⟩ hcreate
    · rintro env order actor rfl
      exact (keepsOrderNumbers_issueInvoiceForOrder order actor).bind (fun _ => trivial)

theorem Call.numbersInvoices (call : Call) : NumbersInvoices call.numberedTenant call.program .idle := by
  by_cases hissue : ∃ env order actor, call = .issueInvoiceForOrder env order actor
  · obtain ⟨env, order, actor, rfl⟩ := hissue
    exact (numbers_issueInvoiceForOrder order actor).map (fun _ => ())
  · refine Guarantees.numbers (keptUnnumbered_invoices.call call ?_ ?_)
    · rintro env actor input rfl
      exact (keepsInvoiceNumbers_createOrder actor input).bind (fun _ => trivial)
    · exact fun env order actor he => absurd ⟨env, order, actor, he⟩ hissue

abbrev Store.orderNumbers (s : Store) (tenantId : Id) : List String :=
  prisma.order.numbers Order.tenantId Order.orderNumber tenantId s

abbrev Store.invoiceNumbers (s : Store) (tenantId : Id) : List String :=
  prisma.invoice.numbers Invoice.tenantId Invoice.invoiceNumber tenantId s

/-- Every counter stands at the number of documents of its tenant, and these bear
the numbers up to it. -/
structure Store.Numbered (s : Store) : Prop where
  orders : ∀ tenantId, Gapless (prisma.order.numbers Order.tenantId Order.orderNumber)
    (Store.counted "order_number") (documentNumber orderNumberOptions) tenantId s
  invoices : ∀ tenantId, Gapless (prisma.invoice.numbers Invoice.tenantId Invoice.invoiceNumber)
    (Store.counted "invoice_number") (documentNumber invoiceNumberOptions) tenantId s

theorem Store.numbered_of_empty {s : Store} (horders : s.orders = ∅) (hinvoices : s.invoices = ∅)
    (hcounters : s.counters = ∅) : s.Numbered := by
  have hcount : ∀ counter tenantId, s.counted counter tenantId = 0 := by
    intro counter tenantId
    rw [Store.counted, hcounters, Table.find_empty]
    rfl
  constructor
  · intro tenantId
    refine ⟨0, hcount _ _, ?_⟩
    change (s.orders.rows.filter _).map _ = []
    rw [horders]
    rfl
  · intro tenantId
    refine ⟨0, hcount _ _, ?_⟩
    change (s.invoices.rows.filter _).map _ = []
    rw [hinvoices]
    rfl

/-- The strings of a kind with the numbers from 1 on, in this order, and none of
them twice. -/
def InSequence (kind : String) (numbers : List String) : Prop :=
  numbers = (List.range numbers.length).map (fun k => kind ++ padStart (toString (k + 1)) 6 '0') ∧ numbers.Nodup

theorem inSequence_of_gapless {χ : Type} {docs : χ → Store → List String} {count : χ → Store → ℤ}
    {options : SequenceOptions} {x : χ} {s : Store} (hpadding : options.padding = 6)
    (h : Gapless docs count (documentNumber options) x s) : InSequence options.prefixText (docs x s) := by
  refine ⟨?_, h.nodup (fun m n => documentNumber_inj options)⟩
  obtain ⟨n, _, hdocs⟩ := h
  have hlength : (docs x s).length = n := by rw [hdocs, List.length_map, List.length_range]
  rw [hlength, hdocs, ← hpadding]
  rfl

section Runs

variable {ι : Type} [Fintype ι] [DecidableEq ι]

abbrev callMachine (s : Store) (calls : ι → Call) : Config ι Store Lock Failure Unit :=
  Config.start s (fun i => (calls i).program)

/-- In every run of any calls of any tenants, however many of their transactions
abort, the numbers of the orders and of the invoices of every tenant are at
every moment those from 1 on, in the order of the commits, and no later moment
changes them. -/
theorem documents_gapless (calls : ι → Call) {s : Store} (hs : s.Numbered) (before later : List (ι × Move Failure)) :
    let earlier := ((callMachine s calls).run before).db
    let now := ((callMachine s calls).run (before ++ later)).db
    now.Numbered ∧ ∀ tenantId,
      (InSequence "ORD-" (now.orderNumbers tenantId) ∧ earlier.orderNumbers tenantId <+: now.orderNumbers tenantId) ∧
      (InSequence "INV-" (now.invoiceNumbers tenantId) ∧
        earlier.invoiceNumbers tenantId <+: now.invoiceNumbers tenantId) := by
  intro earlier now
  have hrun : (callMachine s calls).run (before ++ later) = ((callMachine s calls).run before).run later :=
    runFrom_append _ _ _
  have horders := (Config.allNumbered_run (Config.allNumbered_start (fun i => (calls i).numbersOrders) hs.orders) before).1
  have hinvoices :=
    (Config.allNumbered_run (Config.allNumbered_start (fun i => (calls i).numbersInvoices) hs.invoices) before).1
  obtain ⟨horders', hgrown⟩ := Config.allNumbered_run horders later
  obtain ⟨hinvoices', hgrown'⟩ := Config.allNumbered_run hinvoices later
  rw [← hrun] at horders' hinvoices' hgrown hgrown'
  refine ⟨⟨horders'.gapless, hinvoices'.gapless⟩, fun tenantId => ⟨⟨?_, hgrown tenantId⟩, ?_, hgrown' tenantId⟩⟩
  · exact inSequence_of_gapless rfl (horders'.gapless tenantId)
  · exact inSequence_of_gapless rfl (hinvoices'.gapless tenantId)

end Runs

namespace Sample

def twoOrders (second : Bool) : Call :=
  if second then .createOrder (env "b") (.staff staff) { twoMonths with idempotencyKey := "other" }
  else .createOrder (env "a") (.staff staff) twoMonths

/-- The first call draws a number and is aborted; the second one runs to its
end. -/
def firstDropped : List (Bool × Move Failure) :=
  List.replicate 5 (false, .advance) ++ [(true, .advance), (false, .abort .uniqueViolation)] ++
    List.replicate 10 (true, .advance)

end Sample

open Sample in
/-- The number of the aborted call goes to the other one. -/
theorem documents_gapless_afterAbort :
    let drawn := (callMachine (shop 0) twoOrders).run (List.replicate 5 (false, .advance))
    let now := ((callMachine (shop 0) twoOrders).run ([] ++ firstDropped)).db
    (drawn.tasks false).held = [.counter ("tenant", "order_number")] ∧
      now.orderNumbers "tenant" = ["ORD-000001"] ∧ InSequence "ORD-" (now.orderNumbers "tenant") := by
  refine ⟨by decide +kernel, by decide +kernel, ?_⟩
  exact ((documents_gapless twoOrders (Store.numbered_of_empty rfl rfl rfl) [] firstDropped).2 "tenant").1.1

end HostPanel.Model

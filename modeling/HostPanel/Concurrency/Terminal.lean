import HostPanel.Lib.Absorbing
import HostPanel.Books.History
import HostPanel.Model.Actions

namespace HostPanel.Model

open HostPanel.Lib HostPanel.Lib.Program

/-- Where the entity of a locked row stands. -/
def Store.statusUnder : Lock → Store → Option Status
  | .client id, s => s.books.status .client id
  | .order id, s => s.books.status .order id
  | .invoice id, s => s.books.status .invoice id
  | _, _ => none

/-- A closed client or a cancelled invoice. -/
def Terminal (status : Option Status) : Prop :=
  status = some (.client .closed) ∨ status = some (.invoice .cancelled)

instance : DecidablePred Terminal := fun _ => inferInstanceAs (Decidable (_ ∨ _))

theorem statusUnder_client {s : Store} {id : Id} {client : Client} (h : s.clients.find id = some client) :
    s.statusUnder (.client id) = some (.client client.status) := congrArg (Option.map _) h

theorem statusUnder_invoice {s : Store} {id : Id} {invoice : Invoice} (h : s.invoices.find id = some invoice) :
    s.statusUnder (.invoice id) = some (.invoice invoice.status) := congrArg (Option.map _) h

theorem open_of_isValidClientTransition {client : Client} {toStatus : ClientStatus}
    (h : isValidClientTransition client.status toStatus = true) : ¬ Terminal (some (.client client.status)) := by
  rintro (hclosed | hcancelled)
  · rw [Status.client.inj (Option.some.inj hclosed)] at h
    simp [isValidClientTransition, clientTransitions] at h
  · cases hcancelled

theorem open_of_isValidInvoiceTransition {invoice : Invoice} {toStatus : InvoiceStatus}
    (h : isValidInvoiceTransition invoice.status toStatus = true) : ¬ Terminal (some (.invoice invoice.status)) := by
  rintro (hclosed | hcancelled)
  · cases hclosed
  · rw [Status.invoice.inj (Option.some.inj hcancelled)] at h
    simp [isValidInvoiceTransition, invoiceTransitions] at h

theorem open_of_payable {invoice : Invoice} (h : invoice.status ∈ payableStatuses) :
    ¬ Terminal (some (.invoice invoice.status)) := by
  rintro (hclosed | hcancelled)
  · cases hclosed
  · rw [Status.invoice.inj (Option.some.inj hcancelled)] at h
    exact absurd h (by decide)

theorem order_never_terminal (s : Store) (id : Id) : ¬ Terminal (s.statusUnder (.order id)) := by
  unfold Store.statusUnder Books.status
  cases s.books.orders.find id <;> simp [Terminal]

abbrev RespectsTerminal : Store → Store → Effect Store Lock → Prop := Config.Respects Store.statusUnder Terminal

section Writes

variable {seen view : Store} {eff : Effect Store Lock}

theorem respects_silent (h : ∀ l s, (eff.apply s).statusUnder l = s.statusUnder l) :
    RespectsTerminal seen view eff := by
  refine ⟨fun l => Or.inr (fun s => h l s), fun l => Or.inl (fun s hf => ?_)⟩
  rw [h]
  exact hf

/-- A write of one entity that its call last read in no terminal status. -/
theorem respects_write {l : Lock} (hlock : l ∈ eff.locks)
    (hother : ∀ l', l' ≠ l → ∀ s, (eff.apply s).statusUnder l' = s.statusUnder l')
    (hseen : ¬ Terminal (seen.statusUnder l)) : RespectsTerminal seen view eff := by
  constructor
  · intro l'
    by_cases hl : l' = l
    · exact Or.inl (hl ▸ hlock)
    · exact Or.inr (hother l' hl)
  · intro l'
    by_cases hl : l' = l
    · subst hl
      exact Or.inr ⟨hlock, hseen⟩
    · refine Or.inl (fun s hf => ?_)
      rw [hother l' hl]
      exact hf

theorem respects_client {id : Id} {f : Client → Client} {hf : ∀ r, (f r).id = r.id}
    (hseen : ¬ Terminal (seen.statusUnder (.client id))) :
    RespectsTerminal seen view ⟨[prisma.client.lock id], prisma.client.modify id f hf⟩ := by
  apply respects_write (l := .client id) (List.mem_singleton.mpr rfl) _ hseen
  intro l hl s
  cases l with
  | client i =>
    have hi : i ≠ id := fun he => hl (he ▸ rfl)
    exact congrArg (Option.map _) (Table.find_modify_ne s.clients f hf hi)
  | _ => rfl

theorem respects_order {id : Id} {f : Order → Order} {hf : ∀ r, (f r).id = r.id} :
    RespectsTerminal seen view ⟨[prisma.order.lock id], prisma.order.modify id f hf⟩ := by
  apply respects_write (l := .order id) (List.mem_singleton.mpr rfl) _ (order_never_terminal seen id)
  intro l hl s
  cases l with
  | order i =>
    have hi : i ≠ id := fun he => hl (he ▸ rfl)
    exact congrArg (Option.map _) (Table.find_modify_ne s.orders f hf hi)
  | _ => rfl

theorem respects_invoice {id : Id} {f : Invoice → Invoice} {hf : ∀ r, (f r).id = r.id}
    (hseen : ¬ Terminal (seen.statusUnder (.invoice id))) :
    RespectsTerminal seen view ⟨[prisma.invoice.lock id], prisma.invoice.modify id f hf⟩ := by
  apply respects_write (l := .invoice id) (List.mem_singleton.mpr rfl) _ hseen
  intro l hl s
  cases l with
  | invoice i =>
    have hi : i ≠ id := fun he => hl (he ▸ rfl)
    exact congrArg (Option.map _) (Table.find_modify_ne s.invoices f hf hi)
  | _ => rfl

theorem respects_clientEdit {id : Id} {f : Client → Client} {hf : ∀ r, (f r).id = r.id}
    (hstatus : ∀ r, (f r).status = r.status) :
    RespectsTerminal seen view ⟨[prisma.client.lock id], prisma.client.modify id f hf⟩ := by
  apply respects_silent
  intro l s
  cases l with
  | client i =>
    refine Table.find_modify_map s.clients id f hf (fun r => Status.client r.status) (fun r => ?_) i
    rw [hstatus]
  | _ => rfl

end Writes

/-- The statements of a program respect terminal statuses, whatever was read
before. -/
def Obeys {α : Type} (p : Db α) : Prop := ∀ seen, p.Ensures RespectsTerminal (fun _ _ => True) seen

section Programs

variable {α β : Type}

theorem Obeys.bind {p : Db α} {f : α → Db β} (hp : Obeys p) (hf : ∀ a, Obeys (f a)) : Obeys (p >>= f) := by
  intro seen
  rw [ensures_bind]
  exact (hp seen).mono (fun a v _ => hf a v)

theorem obeys_ret (a : α) : Obeys (.ret a : Db α) := fun _ => trivial

theorem Obeys.transaction {p : Db α} (hp : Obeys p) : Obeys (transaction p) :=
  hp.bind (fun _ _ => trivial)

theorem obeys_ensure (p : Prop) [Decidable p] (e : Failure) : Obeys (ensure p e) :=
  fun _ => ensures_ensure.mpr (fun _ => trivial)

theorem obeys_lift (x : Except Failure α) : Obeys (lift x) := fun _ => ensures_lift.mpr (fun _ _ => trivial)

theorem obeys_recordStatusTransition (row : StatusHistory) : Obeys (recordStatusTransition row) :=
  fun _ => ensures_recordStatusTransition.mpr (fun _ _ => ⟨respects_silent (fun l _ => by cases l <;> rfl), trivial⟩)

theorem obeys_recordAuditLog (row : AuditLog) : Obeys (recordAuditLog row) :=
  fun _ => ensures_recordAuditLog.mpr (fun _ _ => ⟨respects_silent (fun l _ => by cases l <;> rfl), trivial⟩)

theorem obeys_whenTruthy {text : Option String} {k : String → Db Unit} (hk : ∀ t, Obeys (k t)) :
    Obeys (whenTruthy text k) :=
  fun seen => ensures_whenTruthy trivial (fun t _ _ => hk t seen)

theorem obeys_transitionClientStatus (env : Env) (clientId : Id) (toStatus : ClientStatus) (actor : TransitionActor)
    (reason : Option String) : Obeys (transitionClientStatus env clientId toStatus actor reason) := by
  intro seen
  simp only [transitionClientStatus, ensures_bind, Relation.ensures_findUniqueOrThrow, ensures_ensure,
    Relation.ensures_update]
  intro v client hfound hvalid w r _
  have hopen : ¬ Terminal (v.statusUnder (.client clientId)) := by
    rw [statusUnder_client hfound]
    exact open_of_isValidClientTransition hvalid
  refine ⟨respects_client hopen, ?_⟩
  rw [← ensures_bind]
  exact (obeys_recordStatusTransition _).bind (fun _ => obeys_ret _) v

theorem obeys_transitionInvoiceStatus (invoiceId : Id) (toStatus : InvoiceStatus) (actor : TransitionActor)
    (reason : Option String) : Obeys (transitionInvoiceStatus invoiceId toStatus actor reason) := by
  intro seen
  simp only [transitionInvoiceStatus, ensures_bind, Relation.ensures_findUniqueOrThrow, ensures_ensure,
    Relation.ensures_update]
  intro v invoice hfound hvalid w r _
  have hopen : ¬ Terminal (v.statusUnder (.invoice invoiceId)) := by
    rw [statusUnder_invoice hfound]
    exact open_of_isValidInvoiceTransition hvalid
  refine ⟨respects_invoice hopen, ?_⟩
  rw [← ensures_bind]
  exact (obeys_recordStatusTransition _).bind (fun _ => obeys_ret _) v

theorem obeys_transitionOrderStatus (orderId : Id) (toStatus : OrderStatus) (actor : TransitionActor)
    (reason : Option String) : Obeys (transitionOrderStatus orderId toStatus actor reason) := by
  intro seen
  simp only [transitionOrderStatus, ensures_bind, Relation.ensures_findUniqueOrThrow, ensures_ensure,
    Relation.ensures_update]
  intro v order _ _ w r _
  refine ⟨respects_order, ?_⟩
  simp only [← ensures_bind]
  apply (obeys_recordStatusTransition _).bind
  intro _
  apply (obeys_whenTruthy (fun _ => obeys_recordAuditLog _)).bind
  exact fun _ => obeys_ret _

section Rows

variable {ρ ι : Type} [DecidableEq ι] {key : ρ → ι} {R : Relation key}

omit [DecidableEq ι] in
theorem obeys_findFirst (p : ρ → Bool) : Obeys (R.findFirst p) :=
  fun _ => Relation.ensures_findFirst.mpr (fun _ => trivial)

theorem obeys_findUniqueOrThrow (i : ι) : Obeys (R.findUniqueOrThrow i) :=
  fun _ => Relation.ensures_findUniqueOrThrow.mpr (fun _ _ _ => trivial)

theorem obeys_update {i : ι} {f : ρ → ρ} {hf : ∀ r, key (f r) = key r}
    (h : ∀ l s, (R.modify i f hf s).statusUnder l = s.statusUnder l) : Obeys (R.update i f hf) :=
  fun _ => Relation.ensures_update.mpr (fun _ _ _ => ⟨respects_silent h, trivial⟩)

end Rows

theorem obeys_orThrow (x : Option α) (e : Failure) : Obeys (orThrow x e) := by
  intro seen
  cases x <;> trivial

theorem obeys_queueEmail (env : Env) (row : EmailLog) : Obeys (queueEmail env row) := by
  apply Obeys.bind
  · apply Obeys.transaction
    intro seen v eff he
    obtain rfl := effect_of_appendLog he
    exact ⟨respects_silent (fun l _ => by cases l <;> rfl), trivial⟩
  · exact fun _ => obeys_ensure _ _

theorem obeys_verifyPending (env : Env) (client : Client) (contactId : Id) :
    Obeys (verifyPending env client contactId) := by
  unfold verifyPending
  split
  · apply (obeys_transitionClientStatus _ _ _ _ _).bind
    intro _
    apply Obeys.bind
    · exact fun _ => Relation.ensures_update.mpr (fun _ _ _ => ⟨respects_clientEdit (fun _ => rfl), trivial⟩)
    · exact fun _ => obeys_ret _
  · exact obeys_ret _

theorem obeys_markVerified (env : Env) (record : EmailVerificationToken) (contact : ClientContact) :
    Obeys (markVerified env record contact) := by
  apply (obeys_update (fun l _ => by cases l <;> rfl)).bind
  intro _
  apply (obeys_update (fun l _ => by cases l <;> rfl)).bind
  intro _
  apply (obeys_findUniqueOrThrow _).bind
  exact fun client => obeys_verifyPending env client contact.id

theorem obeys_verifyClientEmail (env : Env) (token : String) : Obeys (verifyClientEmail env token) := by
  apply (obeys_findFirst _).bind
  intro found
  apply (obeys_orThrow _ _).bind
  intro record
  apply (obeys_findUniqueOrThrow _).bind
  intro contact
  apply (obeys_markVerified env record contact).transaction.bind
  exact fun _ => obeys_queueEmail env _

theorem obeys_changeClientStatus (env : Env) (actor : StaffActor) (clientId : Id) (toStatus : ClientStatus)
    (reason : String) : Obeys (changeClientStatus env actor clientId toStatus reason) := by
  apply (obeys_ensure _ _).bind
  intro _
  apply Obeys.transaction
  apply (obeys_transitionClientStatus _ _ _ _ _).bind
  exact fun _ => obeys_recordAuditLog _

theorem obeys_cancelInvoice (actor : StaffActor) (invoiceId : Id) (reason : String) :
    Obeys (cancelInvoice actor invoiceId reason) := by
  apply (obeys_ensure _ _).bind
  intro _
  apply Obeys.transaction
  apply (obeys_transitionInvoiceStatus _ _ _ _).bind
  intro _
  apply (obeys_recordAuditLog _).bind
  exact fun _ => obeys_ret _

theorem obeys_settleOrder (actor : StaffActor) (invoice : Invoice) (nextStatus : InvoiceStatus) :
    Obeys (settleOrder actor invoice nextStatus) := by
  unfold settleOrder
  split
  · apply obeys_whenTruthy
    intro orderId
    apply (obeys_transitionOrderStatus _ _ _ _).bind
    exact fun _ => obeys_ret _
  · exact obeys_ret _

theorem obeys_markInvoicePaidManually (env : Env) (actor : StaffActor) (invoiceId : Id) (input : PaymentInput) :
    Obeys (markInvoicePaidManually env actor invoiceId input) := by
  apply (obeys_ensure _ _).bind
  intro _
  apply (obeys_lift _).bind
  intro amount
  apply Obeys.transaction
  intro seen
  simp only [ensures_bind, Relation.ensures_findUniqueOrThrow, ensures_ensure, ensures_lift, Relation.ensures_update]
  intro v invoice hfound hpayable current _ payment _ newPaid _ total _ _ paid _ due _ w r _
  have hopen : ¬ Terminal (v.statusUnder (.invoice invoiceId)) := by
    rw [statusUnder_invoice hfound]
    exact open_of_payable hpayable
  refine ⟨respects_invoice hopen, ?_⟩
  simp only [← ensures_bind]
  apply (obeys_recordStatusTransition _).bind
  intro _
  apply (obeys_recordAuditLog _).bind
  intro _
  apply (obeys_settleOrder _ _ _).bind
  exact fun _ => obeys_ret _

end Programs

/-- The calls that move clients and invoices along. -/
def Call.MovesStatus : Call → Prop
  | changeClientStatus .. | verifyClientEmail .. | cancelInvoice .. | markInvoicePaidManually .. => True
  | _ => False

theorem obeys_program {call : Call} (h : call.MovesStatus) : Obeys call.program := by
  cases call with
  | changeClientStatus env actor clientId toStatus reason => exact obeys_changeClientStatus env actor clientId toStatus reason
  | verifyClientEmail env token => exact obeys_verifyClientEmail env token
  | cancelInvoice actor invoiceId reason => exact (obeys_cancelInvoice actor invoiceId reason).bind (fun _ => obeys_ret _)
  | markInvoicePaidManually env actor invoiceId input =>
    exact (obeys_markInvoicePaidManually env actor invoiceId input).bind (fun _ => obeys_ret _)
  | _ => exact h.elim

/-- Closed clients are still closed and cancelled invoices still cancelled. -/
structure TerminalKept (s s' : Store) : Prop where
  clients : ∀ id client, s.clients.find id = some client → client.status = .closed →
    ∃ client', s'.clients.find id = some client' ∧ client'.status = .closed
  invoices : ∀ id invoice, s.invoices.find id = some invoice → invoice.status = .cancelled →
    ∃ invoice', s'.invoices.find id = some invoice' ∧ invoice'.status = .cancelled

theorem terminalKept_of_final {s s' : Store} (h : ∀ l, Terminal (s.statusUnder l) → Terminal (s'.statusUnder l)) :
    TerminalKept s s' := by
  constructor
  · intro id client hfound hclosed
    have hstatus : s.statusUnder (.client id) = some (.client .closed) := by
      rw [← hclosed]
      exact statusUnder_client hfound
    have hafter : Terminal ((s'.clients.find id).map (fun r => .client r.status)) :=
      h (.client id) (Or.inl hstatus)
    cases hfound' : s'.clients.find id with
    | none => simp [hfound', Terminal] at hafter
    | some client' => exact ⟨client', rfl, by simpa [hfound', Terminal] using hafter⟩
  · intro id invoice hfound hcancelled
    have hstatus : s.statusUnder (.invoice id) = some (.invoice .cancelled) := by
      rw [← hcancelled]
      exact statusUnder_invoice hfound
    have hafter : Terminal ((s'.invoices.find id).map (fun r => .invoice r.status)) :=
      h (.invoice id) (Or.inr hstatus)
    cases hfound' : s'.invoices.find id with
    | none => simp [hfound', Terminal] at hafter
    | some invoice' => exact ⟨invoice', rfl, by simpa [hfound', Terminal] using hafter⟩

section Runs

variable {ι : Type} [Fintype ι] [DecidableEq ι]

/-- In every run in which no write finds its row in a terminal status that its
call had not read, terminal statuses are absorbing. -/
theorem terminal_absorbing {calls : ι → Call} (hcalls : ∀ i, (calls i).MovesStatus) (s : Store)
    {before later : List (ι × Move Failure)}
    (hn : Config.Along (Config.NotOvertaken Store.statusUnder Terminal) (Config.start s (fun i => (calls i).program))
      (before ++ later)) :
    TerminalKept ((Config.start s (fun i => (calls i).program)).run before).db
      ((Config.start s (fun i => (calls i).program)).run (before ++ later)).db := by
  apply terminalKept_of_final
  intro l hl
  exact Config.run_final (fun i => obeys_program (hcalls i) s) hn hl

end Runs

namespace Sample

/-- One call closes the client, the other suspends it. -/
def closeAndSuspend (second : Bool) : Call :=
  .changeClientStatus (env "z") staff "client" (if second then .suspended else .closed) "review"

/-- One call cancels the invoice, the other records a part payment of it. -/
def cancelAndPay (second : Bool) : Call :=
  if second then .markInvoicePaidManually (env "pay") staff "id-a2" { amount := .integer 300 }
  else .cancelInvoice staff "id-a2" "mistake"

def start (s : Store) (calls : Bool → Call) : Config Bool Store Lock Failure Unit :=
  .start s (fun i => (calls i).program)

/-- Both calls read their row, then the first one writes and commits. -/
def overtaking : List (Bool × Move Failure) :=
  [(false, .advance), (true, .advance)] ++ List.replicate 4 (false, .advance)

def late : List (Bool × Move Failure) := List.replicate 5 (true, .advance)

end Sample

open Sample in
/-- A closed client is suspended and a cancelled invoice paid, by a call that
read the row before. -/
theorem terminal_overwritten :
    ¬ TerminalKept ((start (shop 0) closeAndSuspend).run overtaking).db
        ((start (shop 0) closeAndSuspend).run (overtaking ++ late)).db ∧
      ¬ TerminalKept ((start billed cancelAndPay).run overtaking).db
        ((start billed cancelAndPay).run (overtaking ++ late)).db := by
  constructor
  · intro h
    have hclosed : (((start (shop 0) closeAndSuspend).run overtaking).db.clients.find "client").map Client.status =
        some .closed := by decide +kernel
    have hafter : (((start (shop 0) closeAndSuspend).run (overtaking ++ late)).db.clients.find "client").map
        Client.status = some .suspended := by decide +kernel
    obtain ⟨client, hfound, hstatus⟩ := Option.map_eq_some_iff.mp hclosed
    obtain ⟨client', hfound', hstatus'⟩ := h.clients "client" client hfound hstatus
    rw [hfound', Option.map_some, hstatus'] at hafter
    cases hafter
  · intro h
    have hcancelled : (((start billed cancelAndPay).run overtaking).db.invoices.find "id-a2").map Invoice.status =
        some .cancelled := by decide +kernel
    have hafter : (((start billed cancelAndPay).run (overtaking ++ late)).db.invoices.find "id-a2").map
        Invoice.status = some .partiallyPaid := by decide +kernel
    obtain ⟨invoice, hfound, hstatus⟩ := Option.map_eq_some_iff.mp hcancelled
    obtain ⟨invoice', hfound', hstatus'⟩ := h.invoices "id-a2" invoice hfound hstatus
    rw [hfound', Option.map_some, hstatus'] at hafter
    cases hafter

open Sample in
theorem terminal_absorbing_inTurn :
    (((start (shop 0) closeAndSuspend).run (List.replicate 5 (false, .advance))).db.clients.find "client").map
        Client.status = some .closed ∧
      TerminalKept ((start (shop 0) closeAndSuspend).run (List.replicate 5 (false, .advance))).db
        ((start (shop 0) closeAndSuspend).run (List.replicate 5 (false, .advance) ++ late)).db := by
  have hn : Config.Along (Config.NotOvertaken Store.statusUnder Terminal) (start (shop 0) closeAndSuspend)
      (List.replicate 5 (false, .advance) ++ late) := by
    decide +kernel
  have hcalls : ∀ i, (closeAndSuspend i).MovesStatus := fun _ => trivial
  exact ⟨by decide +kernel, terminal_absorbing hcalls (shop 0) hn⟩

end HostPanel.Model

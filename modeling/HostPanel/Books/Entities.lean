import HostPanel.Lib.Audit
import HostPanel.Access.Invites
import HostPanel.Billing.Resubmission
import HostPanel.Model.Settings

namespace HostPanel.Model

open HostPanel.Lib HostPanel.Lib.Program

/-- What is stored of one entity: its row, the notes of a client and the sessions
of a staff user with it. -/
inductive EntityState where
  | client (row : Option Client) (notes : List ClientNote)
  | staffUser (row : Option StaffUser) (sessions : List StaffSession)
  | productGroup (row : Option ProductGroup)
  | product (row : Option Product)
  | productPrice (row : Option ProductPrice)
  | order (row : Option Order)
  | invoice (row : Option Invoice)
  | systemSetting (rows : List SystemSetting)
  | other

/-- An entity as the rows of the log name it. The kinds without a state are
written by none of the calls below. -/
def Store.entity (s : Store) : AuditEntityType × Id → EntityState
  | (.client, id) => .client (s.clients.find id) (s.clientNotes.rows.filter (fun r => r.clientId == id))
  | (.staffUser, id) => .staffUser (s.staffUsers.find id) (s.staffSessions.rows.filter (fun r => r.userId == id))
  | (.productGroup, id) => .productGroup (s.productGroups.find id)
  | (.product, id) => .product (s.products.find id)
  | (.productPrice, id) => .productPrice (s.productPrices.find id)
  | (.order, id) => .order (s.orders.find id)
  | (.invoice, id) => .invoice (s.invoices.find id)
  | (.systemSetting, id) => .systemSetting (s.systemSettings.rows.filter (fun r => r.id == id))
  | (.clientContact, _) | (.role, _) | (.staffSession, _) | (.clientSession, _) | (.impersonation, _) => .other

/-- The row is about the entity, or about the price that replaced it, and names
the actor, where there is one. -/
structure AuditLog.Names (row : AuditLog) (actorId : Option Id) (entity : AuditEntityType × Id) : Prop where
  entity : (row.entityType, row.entityId) = entity ∨
    entity.1 = .productPrice ∧ row.metadata = some [("closedPreviousPriceId", .scalar (.str entity.2))]
  actor : ∀ id, actorId = some id → row.actorId = some id

/-- The log as an audit of the entities, for calls of one actor. -/
def auditOf (actorId : Option Id) : Audit Store (AuditEntityType × Id) EntityState AuditLog where
  value := Store.entity
  log := Store.auditLogs
  names row entity := row.Names actorId entity

/-- The entities of one kind are the rows of a table: those of the other kinds
do not see it, and one of this kind only its own row. -/
def Relation.Backs {ρ : Type} {key : ρ → Id} (R : Relation key) (type : AuditEntityType) : Prop :=
  ∀ (t : Table key) (s : Store) (e : AuditEntityType × Id),
    (e.1 = type → t.find e.2 = (R.get s).find e.2) → (R.set t s).entity e = s.entity e

theorem backs_client : prisma.client.Backs .client := by
  rintro t s ⟨type, id⟩ h
  cases type <;> first | rfl | exact congrArg (fun r => EntityState.client r _) (h rfl)

theorem backs_staffUser : prisma.staffUser.Backs .staffUser := by
  rintro t s ⟨type, id⟩ h
  cases type <;> first | rfl | exact congrArg (fun r => EntityState.staffUser r _) (h rfl)

theorem backs_productGroup : prisma.productGroup.Backs .productGroup := by
  rintro t s ⟨type, id⟩ h
  cases type <;> first | rfl | exact congrArg EntityState.productGroup (h rfl)

theorem backs_product : prisma.product.Backs .product := by
  rintro t s ⟨type, id⟩ h
  cases type <;> first | rfl | exact congrArg EntityState.product (h rfl)

theorem backs_productPrice : prisma.productPrice.Backs .productPrice := by
  rintro t s ⟨type, id⟩ h
  cases type <;> first | rfl | exact congrArg EntityState.productPrice (h rfl)

theorem backs_order : prisma.order.Backs .order := by
  rintro t s ⟨type, id⟩ h
  cases type <;> first | rfl | exact congrArg EntityState.order (h rfl)

theorem backs_invoice : prisma.invoice.Backs .invoice := by
  rintro t s ⟨type, id⟩ h
  cases type <;> first | rfl | exact congrArg EntityState.invoice (h rfl)

section Frames

variable {ρ : Type} {key : ρ → Id} {R : Relation key} {type : AuditEntityType}

theorem Relation.Backs.modify (hR : R.Backs type) {i : Id} {f : ρ → ρ} (hf : ∀ r, key (f r) = key r) (s : Store)
    {e : AuditEntityType × Id} (he : e ≠ (type, i)) : (R.modify i f hf s).entity e = s.entity e := by
  refine hR _ s e (fun htype => Table.find_modify_ne _ f hf (fun hid => he ?_))
  exact Prod.ext htype hid

theorem Relation.Backs.insert (hR : R.Backs type) (row : ρ) (s : Store) {e : AuditEntityType × Id}
    (he : e ≠ (type, key row)) : (R.insert row s).entity e = s.entity e := by
  refine hR _ s e (fun htype => Table.find_insert_ne _ row (fun hid => he ?_))
  exact Prod.ext htype hid

end Frames

theorem entity_modifySessions {p : StaffSession → Bool} {f : StaffSession → StaffSession}
    (hf : ∀ r, (f r).id = r.id) (huser : ∀ r, (f r).userId = r.userId) {userId : Id}
    (hp : ∀ r, p r = true → r.userId = userId) (s : Store) {e : AuditEntityType × Id} (he : e ≠ (.staffUser, userId)) :
    (prisma.staffSession.modifyWhere p f hf s).entity e = s.entity e := by
  obtain ⟨type, id⟩ := e
  cases type <;> try rfl
  have hid : userId ≠ id := fun h => he (h ▸ rfl)
  refine congrArg (EntityState.staffUser _) (Table.filter_updateWhere _ hf (fun r _ hr => ?_))
  have hr' := hp r hr
  simp [huser, hr', hid]

theorem entity_modifySetting {ref : Id × String} {f : SystemSetting → SystemSetting} (hf : ∀ r, (f r).ref = r.ref)
    (hid : ∀ r, (f r).id = r.id) {s : Store} {row : SystemSetting} (hrow : s.systemSettings.find ref = some row)
    {e : AuditEntityType × Id} (he : e ≠ (.systemSetting, row.id)) :
    (prisma.systemSetting.modify ref f hf s).entity e = s.entity e := by
  obtain ⟨type, id⟩ := e
  cases type <;> try rfl
  have hne : row.id ≠ id := fun h => he (h ▸ rfl)
  refine congrArg EntityState.systemSetting (Table.filter_updateWhere _ hf (fun r hr hp => ?_))
  have hsame : r = row :=
    Table.eq_of_mem hr (Table.mem_of_find hrow) ((of_decide_eq_true hp).trans (Table.key_of_find hrow).symm)
  simp [hid, hsame, hne]

theorem entity_insertSetting (row : SystemSetting) (s : Store) {e : AuditEntityType × Id}
    (he : e ≠ (.systemSetting, row.id)) : (prisma.systemSetting.insert row s).entity e = s.entity e := by
  obtain ⟨type, id⟩ := e
  cases type <;> try rfl
  have hne : row.id ≠ id := fun h => he (h ▸ rfl)
  refine congrArg EntityState.systemSetting (Table.filter_insert _ ?_)
  simp [hne]

end HostPanel.Model

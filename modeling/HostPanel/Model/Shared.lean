import HostPanel.Model.Database
import HostPanel.Model.Money

namespace HostPanel.Model

open HostPanel.Lib HostPanel.Lib.Program

inductive PermissionKey where
  | clientsRead
  | clientsWrite
  | clientsContactsManage
  | clientsImpersonate
  | productsRead
  | productsWrite
  | ordersRead
  | ordersWrite
  | invoicesRead
  | invoicesWrite
  | paymentsRead
  | paymentsRefund
  | domainsManage
  | provisioningManage
  | supportManage
  | staffManage
  | rolesManage
  | settingsManage
  | reportsFinance
  | auditRead
deriving DecidableEq

def PermissionKey.name : PermissionKey → String
  | clientsRead => "clients.read"
  | clientsWrite => "clients.write"
  | clientsContactsManage => "clients.contacts.manage"
  | clientsImpersonate => "clients.impersonate"
  | productsRead => "products.read"
  | productsWrite => "products.write"
  | ordersRead => "orders.read"
  | ordersWrite => "orders.write"
  | invoicesRead => "invoices.read"
  | invoicesWrite => "invoices.write"
  | paymentsRead => "payments.read"
  | paymentsRefund => "payments.refund"
  | domainsManage => "domains.manage"
  | provisioningManage => "provisioning.manage"
  | supportManage => "support.manage"
  | staffManage => "staff.manage"
  | rolesManage => "roles.manage"
  | settingsManage => "settings.manage"
  | reportsFinance => "reports.finance"
  | auditRead => "audit.read"

structure StaffActor where
  id : Id
  tenantId : Id
  label : String
  permissions : List String
deriving DecidableEq

structure ClientPortalActor where
  id : Id
  clientId : Id
  tenantId : Id
  label : String
  permissions : List String := []
deriving DecidableEq

/-- `ClientPortalActor | StaffActor`, told apart by its `type`. -/
inductive Actor where
  | clientContact (actor : ClientPortalActor)
  | staff (actor : StaffActor)

namespace Actor

def type : Actor → AuditActorType
  | clientContact _ => .clientContact
  | staff _ => .staff

def id : Actor → Id
  | clientContact a => a.id
  | staff a => a.id

def tenantId : Actor → Id
  | clientContact a => a.tenantId
  | staff a => a.tenantId

def label : Actor → String
  | clientContact a => a.label
  | staff a => a.label

end Actor

structure TransitionActor where
  type : AuditActorType
  id : Option Id
  label : Option String := none

def hasPermission (permissions : List String) (permission : PermissionKey) : Bool :=
  decide (permission.name ∈ permissions)

def requirePermission (permissions : List String) (permission : PermissionKey) : Db Unit :=
  ensure (hasPermission permissions permission = true)
    (.app .authorization "authorization.permission_denied" "You do not have permission to perform this action."
      [("requiredPermission", .scalar (.str permission.name))])

/-- A JavaScript value that may be missing, tested by `if`: the empty string
counts as missing. -/
def whenTruthy (s : Option String) (k : String → Db Unit) : Db Unit :=
  match s with
  | none => .ret ()
  | some t => if t = "" then .ret () else k t

def Store.withStatusHistory (s : Store) (row : StatusHistory) : Store :=
  { s with statusHistories := s.statusHistories ++ [row] }

def Store.withAuditLog (s : Store) (row : AuditLog) : Store :=
  { s with auditLogs := s.auditLogs ++ [row] }

/-- An audit row that is written only for an actor with a label. -/
def Store.withLabelledAudit (s : Store) (label : Option String) (row : String → AuditLog) : Store :=
  match label with
  | none => s
  | some text => if text = "" then s else s.withAuditLog (row text)

theorem Store.of_withLabelledAudit {P : Store → Prop} {s : Store} {label : Option String} {row : String → AuditLog}
    (hsame : P s) (hlogged : ∀ text, P (s.withAuditLog (row text))) : P (s.withLabelledAudit label row) := by
  unfold Store.withLabelledAudit
  cases label with
  | none => exact hsame
  | some text =>
    by_cases ht : text = ""
    · simp only [if_pos ht]
      exact hsame
    · simp only [if_neg ht]
      exact hlogged text

/-- An insert into a log, for a tenant that exists. -/
def appendLog (tenantId : Id) (append : Store → Store) : Db Unit :=
  .exec (fun v => if v.hasTenant tenantId = true then .ok ⟨[], append⟩ else .error .foreignKeyViolation)
    (fun _ => .ret ())

def recordStatusTransition (row : StatusHistory) : Db Unit := appendLog row.tenantId (fun s => s.withStatusHistory row)

def recordAuditLog (row : AuditLog) : Db Unit := appendLog row.tenantId (fun s => s.withAuditLog row)

structure SequenceOptions where
  prefixText : String
  padding : ℕ

def padStart (text : String) (length : ℕ) (fill : Char) : String :=
  String.ofList (List.replicate (length - text.toList.length) fill ++ text.toList)

def sequenceNumber (options : SequenceOptions) (value : Int4) : String :=
  options.prefixText ++ padStart (toString value.val) options.padding '0'

/-- The value an increment of the counter gives it, 1 when it is new. -/
def Store.incremented (s : Store) (ref : Id × String) : Except Failure Int4 :=
  match s.counters.find ref with
  | none => if s.hasTenant ref.1 = true then toInt4 (.integer 1) else .error .foreignKeyViolation
  | some counter => toInt4 (.integer (counter.value.val + 1))

def Store.withCounter (s : Store) (ref : Id × String) (value : Int4) : Store :=
  { s with
    counters := (s.counters.modify ref (fun counter => { counter with value := value })).insert
      ⟨ref.1, ref.2, value⟩ }

/-- `INSERT ... ON CONFLICT DO UPDATE SET value = value + 1`. -/
def upsertCounter (ref : Id × String) : Db Int4 :=
  .exec
    (fun v => (v.incremented ref).map (fun value => ⟨[prisma.counter.lock ref], fun s => s.withCounter ref value⟩))
    (fun v =>
      match v.counters.find ref with
      | some counter => .ret counter.value
      | none => .raise .recordNotFound)

def nextSequenceNumber (tenantId : Id) (key : String) (options : SequenceOptions) : Db String := do
  let value ← upsertCounter (tenantId, key)
  return sequenceNumber options value

def companyProfileSettingKey : String := "company_profile"

def getSetting (tenantId : Id) (key : String) : Db (Option JsonObject) := do
  let row ← prisma.systemSetting.findUnique (tenantId, key)
  return row.map SystemSetting.value

def getCompanyProfile (tenantId : Id) : Db JsonObject := do
  let profile ← getSetting tenantId companyProfileSettingKey
  return profile.getD [("name", .scalar (.str "HostPanel"))]

theorem find_withCounter (s : Store) (ref : Id × String) (value : Int4) :
    (s.withCounter ref value).counters.find ref = some ⟨ref.1, ref.2, value⟩ := by
  have hm : (s.counters.modify ref (fun counter => { counter with value := value })).find ref =
      (s.counters.find ref).map (fun counter => { counter with value := value }) :=
    Table.find_modify_self _ _ _ _
  cases h : s.counters.find ref with
  | none =>
    rw [h] at hm
    exact Table.find_insert_self (r := (⟨ref.1, ref.2, value⟩ : Counter)) hm
  | some counter =>
    have hk : counter.ref = ref := Table.key_of_find h
    rw [h] at hm
    subst hk
    exact Table.find_insert_of_find hm

def Store.companyProfile (s : Store) (tenantId : Id) : JsonObject :=
  ((s.systemSettings.find (tenantId, companyProfileSettingKey)).map SystemSetting.value).getD
    [("name", .scalar (.str "HostPanel"))]

section Evaluation

variable {β : Type} {c v : Store} {out : β × Store × Store}

theorem eval_requirePermission_bind {permissions : List String} {permission : PermissionKey}
    {k : Unit → Db β} :
    (requirePermission permissions permission >>= k).eval c v = .ok out ↔
      hasPermission permissions permission = true ∧ (k ()).eval c v = .ok out := eval_ensure_bind

theorem eval_appendLog_bind {tenantId : Id} {append : Store → Store} {k : Unit → Db β} :
    (appendLog tenantId append >>= k).eval c v = .ok out ↔
      v.hasTenant tenantId = true ∧ (k ()).eval c (append v) = .ok out := by
  by_cases h : v.hasTenant tenantId = true <;> simp [appendLog, eval_exec, h]

theorem eval_recordStatusTransition_bind {row : StatusHistory} {k : Unit → Db β} :
    (recordStatusTransition row >>= k).eval c v = .ok out ↔
      v.hasTenant row.tenantId = true ∧ (k ()).eval c (v.withStatusHistory row) = .ok out := eval_appendLog_bind

theorem eval_recordAuditLog_bind {row : AuditLog} {k : Unit → Db β} :
    (recordAuditLog row >>= k).eval c v = .ok out ↔
      v.hasTenant row.tenantId = true ∧ (k ()).eval c (v.withAuditLog row) = .ok out := eval_appendLog_bind

theorem eval_labelledAudit_bind {label : Option String} {row : String → AuditLog} {k : Unit → Db β}
    (h : ∀ text, v.hasTenant (row text).tenantId = true) :
    (whenTruthy label (fun text => recordAuditLog (row text)) >>= k).eval c v = .ok out ↔
      (k ()).eval c (v.withLabelledAudit label row) = .ok out := by
  cases label with
  | none => exact Iff.rfl
  | some text =>
    by_cases ht : text = ""
    · simp [whenTruthy, Store.withLabelledAudit, ht]
    · simp only [whenTruthy, Store.withLabelledAudit, if_neg ht, eval_recordAuditLog_bind, h text, true_and]

theorem eval_nextSequenceNumber_bind {tenantId : Id} {key : String} {options : SequenceOptions}
    {k : String → Db β} :
    (nextSequenceNumber tenantId key options >>= k).eval c v = .ok out ↔
      ∃ value, v.incremented (tenantId, key) = .ok value ∧
        (k (sequenceNumber options value)).eval c (v.withCounter (tenantId, key) value) = .ok out := by
  cases h : v.incremented (tenantId, key) with
  | error e => simp [nextSequenceNumber, upsertCounter, eval_exec, h, Except.map]
  | ok value =>
    have hf := find_withCounter v (tenantId, key) value
    simp [nextSequenceNumber, upsertCounter, eval_exec, h, Except.map, hf]

theorem eval_getCompanyProfile_bind {tenantId : Id} {k : JsonObject → Db β} :
    (getCompanyProfile tenantId >>= k).eval c v = .ok out ↔
      (k (v.companyProfile tenantId)).eval c v = .ok out := Iff.rfl

end Evaluation

section Contracts

theorem uncommitted_requirePermission (permissions : List String) (permission : PermissionKey) :
    (requirePermission permissions permission).Uncommitted := uncommitted_ensure _ _

theorem uncommitted_recordStatusTransition (row : StatusHistory) : (recordStatusTransition row).Uncommitted :=
  fun _ => trivial

theorem uncommitted_recordAuditLog (row : AuditLog) : (recordAuditLog row).Uncommitted :=
  fun _ => trivial

theorem uncommitted_whenTruthy {s : Option String} {k : String → Db Unit} (hk : ∀ t, (k t).Uncommitted) :
    (whenTruthy s k).Uncommitted := by
  cases s with
  | none => trivial
  | some t =>
    by_cases ht : t = "" <;> simp only [whenTruthy, ht, if_true, if_false]
    · trivial
    · exact hk t

theorem uncommitted_nextSequenceNumber (tenantId : Id) (key : String) (options : SequenceOptions) :
    (nextSequenceNumber tenantId key options).Uncommitted := by
  refine Uncommitted.bind ?_ (fun _ => trivial)
  intro v
  cases h : v.counters.find (tenantId, key) <;> simp only [h] <;> trivial

theorem uncommitted_getCompanyProfile (tenantId : Id) : (getCompanyProfile tenantId).Uncommitted :=
  fun _ => trivial

theorem effect_of_appendLog {tenantId : Id} {append : Store → Store} {v : Store} {eff : Effect Store Lock}
    (h : (if v.hasTenant tenantId = true then (.ok ⟨[], append⟩ : Except Failure (Effect Store Lock))
      else .error .foreignKeyViolation) = .ok eff) : eff = ⟨[], append⟩ := by
  split at h
  · exact (Except.ok.inj h).symm
  · cases h

theorem leaves_appendLog {α : Type} {π : Store → α} {tenantId : Id} {append : Store → Store}
    (h : ∀ t, π (append t) = π t) : (appendLog tenantId append).Leaves π := by
  refine ⟨?_, fun _ => trivial⟩
  intro v eff he
  obtain rfl := effect_of_appendLog he
  exact h

theorem leaves_recordStatusTransition {α : Type} {π : Store → α} (row : StatusHistory)
    (h : ∀ t : Store, π (t.withStatusHistory row) = π t) : (recordStatusTransition row).Leaves π := leaves_appendLog h

theorem leaves_recordAuditLog {α : Type} {π : Store → α} (row : AuditLog)
    (h : ∀ t : Store, π (t.withAuditLog row) = π t) : (recordAuditLog row).Leaves π := leaves_appendLog h

theorem leaves_whenTruthy {α : Type} {π : Store → α} {s : Option String} {k : String → Db Unit}
    (hk : ∀ t, (k t).Leaves π) : (whenTruthy s k).Leaves π := by
  cases s with
  | none => trivial
  | some t =>
    by_cases ht : t = "" <;> simp only [whenTruthy, ht, if_true, if_false]
    · trivial
    · exact hk t

variable {P : Store → Store → Effect Store Lock → Prop} {Q : Unit → Store → Prop} {seen : Store}

theorem ensures_appendLog {tenantId : Id} {append : Store → Store} :
    (appendLog tenantId append).Ensures P Q seen ↔
      ∀ v : Store, v.hasTenant tenantId = true → P seen v ⟨[], append⟩ ∧ Q () seen := by
  simp only [appendLog, Ensures]
  refine forall_congr' (fun v => ?_)
  by_cases h : v.hasTenant tenantId = true <;> simp [h]

theorem ensures_recordStatusTransition {row : StatusHistory} :
    (recordStatusTransition row).Ensures P Q seen ↔
      ∀ v : Store, v.hasTenant row.tenantId = true → P seen v ⟨[], fun s => s.withStatusHistory row⟩ ∧ Q () seen :=
  ensures_appendLog

theorem ensures_recordAuditLog {row : AuditLog} :
    (recordAuditLog row).Ensures P Q seen ↔
      ∀ v : Store, v.hasTenant row.tenantId = true → P seen v ⟨[], fun s => s.withAuditLog row⟩ ∧ Q () seen :=
  ensures_appendLog

theorem ensures_whenTruthy {s : Option String} {k : String → Db Unit} (h : Q () seen)
    (hk : ∀ t, s = some t → t ≠ "" → (k t).Ensures P Q seen) : (whenTruthy s k).Ensures P Q seen := by
  cases s with
  | none => exact h
  | some t =>
    by_cases ht : t = ""
    · rw [whenTruthy, if_pos ht]
      exact h
    · rw [whenTruthy, if_neg ht]
      exact hk t rfl ht

end Contracts

section Guarantees

variable {rel : Store → Store → Prop}

theorem guarantees_requirePermission (permissions : List String) (permission : PermissionKey) :
    (requirePermission permissions permission).Guarantees rel := guarantees_ensure _ _

theorem guarantees_appendLog {tenantId : Id} {append : Store → Store} (h : ∀ t, rel t (append t)) :
    (appendLog tenantId append).Guarantees rel := by
  refine ⟨?_, fun _ => trivial⟩
  intro v eff he
  obtain rfl := effect_of_appendLog he
  exact h

theorem guarantees_recordStatusTransition (row : StatusHistory) (h : ∀ t : Store, rel t (t.withStatusHistory row)) :
    (recordStatusTransition row).Guarantees rel := guarantees_appendLog h

theorem guarantees_recordAuditLog (row : AuditLog) (h : ∀ t : Store, rel t (t.withAuditLog row)) :
    (recordAuditLog row).Guarantees rel := guarantees_appendLog h

theorem guarantees_whenTruthy {s : Option String} {k : String → Db Unit} (hk : ∀ t, (k t).Guarantees rel) :
    (whenTruthy s k).Guarantees rel := by
  cases s with
  | none => trivial
  | some t =>
    by_cases ht : t = "" <;> simp only [whenTruthy, ht, if_true, if_false]
    · trivial
    · exact hk t

theorem guarantees_getCompanyProfile (tenantId : Id) : (getCompanyProfile tenantId).Guarantees rel := fun _ => trivial

theorem guarantees_nextSequenceNumber (tenantId : Id) (key : String) (options : SequenceOptions)
    (h : ∀ value (t : Store), rel t (t.withCounter (tenantId, key) value)) :
    (nextSequenceNumber tenantId key options).Guarantees rel := by
  refine Guarantees.bind ⟨fun v eff he => ?_, fun v => ?_⟩ (fun _ => trivial)
  · cases hv : v.incremented (tenantId, key) with
    | error e =>
      simp only [hv] at he
      cases he
    | ok value =>
      simp only [hv] at he
      cases he
      exact h value
  · cases hv : v.counters.find (tenantId, key) <;> simp only [hv] <;> trivial

end Guarantees

end HostPanel.Model

import HostPanel.Lib.Lockstep
import HostPanel.Model.Exports

namespace HostPanel.Model

open HostPanel.Lib HostPanel.Lib.Program

/-- The tables that tell what happened. -/
structure LogTables where
  statusHistories : List StatusHistory := []
  auditLogs : List AuditLog := []
  emailLogs : List EmailLog := []

instance : Append LogTables where
  append l m :=
    { statusHistories := l.statusHistories ++ m.statusHistories
      auditLogs := l.auditLogs ++ m.auditLogs
      emailLogs := l.emailLogs ++ m.emailLogs }

def Store.logs (s : Store) : LogTables where
  statusHistories := s.statusHistories
  auditLogs := s.auditLogs
  emailLogs := s.emailLogs

def Store.withLogs (s : Store) (l : LogTables) : Store :=
  { s with
    statusHistories := l.statusHistories
    auditLogs := l.auditLogs
    emailLogs := l.emailLogs }

/-- The tables without the logs. -/
def Store.unlogged (s : Store) : Store := s.withLogs {}

namespace LogTables

theorem append_assoc (l m rows : LogTables) : l ++ m ++ rows = l ++ (m ++ rows) := by
  change LogTables.mk (_ ++ _ ++ _) (_ ++ _ ++ _) (_ ++ _ ++ _) = _
  simp only [List.append_assoc]
  rfl

theorem append_empty (l : LogTables) : l ++ {} = l := by
  change LogTables.mk (l.statusHistories ++ []) (l.auditLogs ++ []) (l.emailLogs ++ []) = l
  simp only [List.append_nil]

end LogTables

theorem Store.eq_withLogs {s t : Store} (h : s.unlogged = t.unlogged) : s = t.withLogs s.logs := by
  have hlogs : s.unlogged.withLogs s.logs = t.unlogged.withLogs s.logs :=
    congrArg (fun u : Store => u.withLogs s.logs) h
  exact hlogs

/-- Two stores that differ at most in their logs, and there as `rel` says. -/
structure Store.Beside (rel : LogTables → LogTables → Prop) (s t : Store) : Prop where
  unlogged : s.unlogged = t.unlogged
  logs : rel s.logs t.logs

variable {ρ ι α : Type} {key : ρ → ι}

/-- The relation is of a table that is no log. -/
class Relation.Unlogged (R : Relation key) : Prop where
  get : ∀ s, R.get s.unlogged = R.get s
  set : ∀ t s, (R.set t s).unlogged = R.set t s.unlogged
  logs : ∀ t s, (R.set t s).logs = s.logs
  references : ∀ r s, R.references r s.unlogged = R.references r s

namespace prisma

instance : tenant.Unlogged := ⟨fun _ => rfl, fun _ _ => rfl, fun _ _ => rfl, fun _ _ => rfl⟩

instance : client.Unlogged := ⟨fun _ => rfl, fun _ _ => rfl, fun _ _ => rfl, fun _ _ => rfl⟩

instance : clientNote.Unlogged := ⟨fun _ => rfl, fun _ _ => rfl, fun _ _ => rfl, fun _ _ => rfl⟩

instance : clientContact.Unlogged := ⟨fun _ => rfl, fun _ _ => rfl, fun _ _ => rfl, fun _ _ => rfl⟩

instance : emailVerificationToken.Unlogged := ⟨fun _ => rfl, fun _ _ => rfl, fun _ _ => rfl, fun _ _ => rfl⟩

instance : passwordResetToken.Unlogged := ⟨fun _ => rfl, fun _ _ => rfl, fun _ _ => rfl, fun _ _ => rfl⟩

instance : role.Unlogged := ⟨fun _ => rfl, fun _ _ => rfl, fun _ _ => rfl, fun _ _ => rfl⟩

instance : permission.Unlogged := ⟨fun _ => rfl, fun _ _ => rfl, fun _ _ => rfl, fun _ _ => rfl⟩

instance : rolePermission.Unlogged := ⟨fun _ => rfl, fun _ _ => rfl, fun _ _ => rfl, fun _ _ => rfl⟩

instance : staffUser.Unlogged := ⟨fun _ => rfl, fun _ _ => rfl, fun _ _ => rfl, fun _ _ => rfl⟩

instance : staffSession.Unlogged := ⟨fun _ => rfl, fun _ _ => rfl, fun _ _ => rfl, fun _ _ => rfl⟩

instance : clientSession.Unlogged := ⟨fun _ => rfl, fun _ _ => rfl, fun _ _ => rfl, fun _ _ => rfl⟩

instance : loginEvent.Unlogged := ⟨fun _ => rfl, fun _ _ => rfl, fun _ _ => rfl, fun _ _ => rfl⟩

instance : productGroup.Unlogged := ⟨fun _ => rfl, fun _ _ => rfl, fun _ _ => rfl, fun _ _ => rfl⟩

instance : product.Unlogged := ⟨fun _ => rfl, fun _ _ => rfl, fun _ _ => rfl, fun _ _ => rfl⟩

instance : productPrice.Unlogged := ⟨fun _ => rfl, fun _ _ => rfl, fun _ _ => rfl, fun _ _ => rfl⟩

instance : order.Unlogged := ⟨fun _ => rfl, fun _ _ => rfl, fun _ _ => rfl, fun _ _ => rfl⟩

instance : invoice.Unlogged := ⟨fun _ => rfl, fun _ _ => rfl, fun _ _ => rfl, fun _ _ => rfl⟩

instance : systemSetting.Unlogged := ⟨fun _ => rfl, fun _ _ => rfl, fun _ _ => rfl, fun _ _ => rfl⟩

instance : counter.Unlogged := ⟨fun _ => rfl, fun _ _ => rfl, fun _ _ => rfl, fun _ _ => rfl⟩

end prisma

namespace Store.Beside

variable {rel : LogTables → LogTables → Prop} {s t : Store}

theorem congr (h : s.Beside rel t) {f : Store → α} (hf : ∀ u : Store, f u.unlogged = f u) : f s = f t := by
  rw [← hf s, ← hf t, h.unlogged]

theorem get (h : s.Beside rel t) (R : Relation key) [R.Unlogged] : R.get s = R.get t :=
  h.congr Relation.Unlogged.get

theorem references (h : s.Beside rel t) (R : Relation key) [R.Unlogged] (r : ρ) :
    R.references r s = R.references r t :=
  h.congr (Relation.Unlogged.references r)

theorem set (h : s.Beside rel t) (R : Relation key) [R.Unlogged] (rows : Table key) :
    (R.set rows s).Beside rel (R.set rows t) := by
  constructor
  · rw [Relation.Unlogged.set, Relation.Unlogged.set, h.unlogged]
  · rw [Relation.Unlogged.logs, Relation.Unlogged.logs]
    exact h.logs

end Store.Beside

namespace Relation

variable [DecidableEq ι] {R : Relation key} [R.Unlogged] {rel : LogTables → LogTables → Prop}

theorem beside_modify {s t : Store} (h : s.Beside rel t) (i : ι) (f : ρ → ρ) (hf : ∀ r, key (f r) = key r) :
    (R.modify i f hf s).Beside rel (R.modify i f hf t) := by
  unfold modify
  rw [h.get R]
  exact h.set R _

theorem beside_insert {s t : Store} (h : s.Beside rel t) (row : ρ) : (R.insert row s).Beside rel (R.insert row t) := by
  unfold insert
  rw [h.get R]
  exact h.set R _

omit [DecidableEq ι] in
theorem fresh_congr {s t : Store} (h : s.Beside rel t) (row : ρ) : R.Fresh row s ↔ R.Fresh row t := by
  unfold Fresh
  rw [h.get R]

/-- An insert does the same on both sides. -/
theorem sameWrite_create {v w : Store} (h : v.Beside rel w) (row : ρ) :
    SameWrite (ε := Failure) (Store.Beside rel)
      (if R.Fresh row v then
        if R.references row v then .ok ⟨R.entries row, R.insert row⟩ else .error .foreignKeyViolation
      else .error .uniqueViolation)
      (if R.Fresh row w then
        if R.references row w then .ok ⟨R.entries row, R.insert row⟩ else .error .foreignKeyViolation
      else .error .uniqueViolation) := by
  simp only [fresh_congr h, h.references R]
  by_cases hfresh : R.Fresh row w
  · by_cases hrefs : R.references row w = true
    · simp only [if_pos hfresh, if_pos hrefs]
      exact ⟨rfl, fun s t hst => beside_insert hst row⟩
    · simp only [if_pos hfresh, if_neg hrefs]
      exact rfl
  · simp only [if_neg hfresh]
    exact rfl

omit [DecidableEq ι] in
theorem steady_findFirst (p : ρ → Bool) : (R.findFirst p).Steady (Store.Beside rel) :=
  ⟨fun v w h => by simp only [h.get R], fun _ => trivial⟩

theorem steady_findUnique (i : ι) : (R.findUnique i).Steady (Store.Beside rel) :=
  ⟨fun v w h => by simp only [h.get R], fun _ => trivial⟩

theorem steady_findUniqueOrThrow (i : ι) : (R.findUniqueOrThrow i).Steady (Store.Beside rel) := by
  refine ⟨fun v w h => by simp only [h.get R], fun v => ?_⟩
  cases hr : (R.get v).find i <;> simp only [hr] <;> trivial

theorem steady_update (i : ι) (f : ρ → ρ) (hf : ∀ r, key (f r) = key r) :
    (R.update i f hf).Steady (Store.Beside rel) := by
  refine ⟨fun v w h => ⟨?_, by simp only [h.get R]⟩, fun v => ?_⟩
  · simp only [h.get R]
    cases (R.get w).find i with
    | none => exact rfl
    | some r => exact ⟨rfl, fun s t hst => beside_modify hst i f hf⟩
  · cases hr : (R.get v).find i <;> simp only [hr] <;> trivial

theorem steady_updateMany (p : ρ → Bool) (f : ρ → ρ) (hf : ∀ r, key (f r) = key r) :
    (R.updateMany p f hf).Steady (Store.Beside rel) := by
  refine ⟨fun v w h => ⟨⟨by simp only [h.get R], fun s t hst => ?_⟩, rfl⟩, fun _ => trivial⟩
  have hfound : R.found p v = R.found p w := by
    funext r
    unfold found
    rw [h.get R]
  unfold modifyWhere
  simp only [hfound, hst.get R]
  exact hst.set R _

theorem steady_create (row : ρ) : (R.create row).Steady (Store.Beside rel) :=
  ⟨fun _ _ h => ⟨sameWrite_create h row, rfl⟩, fun _ => trivial⟩

theorem steady_upsert (p : ρ → Bool) (row : ρ) : (R.upsert p row).Steady (Store.Beside rel) := by
  refine ⟨fun v w h => ⟨?_, by simp only [h.get R]⟩, fun v => ?_⟩
  · simp only [h.get R]
    cases (R.get w).rows.find? p with
    | none => exact sameWrite_create h row
    | some r => exact ⟨rfl, fun s t hst => hst⟩
  · cases hr : (R.get v).rows.find? p <;> simp only [hr] <;> trivial

theorem steady_upsertSet (i : ι) (row : ρ) (f : ρ → ρ) (hf : ∀ r, key (f r) = key r) :
    (R.upsertSet i row f hf).Steady (Store.Beside rel) := by
  refine ⟨fun v w h => ⟨?_, by simp only [h.get R]⟩, fun v => ?_⟩
  · simp only [h.get R]
    cases (R.get w).find i with
    | none => exact sameWrite_create h row
    | some r => exact ⟨rfl, fun s t hst => beside_modify hst i f hf⟩
  · cases hr : (R.get v).find i <;> simp only [hr] <;> trivial

end Relation

/-- A relation between logs that holds on where both get the same rows. -/
def KeptByLogging (rel : LogTables → LogTables → Prop) : Prop := ∀ l m rows, rel l m → rel (l ++ rows) (m ++ rows)

section Statements

variable {rel : LogTables → LogTables → Prop}

theorem steady_ensure (p : Prop) [Decidable p] (e : Failure) : (ensure p e).Steady (Store.Beside rel) := by
  unfold ensure
  split <;> trivial

theorem steady_lift (x : Except Failure α) : (lift x).Steady (Store.Beside rel) := by
  cases x <;> trivial

theorem steady_orThrow (x : Option α) (e : Failure) : (orThrow x e).Steady (Store.Beside rel) := by
  cases x <;> trivial

theorem steady_read {f : Store → α} (hf : ∀ s : Store, f s.unlogged = f s) :
    (.query (fun v => .ret (f v)) : Db α).Steady (Store.Beside rel) :=
  ⟨fun _ _ h => congrArg ret (h.congr hf), fun _ => trivial⟩

theorem steady_whenTruthy {text : Option String} {k : String → Db Unit} (hk : ∀ t, (k t).Steady (Store.Beside rel)) :
    (whenTruthy text k).Steady (Store.Beside rel) := by
  cases text with
  | none => trivial
  | some t =>
    by_cases ht : t = "" <;> simp only [whenTruthy, ht, if_true, if_false]
    · trivial
    · exact hk t

theorem beside_withCounter {s t : Store} (h : s.Beside rel t) (ref : Id × String) (value : Int4) :
    (s.withCounter ref value).Beside rel (t.withCounter ref value) := by
  have hcounters : s.counters = t.counters := h.get prisma.counter
  unfold Store.withCounter
  rw [hcounters]
  exact h.set prisma.counter _

theorem steady_nextSequenceNumber (tenantId : Id) (key : String) (options : SequenceOptions) :
    (nextSequenceNumber tenantId key options).Steady (Store.Beside rel) := by
  refine Steady.bind ⟨fun v w h => ?_, fun v => ?_⟩ (fun _ => trivial)
  · have hcounters : v.counters = w.counters := h.get prisma.counter
    have htenants : v.tenants = w.tenants := h.get prisma.tenant
    have hvalue : v.incremented (tenantId, key) = w.incremented (tenantId, key) := by
      unfold Store.incremented Store.hasTenant
      rw [hcounters, htenants]
    refine ⟨?_, by simp only [hcounters]⟩
    simp only [hvalue]
    cases w.incremented (tenantId, key) with
    | error e => exact rfl
    | ok value => exact ⟨rfl, fun s t hst => beside_withCounter hst _ value⟩
  · cases hv : v.counters.find (tenantId, key) <;> simp only [hv] <;> trivial

theorem steady_getCompanyProfile (tenantId : Id) : (getCompanyProfile tenantId).Steady (Store.Beside rel) := by
  refine Steady.bind ?_ (fun _ => trivial)
  exact (Relation.steady_findUnique _).bind (fun _ => trivial)

theorem steady_getDefaultTenant (env : Env) : (getDefaultTenant env).Steady (Store.Beside rel) :=
  (Relation.steady_findFirst _).bind (fun _ => steady_orThrow _ _)

end Statements

theorem Store.Beside.log {rel : LogTables → LogTables → Prop} (hrel : KeptByLogging rel) {s t : Store}
    (h : s.Beside rel t) (rows : LogTables) :
    (s.withLogs (s.logs ++ rows)).Beside rel (t.withLogs (t.logs ++ rows)) :=
  ⟨h.unlogged, hrel _ _ rows h.logs⟩

theorem Store.withAuditLog_eq (s : Store) (row : AuditLog) :
    s.withAuditLog row = s.withLogs (s.logs ++ { auditLogs := [row] }) := by
  change _ = { s with
    statusHistories := s.statusHistories ++ []
    auditLogs := s.auditLogs ++ [row]
    emailLogs := s.emailLogs ++ [] }
  simp only [List.append_nil]
  rfl

theorem Store.withStatusHistory_eq (s : Store) (row : StatusHistory) :
    s.withStatusHistory row = s.withLogs (s.logs ++ { statusHistories := [row] }) := by
  change _ = { s with
    statusHistories := s.statusHistories ++ [row]
    auditLogs := s.auditLogs ++ []
    emailLogs := s.emailLogs ++ [] }
  simp only [List.append_nil]
  rfl

theorem Store.withEmailLog_eq (s : Store) (row : EmailLog) :
    { s with emailLogs := s.emailLogs ++ [row] } = s.withLogs (s.logs ++ { emailLogs := [row] }) := by
  change _ = { s with
    statusHistories := s.statusHistories ++ []
    auditLogs := s.auditLogs ++ []
    emailLogs := s.emailLogs ++ [row] }
  simp only [List.append_nil]

section Records

variable {rel : LogTables → LogTables → Prop} (hrel : KeptByLogging rel)

include hrel

omit hrel in
theorem steady_appendLog {tenantId : Id} {append : Store → Store}
    (h : ∀ s t, s.Beside rel t → (append s).Beside rel (append t)) :
    (appendLog tenantId append).Steady (Store.Beside rel) := by
  refine ⟨fun v w hvw => ⟨?_, rfl⟩, fun _ => trivial⟩
  have htenants : v.tenants = w.tenants := hvw.get prisma.tenant
  simp only [Store.hasTenant, htenants]
  by_cases hfound : (w.tenants.find tenantId).isSome = true
  · simp only [hfound, if_true]
    exact ⟨rfl, h⟩
  · simp only [hfound]
    rfl

theorem steady_recordAuditLog (row : AuditLog) : (recordAuditLog row).Steady (Store.Beside rel) := by
  refine steady_appendLog (fun s t hst => ?_)
  simp only [Store.withAuditLog_eq]
  exact hst.log hrel _

theorem steady_recordStatusTransition (row : StatusHistory) :
    (recordStatusTransition row).Steady (Store.Beside rel) := by
  refine steady_appendLog (fun s t hst => ?_)
  simp only [Store.withStatusHistory_eq]
  exact hst.log hrel _

theorem steady_queueEmail (env : Env) (row : EmailLog) : (queueEmail env row).Steady (Store.Beside rel) := by
  refine Steady.bind (Steady.transaction (steady_appendLog (fun s t hst => ?_))) (fun _ => steady_ensure _ _)
  simp only [Store.withEmailLog_eq]
  exact hst.log hrel _

end Records

end HostPanel.Model

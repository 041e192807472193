import HostPanel.Model.Shared

namespace HostPanel.Model

open HostPanel.Lib HostPanel.Lib.Program

variable {ρ ι : Type} [DecidableEq ι] {key : ρ → ι}

/-- `upsert` on the unique key of a row: set its values where it exists, insert
it where it does not. -/
def Relation.upsertSet (R : Relation key) (i : ι) (row : ρ) (f : ρ → ρ)
    (hf : ∀ r, key (f r) = key r := by intro r; rfl) : Db ρ :=
  .exec
    (fun v =>
      match (R.get v).find i with
      | some _ => .ok ⟨[R.lock i], R.modify i f hf⟩
      | none =>
        if R.Fresh row v then
          if R.references row v then .ok ⟨R.entries row, R.insert row⟩ else .error .foreignKeyViolation
        else .error .uniqueViolation)
    (fun v =>
      match (R.get v).find i with
      | some r => .ret r
      | none => .raise .recordNotFound)

theorem Relation.effect_of_upsertSet {R : Relation key} {i : ι} {row : ρ} {f : ρ → ρ} {hf : ∀ r, key (f r) = key r}
    {v : Store} {eff : Effect Store Lock}
    (h : (match (R.get v).find i with
      | some _ => (.ok ⟨[R.lock i], R.modify i f hf⟩ : Except Failure (Effect Store Lock))
      | none =>
        if R.Fresh row v then
          if R.references row v then .ok ⟨R.entries row, R.insert row⟩ else .error .foreignKeyViolation
        else .error .uniqueViolation) = .ok eff) :
    eff = ⟨[R.lock i], R.modify i f hf⟩ ∨ eff = ⟨R.entries row, R.insert row⟩ := by
  cases hr : (R.get v).find i with
  | some r =>
    rw [hr] at h
    exact Or.inl (Except.ok.inj h).symm
  | none =>
    rw [hr] at h
    exact Or.inr (Relation.effect_of_create h).2

theorem Relation.eval_upsertSet_bind {β : Type} {R : Relation key} {row : ρ} {f : ρ → ρ} {hf : ∀ r, key (f r) = key r}
    {k : ρ → Db β} {c v : Store} {out : β × Store × Store} :
    (R.upsertSet (key row) row f hf >>= k).eval c v = .ok out ↔
      (∃ r, (R.get v).find (key row) = some r ∧ (k (f r)).eval c (R.modify (key row) f hf v) = .ok out) ∨
        (R.get v).find (key row) = none ∧ R.Fresh row v ∧ R.references row v = true ∧
          (k row).eval c (R.insert row v) = .ok out := by
  cases hr : (R.get v).find (key row) with
  | some r =>
    have hset : (R.get (R.modify (key row) f hf v)).find (key row) = some (f r) := find_modify hf hr
    simp [upsertSet, eval_exec, hr, hset]
  | none =>
    have hinsert : (R.get (R.insert row v)).find (key row) = some row := by
      rw [insert, R.get_set, Table.find_insert_self hr]
    by_cases hu : R.Fresh row v
    · by_cases hrefs : R.references row v = true
      · simp [upsertSet, eval_exec, hr, hu, hrefs, hinsert]
      · simp [upsertSet, eval_exec, hr, hu, hrefs]
    · simp [upsertSet, eval_exec, hr, hu]

theorem Relation.guarantees_upsertSet {R : Relation key} {rel : Store → Store → Prop} (i : ι) (row : ρ) (f : ρ → ρ)
    (hf : ∀ r, key (f r) = key r) (hset : ∀ t, rel t (R.modify i f hf t)) (hinsert : ∀ t, rel t (R.insert row t)) :
    (R.upsertSet i row f hf).Guarantees rel := by
  refine ⟨fun v eff hs => ?_, fun v => ?_⟩
  · obtain rfl | rfl := Relation.effect_of_upsertSet hs
    · exact hset
    · exact hinsert
  · cases hr : (R.get v).find i <;> simp only [hr] <;> trivial

def settingUpdatedAudit (actor : StaffActor) (key : String) (value : JsonObject) (before : Option JsonObject)
    (settingId : Id) : AuditLog :=
  { tenantId := actor.tenantId
    actorType := .staff
    actorId := some actor.id
    actorLabel := some actor.label
    action := "system_setting.updated"
    entityType := .systemSetting
    entityId := settingId
    beforeState := before
    afterState := some value
    metadata := some [("key", .scalar (.str key))] }

def setSetting (env : Env) (actor : StaffActor) (key : String) (value : JsonObject) : Db Unit := do
  requirePermission actor.permissions .settingsManage
  transaction do
    let before ← prisma.systemSetting.findUnique (actor.tenantId, key)
    let after ← prisma.systemSetting.upsertSet (actor.tenantId, key)
      { id := env.cuid 0, tenantId := actor.tenantId, key := key, value := value, updatedBy := some actor.id }
      (fun r => { r with value := value, updatedBy := some actor.id })
    recordAuditLog (settingUpdatedAudit actor key value (before.map SystemSetting.value) after.id)

theorem atomic_setSetting (env : Env) (actor : StaffActor) (key : String) (value : JsonObject) :
    (setSetting env actor key value).Atomic := by
  refine (uncommitted_requirePermission _ _).bind_atomic (fun _ => Uncommitted.transaction ?_)
  refine Uncommitted.bind (fun _ => trivial) (fun before => Uncommitted.bind (fun v => ?_) (fun after => ?_))
  · cases h : (prisma.systemSetting.get v).find (actor.tenantId, key) <;> simp only [h] <;> trivial
  · exact uncommitted_recordAuditLog _

end HostPanel.Model

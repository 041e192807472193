import HostPanel.Lib.Replay
import HostPanel.Lib.Run
import HostPanel.Model.Services

namespace HostPanel.Model

open HostPanel.Lib HostPanel.Lib.Program

theorem ProfileField.key_injective : Function.Injective ProfileField.key := by
  intro a b h
  cases a <;> cases b <;> first | rfl | exact absurd h (by decide)

/-- Look a profile field up among rows made from a patch. -/
theorem lookup_fields {β : Type} (entries : List (ProfileField × Option String)) (g : ProfileField → β)
    (field : ProfileField) :
    (entries.map (fun e => (e.1.key, g e.1))).lookup field.key =
      if field ∈ entries.map Prod.fst then some (g field) else none := by
  induction entries with
  | nil => rfl
  | cons e entries ih =>
    rw [List.map_cons, List.lookup_cons, ih]
    by_cases he : field = e.1
    · subst he
      simp
    · have hk : (field.key == e.1.key) = false := by
        simpa using fun h => he (ProfileField.key_injective h)
      simp only [hk, List.map_cons, List.mem_cons, he, false_or]

theorem lookup_jsonField_of_ne {field other : ProfileField} {value : Option String} (h : field ≠ other) :
    (jsonField other.key value .str).lookup field.key = none := by
  have hk : (field.key == other.key) = false := by
    simpa using fun he => h (ProfileField.key_injective he)
  cases value <;> simp [jsonField, List.lookup_cons, hk]

theorem lookup_jsonFields_of_notMem {entries : List (ProfileField × Option String)} {field : ProfileField}
    (h : field ∉ entries.map Prod.fst) :
    (entries.map (fun e => jsonField e.1.key e.2 .str)).flatten.lookup field.key = none := by
  induction entries with
  | nil => rfl
  | cons e entries ih =>
    obtain ⟨hne, hrest⟩ := not_or.mp (fun hm => h (List.mem_cons.mpr hm))
    rw [List.map_cons, List.flatten_cons, List.lookup_append, lookup_jsonField_of_ne hne, ih hrest]
    rfl

/-- A key of the patch whose value is undefined does not get into the JSON. -/
theorem lookup_jsonFields_of_mem {entries : List (ProfileField × Option String)} {field : ProfileField}
    {value : Option String} (hnodup : (entries.map Prod.fst).Nodup) (h : (field, value) ∈ entries) :
    (entries.map (fun e => jsonField e.1.key e.2 .str)).flatten.lookup field.key =
      value.map (fun text => .scalar (.str text)) := by
  induction entries with
  | nil => cases h
  | cons e entries ih =>
    obtain ⟨hhead, htail⟩ := List.nodup_cons.mp hnodup
    rw [List.map_cons, List.flatten_cons, List.lookup_append]
    obtain rfl | hmem := List.mem_cons.mp h
    · rw [lookup_jsonFields_of_notMem hhead, Option.or_none]
      cases value <;> simp [jsonField]
    · have hne : field ≠ e.1 := fun he => hhead (he ▸ List.mem_map_of_mem hmem)
      rw [lookup_jsonField_of_ne hne, Option.none_or]
      exact ih htail hmem

theorem Client.profile_withProfile {r : Client} {field other : ProfileField} {value : String} (h : other ≠ field) :
    (r.withProfile field value).profile other = r.profile other := by
  cases field <;> cases other <;> first | rfl | exact absurd rfl h

theorem Client.profile_patched_of_notMem {entries : List (ProfileField × Option String)} {field : ProfileField}
    (h : field ∉ entries.map Prod.fst) (r : Client) : (r.patched entries).profile field = r.profile field := by
  induction entries generalizing r with
  | nil => rfl
  | cons e entries ih =>
    obtain ⟨name, value⟩ := e
    obtain ⟨hne, hrest⟩ := not_or.mp (fun hm => h (List.mem_cons.mpr hm))
    cases value with
    | none => exact ih hrest r
    | some value => exact (ih hrest _).trans (profile_withProfile hne)

theorem ProfilePatch.profile_write_of_notMem {patch : ProfilePatch} {field : ProfileField}
    (h : field ∉ patch.entries.map Prod.fst) (now : DateTime) (r : Client) :
    (patch.write now r).profile field = r.profile field := by
  unfold ProfilePatch.write
  split
  · rfl
  · refine Eq.trans ?_ (Client.profile_patched_of_notMem h r)
    cases field <;> rfl

/-- One call of `updateClientProfile`. -/
structure ProfileUpdate where
  env : Env
  actor : Actor
  clientId : Id
  patch : ProfilePatch

namespace ProfileUpdate

def call (u : ProfileUpdate) : Db Unit := updateClientProfile u.env u.actor u.clientId u.patch

def step (s : Store) (u : ProfileUpdate) : Store := u.call.after s

/-- The client the call leaves. -/
def written (u : ProfileUpdate) (before : Client) : Client := u.patch.write u.env.now before

theorem written_id (u : ProfileUpdate) (before : Client) : (u.written before).id = before.id :=
  u.patch.write_id u.env.now before

def row (u : ProfileUpdate) (before : Client) : AuditLog := clientUpdatedAudit u.actor u.patch before (u.written before)

/-- The call gets through to this client: the actor may change it, and the tenant
its row of the log belongs to exists. -/
structure Reaches (s : Store) (u : ProfileUpdate) (client : Client) : Prop where
  permitted : mayChangeProfile u.actor u.clientId
  found : s.clients.find u.clientId = some client
  tenant_found : s.hasTenant (u.written client).tenantId = true

/-- The tables once a client is updated. -/
def stored (u : ProfileUpdate) (s : Store) (before : Client) : Store :=
  (prisma.client.modify u.clientId u.written u.written_id s).withAuditLog (u.row before)

theorem eval_call_iff {u : ProfileUpdate} {s c' s' : Store} :
    u.call.eval s s = .ok ((), c', s') ↔ ∃ client, Reaches s u client ∧ c' = s' ∧ s' = u.stored s client := by
  rw [call, updateClientProfile, eval_requireProfileActor_bind]
  simp only [transaction, bind_assoc, Relation.eval_findUniqueOrThrow_bind, Relation.eval_update_bind,
    eval_recordAuditLog_bind, eval_commit, eval_ret, Except.ok.injEq, Prod.mk.injEq]
  constructor
  · rintro ⟨hp, client, hfound, r, hr, htenant, _, rfl, rfl⟩
    have he : r = client := Option.some.inj (hr.symm.trans hfound)
    subst he
    exact ⟨r, ⟨hp, hfound, htenant⟩, rfl, rfl⟩
  · rintro ⟨client, ⟨hp, hfound, htenant⟩, rfl, rfl⟩
    exact ⟨hp, client, hfound, client, hfound, htenant, trivial, rfl, rfl⟩

/-- An update is stored with its row, or nothing is. -/
theorem step_cases (u : ProfileUpdate) (s : Store) :
    (∃ client, Reaches s u client ∧ step s u = u.stored s client) ∨ (∀ client, ¬Reaches s u client) ∧ step s u = s := by
  obtain hs | ⟨_, c', s', h, hs⟩ := after_of_atomic (atomic_updateClientProfile u.env u.actor u.clientId u.patch) s
  · by_cases hr : ∃ client, Reaches s u client
    · obtain ⟨client, hr⟩ := hr
      have hok : u.call.eval s s = .ok ((), u.stored s client, u.stored s client) :=
        eval_call_iff.mpr ⟨client, hr, rfl, rfl⟩
      refine Or.inl ⟨client, hr, ?_⟩
      rw [step, after_eq_outcome, hok]
      rfl
    · exact Or.inr ⟨not_exists.mp hr, hs⟩
  · obtain ⟨client, hr, _, hstored⟩ := eval_call_iff.mp h
    exact Or.inl ⟨client, hr, hs.trans hstored⟩

end ProfileUpdate

def JsonValue.scalar? : JsonValue → Option Scalar
  | .scalar v => some v
  | .obj _ => none

/-- The value a row of the log gives a field before the change. -/
def AuditLog.before (row : AuditLog) (field : ProfileField) : Option Scalar :=
  (row.beforeState.bind (List.lookup field.key)).bind JsonValue.scalar?

/-- The value a row of the log gives a field after the change. -/
def AuditLog.after (row : AuditLog) (field : ProfileField) : Option Scalar :=
  (row.afterState.bind (List.lookup field.key)).bind JsonValue.scalar?

/-- A row read as a change of a profile. -/
def AuditLog.snapshot (row : AuditLog) : Snapshot Id ProfileField (Option Scalar) where
  subject := row.entityId
  names field := (row.after field).isSome = true
  before field := (row.before field).map some
  after field := (row.after field).map some

theorem AuditLog.snapshot_before (row : AuditLog) (field : ProfileField) :
    row.snapshot.before field = (row.before field).map some := rfl

theorem AuditLog.snapshot_after (row : AuditLog) (field : ProfileField) :
    row.snapshot.after field = (row.after field).map some := rfl

/-- The profile fields of every client. -/
def Store.profiles (s : Store) (clientId : Id) (field : ProfileField) : Option Scalar :=
  (s.clients.find clientId).map (fun r => profileScalar (r.profile field))

/-- A text column and a column that may be null, from the log. -/
def textValue : Option Scalar → String
  | some (.str text) => text
  | _ => ""

def nullableValue : Option Scalar → Option String
  | some (.str text) => some text
  | _ => none

/-- The row with all its profile columns set. -/
def Client.restored (r : Client) (values : ProfileField → Option Scalar) : Client :=
  { r with
    firstName := textValue (values .firstName)
    lastName := textValue (values .lastName)
    companyName := nullableValue (values .companyName)
    phone := nullableValue (values .phone)
    addressLine1 := nullableValue (values .addressLine1)
    addressLine2 := nullableValue (values .addressLine2)
    city := nullableValue (values .city)
    state := nullableValue (values .state)
    postalCode := nullableValue (values .postalCode)
    country := nullableValue (values .country)
    language := textValue (values .language)
    timezone := textValue (values .timezone) }

/-- The row without the instant of its last update, which no row of the log keeps. -/
def Client.unstamped (r : Client) : Client := { r with updatedAt := 0 }

/-- A client as the log has it when it was `length` rows long: undo the rows
since then, newest first. -/
def Store.clientAt (s : Store) (length : ℕ) (clientId : Id) : Option Client :=
  (s.clients.find clientId).map (fun r => (r.restored
    (rewind ((s.auditLogs.drop length).map AuditLog.snapshot) s.profiles clientId)).unstamped)

/-- Of two rows with none in between for this field of this client, the later
starts where the earlier ended. -/
def LinkedRows (rows : List AuditLog) : Prop :=
  ∀ front earlier between later back field, rows = front ++ earlier :: (between ++ later :: back) →
    later.entityId = earlier.entityId → (earlier.after field).isSome = true → (later.after field).isSome = true →
      (∀ row ∈ between, ¬(earlier.entityId = row.entityId ∧ (row.after field).isSome = true)) →
        later.before field = earlier.after field

theorem Client.restored_patched (entries : List (ProfileField × Option String))
    (values : ProfileField → Option Scalar) (r : Client) : (r.patched entries).restored values = r.restored values := by
  induction entries generalizing r with
  | nil => rfl
  | cons e entries ih =>
    obtain ⟨field, value⟩ := e
    cases value with
    | none => exact ih r
    | some value =>
      refine (ih _).trans ?_
      cases field <;> rfl

theorem ProfilePatch.restored_write (patch : ProfilePatch) (now : DateTime) (values : ProfileField → Option Scalar)
    (r : Client) : ((patch.write now r).restored values).unstamped = (r.restored values).unstamped := by
  unfold ProfilePatch.write
  split
  · rfl
  · refine Eq.trans ?_ (congrArg Client.unstamped (Client.restored_patched patch.entries values r))
    rfl

theorem nullableValue_profileScalar (value : Option String) : nullableValue (some (profileScalar value)) = value := by
  cases value <;> rfl

theorem Client.restored_profile (r : Client) : r.restored (fun field => some (profileScalar (r.profile field))) = r := by
  simp only [Client.restored, Client.profile, nullableValue_profileScalar]
  rfl

namespace ProfileUpdate

section Row

variable (u : ProfileUpdate) (client : Client) {field : ProfileField}

theorem row_after : (u.row client).after field =
    if field ∈ u.patch.entries.map Prod.fst then
      some (profileScalar ((u.written client).profile field)) else none := by
  have hfields : ((u.patch.fields (u.written client)).map (fun e => (e.1, JsonValue.scalar e.2))) =
      u.patch.entries.map (fun e =>
        (e.1.key, JsonValue.scalar (profileScalar ((u.written client).profile e.1)))) :=
    List.map_map
  rw [AuditLog.after, row, clientUpdatedAudit, Option.bind_some, hfields,
    lookup_fields _ (fun f => JsonValue.scalar (profileScalar ((u.written client).profile f)))]
  split <;> rfl

theorem row_before {value : Option String} (h : (field, value) ∈ u.patch.entries) :
    (u.row client).before field = value.map .str := by
  rw [AuditLog.before, row, clientUpdatedAudit, Option.bind_some, ProfilePatch.json,
    lookup_jsonFields_of_mem u.patch.nodup h]
  cases value <;> rfl

theorem row_before_of_notMem (h : field ∉ u.patch.entries.map Prod.fst) : (u.row client).before field = none := by
  rw [AuditLog.before, row, clientUpdatedAudit, Option.bind_some, ProfilePatch.json, lookup_jsonFields_of_notMem h]
  rfl

end Row

theorem id_of_find {s : Store} {client : Client} {id : Id} (h : s.clients.find id = some client) : client.id = id :=
  Table.key_of_find h

theorem profiles_stored {u : ProfileUpdate} {s : Store} {client : Client}
    (hfound : s.clients.find u.clientId = some client) (id : Id) (field : ProfileField) :
    (u.stored s client).profiles id field =
      if id = u.clientId then some (profileScalar ((u.written client).profile field))
      else s.profiles id field := by
  have hfind : (u.stored s client).clients.find id =
      (s.clients.modify u.clientId u.written u.written_id).find id := rfl
  rw [Store.profiles, hfind]
  by_cases hid : id = u.clientId
  · rw [if_pos hid, hid, Table.find_modify_self, hfound]
    rfl
  · rw [if_neg hid, Table.find_modify_ne _ _ _ hid]
    rfl

/-- A row that recalls the old values tells how the profiles changed. -/
theorem records_row {u : ProfileUpdate} {s : Store} {client : Client}
    (hfound : s.clients.find u.clientId = some client)
    (hrestore : ∀ field, (u.row client).before field =
      if field ∈ u.patch.entries.map Prod.fst then some (profileScalar (client.profile field)) else none) :
    (u.row client).snapshot.Records s.profiles (u.stored s client).profiles := by
  have hsubject : (u.row client).snapshot.subject = u.clientId := id_of_find hfound
  have hold : ∀ field, s.profiles u.clientId field = some (profileScalar (client.profile field)) := by
    intro field
    rw [Store.profiles, hfound]
    rfl
  have hnames : ∀ field, (u.row client).snapshot.names field ↔ field ∈ u.patch.entries.map Prod.fst := by
    intro field
    simp only [AuditLog.snapshot, row_after]
    split <;> simp_all
  refine ⟨fun field hf => ?_, fun field hf => ?_, fun field hf => ?_, fun id field hn => ?_⟩
  · rw [hsubject, hold, AuditLog.snapshot_before, hrestore, if_pos ((hnames field).mp hf)]
    rfl
  · rw [hsubject, profiles_stored hfound, if_pos rfl, AuditLog.snapshot_after, row_after, if_pos ((hnames field).mp hf)]
    rfl
  · rw [AuditLog.snapshot_before, hrestore, if_neg (fun hm => hf ((hnames field).mpr hm))]
    rfl
  · rw [profiles_stored hfound]
    by_cases hid : id = u.clientId
    · have hout : field ∉ u.patch.entries.map Prod.fst :=
        fun hm => hn ⟨hid.trans hsubject.symm, (hnames field).mpr hm⟩
      rw [if_pos hid, hid, hold, written, ProfilePatch.profile_write_of_notMem hout]
    · rw [if_neg hid]

/-- Every row of the run is told to hold the old values, so they can be undone. -/
theorem trail_of_run {G : Store → ProfileUpdate → Prop}
    (hrestore : ∀ s u client, G s u → Reaches s u client → ∀ field,
      (u.row client).before field =
        if field ∈ u.patch.entries.map Prod.fst then some (profileScalar (client.profile field)) else none)
    {s : Store} {us : List ProfileUpdate} (hG : AlongRun step G s us) :
    ∃ rows, (runFrom step s us).auditLogs = s.auditLogs ++ rows ∧
      Trail s.profiles (rows.map (AuditLog.snapshot)) (runFrom step s us).profiles := by
  induction us generalizing s with
  | nil => exact ⟨[], (List.append_nil _).symm, rfl⟩
  | cons u us ih =>
    obtain ⟨rows, hrows, htrail⟩ := ih hG.2
    obtain ⟨client, hr, hs⟩ | ⟨_, hs⟩ := u.step_cases s
    · refine ⟨u.row client :: rows, ?_, (u.stored s client).profiles, ?_, ?_⟩
      · rw [runFrom_cons, hrows, hs]
        exact List.append_assoc s.auditLogs [u.row client] rows
      · exact records_row hr.found (hrestore s u client hG.1 hr)
      · rw [runFrom_cons, ← hs]
        exact htrail
    · rw [hs] at hrows htrail
      rw [runFrom_cons, hs]
      exact ⟨rows, hrows, htrail⟩

theorem restored_step (values : ProfileField → Option Scalar) (clientId : Id) (s : Store) (u : ProfileUpdate) :
    ((step s u).clients.find clientId).map (fun r => (r.restored values).unstamped) =
      (s.clients.find clientId).map (fun r => (r.restored values).unstamped) := by
  obtain ⟨client, _, hs⟩ | ⟨_, hs⟩ := u.step_cases s
  · rw [hs]
    exact Table.find_modify_map s.clients u.clientId u.written u.written_id
      (fun r => (r.restored values).unstamped) (u.patch.restored_write u.env.now values) clientId
  · rw [hs]

theorem restored_run (values : ProfileField → Option Scalar) (clientId : Id) (s : Store) (us : List ProfileUpdate) :
    ((runFrom step s us).clients.find clientId).map (fun r => (r.restored values).unstamped) =
      (s.clients.find clientId).map (fun r => (r.restored values).unstamped) := by
  induction us generalizing s with
  | nil => rfl
  | cons u us ih => rw [runFrom_cons, ih, restored_step]

/-- Where the rows hold the old values, a client comes back as it was. -/
theorem clientAt_run {G : Store → ProfileUpdate → Prop}
    (hrestore : ∀ s u client, G s u → Reaches s u client → ∀ field,
      (u.row client).before field =
        if field ∈ u.patch.entries.map Prod.fst then some (profileScalar (client.profile field)) else none)
    {s : Store} {us : List ProfileUpdate} (hG : AlongRun step G s us) (clientId : Id) :
    (runFrom step s us).clientAt s.auditLogs.length clientId = (s.clients.find clientId).map Client.unstamped := by
  obtain ⟨rows, hrows, htrail⟩ := trail_of_run hrestore hG
  rw [Store.clientAt, hrows, List.drop_left, htrail.rewind_eq, restored_run]
  cases hfound : s.clients.find clientId with
  | none => rfl
  | some client =>
    have hold : s.profiles clientId = fun field => some (profileScalar (client.profile field)) := by
      funext field
      rw [Store.profiles, hfound]
      rfl
    rw [Option.map_some, Option.map_some, hold, Client.restored_profile]

/-- The rows of a call hold the values from right before and right after it. -/
def Recorded (s : Store) (u : ProfileUpdate) : Prop :=
  ∀ row ∈ (step s u).auditLogs.drop s.auditLogs.length, ∀ e ∈ u.patch.entries,
    row.before e.1 = s.profiles u.clientId e.1 ∧ row.after e.1 = (step s u).profiles u.clientId e.1

/-- The patch of a call that may change its client names only fields that it
gives the text they already have. -/
def Repeats (s : Store) (u : ProfileUpdate) : Prop :=
  ∀ client, Reaches s u client → ∀ e ∈ u.patch.entries, ∃ text, e.2 = some text ∧ client.profile e.1 = some text

theorem recorded_iff_repeats (s : Store) (u : ProfileUpdate) : Recorded s u ↔ Repeats s u := by
  obtain ⟨client, hreach, hs⟩ | ⟨hnone, hs⟩ := u.step_cases s
  · have hfound := hreach.found
    have hrows : (u.stored s client).auditLogs.drop s.auditLogs.length = [u.row client] := List.drop_left
    have hold : ∀ field, s.profiles u.clientId field = some (profileScalar (client.profile field)) := by
      intro field
      rw [Store.profiles, hfound]
      rfl
    rw [Recorded, hs, hrows]
    constructor
    · intro h r hr e he
      have hc : r = client := Option.some.inj (hr.found.symm.trans hfound)
      have hbefore := (h (u.row client) List.mem_cons_self e he).1
      rw [row_before u client he, hold] at hbefore
      rw [hc]
      cases hv : e.2 with
      | none => simp [hv] at hbefore
      | some text =>
        cases hprofile : client.profile e.1 with
        | none => simp [hv, hprofile, profileScalar] at hbefore
        | some value =>
          simp only [hv, hprofile, profileScalar, Option.map_some, Option.some.injEq, Scalar.str.injEq] at hbefore
          exact ⟨text, rfl, congrArg some hbefore.symm⟩
    · intro h row hrow e he
      rw [List.mem_singleton.mp hrow]
      obtain ⟨text, hv, hprofile⟩ := h client hreach e he
      constructor
      · rw [row_before u client he, hold, hv, hprofile]
        rfl
      · rw [row_after, if_pos (List.mem_map_of_mem he), profiles_stored hfound, if_pos rfl]
  · refine iff_of_true (fun row hrow => ?_) (fun client hreach => absurd hreach (hnone client))
    rw [hs, List.drop_length] at hrow
    cases hrow

theorem before_of_repeats (s : Store) (u : ProfileUpdate) (client : Client) (h : Repeats s u) (hr : Reaches s u client)
    (field : ProfileField) :
    (u.row client).before field =
      if field ∈ u.patch.entries.map Prod.fst then some (profileScalar (client.profile field)) else none := by
  by_cases hm : field ∈ u.patch.entries.map Prod.fst
  · obtain ⟨e, he, rfl⟩ := List.mem_map.mp hm
    obtain ⟨text, hv, hprofile⟩ := h client hr e he
    rw [if_pos hm, row_before u client he, hv, hprofile]
    rfl
  · rw [if_neg hm, row_before_of_notMem u client hm]

theorem linkedRows_of_trail {rows : List AuditLog} {w w' : Id → ProfileField → Option Scalar}
    (h : Trail w (rows.map AuditLog.snapshot) w') : LinkedRows rows := by
  intro front earlier between later back field hrows hid hearlier hlater hbetween
  rw [hrows] at h
  simp only [List.map_append, List.map_cons] at h
  have hl := h.linked (f := field) hid hearlier hlater (fun b hb => by
    obtain ⟨row, hrow, rfl⟩ := List.mem_map.mp hb
    exact hbetween row hrow)
  exact Option.map_injective (Option.some_injective _) hl

/-- The log of a run holds the values from before and after every update, links
up and brings every past state of every client back exactly when no update
changes anything. -/
theorem profile_log_replays_iff (s : Store) (us : List ProfileUpdate) :
    (AlongRun step Recorded s us ∧ LinkedRows ((runFrom step s us).auditLogs.drop s.auditLogs.length) ∧
      ∀ past, past <+: us → ∀ clientId,
        (runFrom step s us).clientAt (runFrom step s past).auditLogs.length clientId =
          ((runFrom step s past).clients.find clientId).map Client.unstamped) ↔
      AlongRun step Repeats s us := by
  constructor
  · rintro ⟨h, _, _⟩
    exact h.imp (fun s u => (recorded_iff_repeats s u).mp)
  · intro h
    refine ⟨h.imp (fun s u => (recorded_iff_repeats s u).mpr), ?_, ?_⟩
    · obtain ⟨rows, hrows, htrail⟩ := trail_of_run before_of_repeats h
      rw [hrows, List.drop_left]
      exact linkedRows_of_trail htrail
    · rintro past ⟨rest, rfl⟩ clientId
      rw [runFrom_append]
      exact clientAt_run before_of_repeats (alongRun_append.mp h).2 clientId

end ProfileUpdate

namespace Sample

/-- A first name is changed. -/
def renamed : ProfileUpdate :=
  { env := env "a", actor := .staff staff, clientId := "client", patch := ⟨[(.firstName, some "New")], by decide⟩ }

end Sample

/-- The row of a change has the new name as the one from before. -/
theorem new_name_recorded_as_old :
    ((ProfileUpdate.step (Sample.shop 0) Sample.renamed).auditLogs.map
      (fun row => (row.before .firstName, row.after .firstName))) =
        [(some (.str "New"), some (.str "New"))] ∧
      (Sample.shop 0).profiles "client" .firstName = some (.str "Demo") ∧
      ¬AlongRun ProfileUpdate.step ProfileUpdate.Recorded (Sample.shop 0) [Sample.renamed] := by
  refine ⟨by decide +kernel, by decide +kernel, fun h => ?_⟩
  have hrepeats := (ProfileUpdate.recorded_iff_repeats _ _).mp h.1
  have hfound : (Sample.shop 0).clients.find "client" = some Sample.client := rfl
  have hpermitted : mayChangeProfile Sample.renamed.actor Sample.renamed.clientId :=
    show hasPermission Sample.staff.permissions .clientsWrite = true by decide
  obtain ⟨text, ht, hname⟩ := hrepeats _ ⟨hpermitted, hfound, rfl⟩ (.firstName, some "New") List.mem_cons_self
  cases ht
  exact absurd hname (by decide)

end HostPanel.Model

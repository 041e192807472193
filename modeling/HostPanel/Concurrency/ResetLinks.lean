import HostPanel.Lib.Ticket
import HostPanel.Access.Calls

namespace HostPanel.Model

open HostPanel.Lib HostPanel.Lib.Program

/-- A password set through a link, by staff or by a client contact. -/
structure PasswordCall where
  env : Env
  actorType : AuthActorType
  token : String
  newPassword : String

namespace PasswordCall

def program (call : PasswordCall) : Db Unit :=
  match call.actorType with
  | .staff => setStaffPassword call.env call.token call.newPassword
  | .clientContact => setClientPassword call.env call.token call.newPassword

/-- The hash under which the link of the call is stored. -/
def hash (call : PasswordCall) : String := call.env.hashToken call.token

end PasswordCall

abbrev passwordMachine {ι : Type} (s : Store) (calls : ι → PasswordCall) : Config ι Store Lock Failure Unit :=
  Config.start s (fun i => (calls i).program)

/-- The link is stored and was not used. -/
def Unconsumed (record : Option PasswordResetToken) : Prop := record.any (fun r => r.consumedAt == none) = true

instance : DecidablePred Unconsumed := fun _ => inferInstanceAs (Decidable (_ = true))

def Lock.resetLink? : Lock → Option Id
  | .passwordResetToken id => some id
  | _ => none

/-- A write of a link finds it unused. -/
def FindsUnconsumed (_seen view : Store) (eff : Effect Store Lock) : Prop :=
  ∀ l ∈ eff.locks, ∀ id ∈ l.resetLink?, Unconsumed (view.passwordResetTokens.find id)

instance (seen view : Store) (eff : Effect Store Lock) : Decidable (FindsUnconsumed seen view eff) :=
  inferInstanceAs (Decidable (∀ l ∈ eff.locks, ∀ id ∈ l.resetLink?, Unconsumed _))

/-- Where every link is stored, and under which hash. -/
def Store.links (s : Store) : List (Id × String) := s.passwordResetTokens.rows.map (fun r => (r.id, r.tokenHash))

/-- The link under a hash. -/
def Store.linkOf (s : Store) (hash : String) : Option Id := (s.links.find? (fun l => l.2 == hash)).map Prod.fst

theorem linkOf_of_found {s : Store} {hash : String} {record : PasswordResetToken}
    (h : s.passwordResetTokens.rows.find? (fun r => r.tokenHash == hash) = some record) :
    s.linkOf hash = some record.id := by
  have hsame : ((fun l : Id × String => l.2 == hash) ∘ fun r : PasswordResetToken => (r.id, r.tokenHash)) =
      fun r => r.tokenHash == hash := rfl
  rw [Store.linkOf, Store.links, List.find?_map, hsame, h]
  rfl

section Calls

variable {env : Env}

theorem links_modify (i : Id) (f : PasswordResetToken → PasswordResetToken) (hf : ∀ r, (f r).id = r.id)
    (h : ∀ r, (f r).tokenHash = r.tokenHash) (s : Store) :
    (prisma.passwordResetToken.modify i f hf s).links = s.links :=
  Table.map_modify s.passwordResetTokens i f hf _ (fun r => Prod.ext (hf r) (h r))

theorem leaves_consumeToken (record : PasswordResetToken) : (consumeToken env record).Leaves Store.links := by
  refine Leaves.bind (Relation.leaves_update _ _ _ (fun t => ?_)) (fun _ => trivial)
  apply links_modify
  exact fun _ => rfl

theorem leaves_findPasswordToken (actorType : AuthActorType) (token : String) :
    (findPasswordToken env actorType token).Leaves Store.links := by
  refine (Relation.leaves_findFirst _).bind (fun found => ?_)
  cases found.filter (PasswordResetToken.usable env actorType) <;> trivial

theorem PasswordCall.leaves (call : PasswordCall) : call.program.Leaves Store.links := by
  obtain ⟨env, actorType, token, newPassword⟩ := call
  cases actorType with
  | staff =>
    refine (leaves_findPasswordToken _ _).bind (fun record => Leaves.transaction ?_)
    exact (Relation.leaves_update _ _ _ (fun _ => rfl)).bind (fun _ => leaves_consumeToken record)
  | clientContact =>
    refine (leaves_findPasswordToken _ _).bind (fun record => Leaves.transaction ?_)
    exact (Relation.leaves_update _ _ _ (fun _ => rfl)).bind (fun _ => leaves_consumeToken record)

/-- A link as a ticket: its row, the lock of it, and whether it is unused. -/
abbrev SpendsLink {α : Type} (I : Store → Prop) (id : Id) (p : Db α) (done : Bool) : Prop :=
  p.Spends (fun id (s : Store) => s.passwordResetTokens.find id) Lock.passwordResetToken Unconsumed I id done

section Updates

variable {α ρ ι : Type} [DecidableEq ι] {key : ρ → ι} {R : Relation key} {I : Store → Prop} {id : Id}

theorem spendsLink_update_bind {i : ι} {f : ρ → ρ} {hf : ∀ r, key (f r) = key r} {k : ρ → Db α} {done : Bool}
    (hsame : ∀ s, (R.modify i f hf s).passwordResetTokens = s.passwordResetTokens)
    (hk : ∀ r, SpendsLink I id (k r) done) : SpendsLink I id (R.update i f hf >>= k) done := by
  intro v eff _ hs
  obtain ⟨r, hr, rfl⟩ := Relation.effect_of_update hs
  have hmodified : (R.get (R.modify i f hf v)).find i = some (f r) := Relation.find_modify hf hr
  refine Or.inl ⟨fun y s => congrArg (fun t => t.find y) (hsame s), ?_⟩
  simp only [hmodified]
  exact hk (f r)

end Updates

theorem used_modify (i : Id) {f : PasswordResetToken → PasswordResetToken} (hf : ∀ r, (f r).id = r.id)
    (h : ∀ r, (f r).consumedAt ≠ none) (s : Store) :
    ¬ Unconsumed ((prisma.passwordResetToken.modify i f hf s).passwordResetTokens.find i) := by
  have hmodified : (prisma.passwordResetToken.modify i f hf s).passwordResetTokens.find i =
      (s.passwordResetTokens.find i).map f := Table.find_modify_self _ _ _ hf
  rw [hmodified]
  cases s.passwordResetTokens.find i with
  | none => simp [Unconsumed]
  | some r => simp [Unconsumed, h r]

/-- The last write of a call uses its link up. -/
theorem spendsLink_consumeToken (I : Store → Prop) (record : PasswordResetToken) :
    SpendsLink I record.id (transaction (consumeToken env record)) false := by
  intro v eff _ hs
  obtain ⟨r, hr, rfl⟩ := Relation.effect_of_update (R := prisma.passwordResetToken) hs
  refine Or.inr ⟨List.mem_singleton.mpr rfl, fun s => ?_, fun y hy s => ?_, ?_⟩
  · apply used_modify
    exact fun _ h => nomatch h
  · apply Table.find_modify_ne s.passwordResetTokens
    · exact fun _ => rfl
    · exact hy
  have hmodified := Relation.find_modify (R := prisma.passwordResetToken)
    (f := fun r => { r with consumedAt := some env.now })
    (fun _ => rfl) hr
  simp only [hmodified]
  exact ⟨rfl, (), rfl⟩

/-- The link of a call is the one under its hash. -/
theorem spendsLink_findPasswordToken {s : Store} (call : PasswordCall) {k : PasswordResetToken → Db Unit}
    (hk : ∀ record, SpendsLink (fun v => v.links = s.links) record.id (k record) false) :
    SpendsLink (fun v => v.links = s.links) ((s.linkOf call.hash).getD "")
      (findPasswordToken call.env call.actorType call.token >>= k) false := by
  intro v hv
  change SpendsLink _ _ ((orThrow ((v.passwordResetTokens.rows.find? (fun r => r.tokenHash == call.hash)).filter
    (PasswordResetToken.usable call.env call.actorType)) _) >>= k) false
  cases hrecord : (v.passwordResetTokens.rows.find? (fun r => r.tokenHash == call.hash)).filter
      (PasswordResetToken.usable call.env call.actorType) with
  | none => trivial
  | some record =>
    have hlink := linkOf_of_found (Option.filter_eq_some_iff.mp hrecord).1
    rw [Store.linkOf, hv] at hlink
    rw [Store.linkOf, hlink]
    exact hk record

theorem PasswordCall.spends (call : PasswordCall) (s : Store) :
    SpendsLink (fun v => v.links = s.links) ((s.linkOf call.hash).getD "") call.program false := by
  obtain ⟨env, actorType, token, newPassword⟩ := call
  cases actorType with
  | staff =>
    refine spendsLink_findPasswordToken ⟨env, .staff, token, newPassword⟩ (fun record => ?_)
    rw [transaction, bind_assoc]
    apply spendsLink_update_bind
    · exact fun _ => rfl
    · exact fun _ => spendsLink_consumeToken _ record
  | clientContact =>
    refine spendsLink_findPasswordToken ⟨env, .clientContact, token, newPassword⟩ (fun record => ?_)
    rw [transaction, bind_assoc]
    apply spendsLink_update_bind
    · exact fun _ => rfl
    · exact fun _ => spendsLink_consumeToken _ record

end Calls

section Runs

variable {ι : Type} [Fintype ι] [DecidableEq ι]

/-- In every run whose uses of a link find it unused, no link sets two
passwords. -/
theorem reset_link_single_use (s : Store) (calls : ι → PasswordCall) {schedule : List (ι × Move Failure)}
    (hunused : Config.Along (Config.Writes FindsUnconsumed) (passwordMachine s calls) schedule) :
    (∀ i, (((passwordMachine s calls).run schedule).tasks i).commits ≤ 1) ∧
      ∀ r ∈ ((passwordMachine s calls).run schedule).db.passwordResetTokens, ∀ i j,
        (calls i).hash = r.tokenHash → 0 < (((passwordMachine s calls).run schedule).tasks i).commits →
        (calls j).hash = r.tokenHash → 0 < (((passwordMachine s calls).run schedule).tasks j).commits → i = j := by
  have hopen : Config.Along (Config.FindsOpen (fun id (s : Store) => s.passwordResetTokens.find id)
      Lock.passwordResetToken Unconsumed) (passwordMachine s calls) schedule := by
    refine hunused.imp (fun c x hw stmt k eff hm hc hs hb id hlock => ?_)
    exact hw stmt k eff hm hc hs hb _ hlock id rfl
  have honce := Config.onceEach_run (fun s t : Store => t.links = s.links) (fun _ => rfl)
    (fun _ _ _ hst htu => htu.trans hst) (fun i => (calls i).leaves.guarantees (fun _ _ h => h)) (fun _ h => h)
    (fun i => (calls i).spends s) hopen
  refine ⟨fun i => (honce.stages i).commits_le, fun r _ i j hi hcommitted hj hcommitted' => ?_⟩
  exact honce.once i j hcommitted hcommitted' (by rw [hi, hj])

end Runs

namespace Sample

/-- A link of the member of staff, and two requests that bring it. -/
def linked : Store :=
  { office with
    passwordResetTokens := (∅ : Table PasswordResetToken.id).insert
      { id := "link", tenantId := "tenant", actorType := .staff, actorId := "staff", tokenHash := "hash-secret"
        expiresAt := 1000 } }

def twoRequests (second : Bool) : PasswordCall :=
  { env := env "a", actorType := .staff, token := "secret", newPassword := if second then "second" else "first" }

/-- Both calls look the link up before either of them uses it. -/
def lookedUp : List (Bool × Move Failure) :=
  [(false, .advance), (true, .advance)] ++ List.replicate 3 (false, .advance) ++ List.replicate 3 (true, .advance)

def oneByOne : List (Bool × Move Failure) := List.replicate 4 (false, .advance) ++ List.replicate 4 (true, .advance)

end Sample

open Sample in
/-- One link, two committed passwords. -/
theorem reset_link_used_twice :
    (∀ i, (twoRequests i).hash = "hash-secret" ∧
      (((passwordMachine linked twoRequests).run lookedUp).tasks i).commits = 1) ∧
    ((passwordMachine linked twoRequests).run lookedUp).db.passwordResetTokens.rows.map PasswordResetToken.tokenHash =
      ["hash-secret"] ∧
    (((passwordMachine linked twoRequests).run lookedUp).db.staffUsers.find "staff").map StaffUser.passwordHash =
      some "hash-second" := by
  refine ⟨by decide +kernel, by decide +kernel, by decide +kernel⟩

open Sample in
theorem reset_link_single_use_oneByOne :
    (((passwordMachine linked twoRequests).run oneByOne).tasks false).commits = 1 ∧
      ∀ r ∈ ((passwordMachine linked twoRequests).run oneByOne).db.passwordResetTokens, ∀ i j,
        (twoRequests i).hash = r.tokenHash → 0 < (((passwordMachine linked twoRequests).run oneByOne).tasks i).commits →
        (twoRequests j).hash = r.tokenHash → 0 < (((passwordMachine linked twoRequests).run oneByOne).tasks j).commits →
          i = j :=
  ⟨by decide +kernel, (reset_link_single_use linked twoRequests (by decide +kernel)).2⟩

end HostPanel.Model

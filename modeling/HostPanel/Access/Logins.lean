import HostPanel.Lib.Growth
import HostPanel.Access.Calls

namespace HostPanel.Model

open HostPanel.Lib HostPanel.Lib.Program

/-- A staff user but for what logins write. -/
def StaffUser.standing (r : StaffUser) : StaffUser :=
  { r with lockedUntil := none, lastLoginAt := none, lastLoginIp := none, updatedAt := 0 }

def ClientContact.standing (r : ClientContact) : ClientContact :=
  { r with lockedUntil := none, lastLoginAt := none, lastLoginIp := none }

section Logins

variable {α : Type} {env : Env} {rel : Store → Store → Prop}

/-- What every write of a login event keeps. -/
def KeptByEvents (rel : Store → Store → Prop) : Prop := ∀ row t, rel t (prisma.loginEvent.insert row t)

/-- What the writes of logins to staff users keep. -/
def KeptByStaff (rel : Store → Store → Prop) : Prop :=
  ∀ i f hf, (∀ r, StaffUser.standing (f r) = r.standing) → ∀ t, rel t (prisma.staffUser.modify i f hf t)

def KeptByContacts (rel : Store → Store → Prop) : Prop :=
  ∀ i f hf, (∀ r, ClientContact.standing (f r) = r.standing) → ∀ t, rel t (prisma.clientContact.modify i f hf t)

def KeptByClients (rel : Store → Store → Prop) : Prop :=
  ∀ i at_ t, rel t (prisma.client.modify i (fun r => { r with lastLoginAt := some at_, updatedAt := at_ }) (fun _ => rfl) t)

theorem guarantees_recordLoginAttempt (hevents : KeptByEvents rel) (input : LoginAttempt) :
    (recordLoginAttempt env input).Guarantees rel :=
  (Relation.guarantees_create _ (hevents _)).transaction.bind (fun _ => trivial)

theorem guarantees_failLogin (hevents : KeptByEvents rel) (actorType : AuthActorType) (actorId : Option Id)
    (input : LoginInput) (email reason : String) :
    (failLogin env actorType actorId input email reason : Db α).Guarantees rel :=
  (guarantees_recordLoginAttempt hevents _).bind (fun _ => trivial)

theorem guarantees_checkSecondFactor (hevents : KeptByEvents rel) (input : StaffLoginInput) (email : String)
    (user : StaffUser) : (checkSecondFactor env input email user).Guarantees rel := by
  unfold checkSecondFactor
  split
  · cases input.totpToken.filter (fun t => t != "") with
    | none => trivial
    | some token =>
      refine (guarantees_lift _).bind (fun secret => ?_)
      unfold checkStaffCode
      split
      · trivial
      · exact guarantees_failLogin hevents _ _ _ _ _
  · trivial

theorem guarantees_completeStaffLogin (hevents : KeptByEvents rel) (hstaff : KeptByStaff rel) (input : StaffLoginInput)
    (email : String) (user : StaffUser) : (completeStaffLogin env input email user).Guarantees rel := by
  refine (guarantees_recordLoginAttempt hevents _).bind (fun _ => Guarantees.bind (Guarantees.transaction ?_) ?_)
  · exact Relation.guarantees_update _ _ _ (hstaff _ _ _ (fun _ => rfl))
  · exact fun _ => trivial

theorem guarantees_lockStaffOut (hstaff : KeptByStaff rel) (user : StaffUser) (locked : Bool) :
    (lockStaffOut env user locked).Guarantees rel := by
  unfold lockStaffOut
  split
  · refine Guarantees.bind (Guarantees.transaction ?_) (fun _ => trivial)
    exact Relation.guarantees_update _ _ _ (hstaff _ _ _ (fun _ => rfl))
  · trivial

/-- A login of staff writes an event, and what logins write of the staff user. -/
theorem guarantees_authenticateStaffUser (hevents : KeptByEvents rel) (hstaff : KeptByStaff rel)
    (input : StaffLoginInput) : (authenticateStaffUser env input).Guarantees rel := by
  refine (Relation.guarantees_findFirst _).bind (fun found => ?_)
  cases found with
  | none => exact guarantees_failLogin hevents _ _ _ _ _
  | some user =>
    simp only [checkStaffAccount]
    split
    · exact guarantees_failLogin hevents _ _ _ _ _
    split
    · exact guarantees_failLogin hevents _ _ _ _ _
    unfold checkStaffPassword
    split
    · exact (guarantees_checkSecondFactor hevents _ _ _).bind (fun _ =>
        guarantees_completeStaffLogin hevents hstaff _ _ _)
    · refine Guarantees.bind (fun _ => trivial) (fun locked => ?_)
      exact (guarantees_lockStaffOut hstaff user locked).bind (fun _ => guarantees_failLogin hevents _ _ _ _ _)

theorem guarantees_completeClientLogin (hevents : KeptByEvents rel) (hcontacts : KeptByContacts rel)
    (hclients : KeptByClients rel) (input : LoginInput) (email : String) (contact : ClientContact) :
    (completeClientLogin env input email contact).Guarantees rel := by
  refine (guarantees_recordLoginAttempt hevents _).bind (fun _ => Guarantees.bind (Guarantees.transaction ?_) ?_)
  · refine Guarantees.bind (Relation.guarantees_update _ _ _ (hcontacts _ _ _ (fun _ => rfl))) (fun _ => ?_)
    exact (Relation.guarantees_update _ _ _ (hclients _ _)).bind (fun _ => trivial)
  · exact fun _ => trivial

theorem guarantees_lockContactOut (hcontacts : KeptByContacts rel) (contact : ClientContact) (locked : Bool) :
    (lockContactOut env contact locked).Guarantees rel := by
  unfold lockContactOut
  split
  · refine Guarantees.bind (Guarantees.transaction ?_) (fun _ => trivial)
    exact Relation.guarantees_update _ _ _ (hcontacts _ _ _ (fun _ => rfl))
  · trivial

theorem guarantees_authenticateClientContact (hevents : KeptByEvents rel) (hcontacts : KeptByContacts rel)
    (hclients : KeptByClients rel) (input : LoginInput) : (authenticateClientContact env input).Guarantees rel := by
  refine (Relation.guarantees_findFirst _).bind (fun found => ?_)
  cases found with
  | none => exact guarantees_failLogin hevents _ _ _ _ _
  | some contact =>
    refine (Relation.guarantees_findUniqueOrThrow _).bind (fun client => ?_)
    unfold checkContactAccount
    split
    · exact guarantees_failLogin hevents _ _ _ _ _
    split
    · exact guarantees_failLogin hevents _ _ _ _ _
    split
    · exact guarantees_failLogin hevents _ _ _ _ _
    unfold checkContactPassword
    split
    · exact guarantees_completeClientLogin hevents hcontacts hclients _ _ _
    · refine Guarantees.bind (fun _ => trivial) (fun locked => ?_)
      exact (guarantees_lockContactOut hcontacts contact locked).bind (fun _ => guarantees_failLogin hevents _ _ _ _ _)

end Logins

end HostPanel.Model

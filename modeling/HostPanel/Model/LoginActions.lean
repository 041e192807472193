import HostPanel.Model.Actions
import HostPanel.Model.Login

namespace HostPanel.Model

open HostPanel.Lib HostPanel.Lib.Program

/-- What the actions use of the authentication library and of `URL`: a sign-in
that answers with a URL, and the query of a URL against a base, if it can be
read. -/
structure AuthLibrary where
  signIn : Credentials → Db String
  searchParams : (url base : String) → Option (List (String × String))

def startsWith (s searchString : String) : Bool := searchString.toList.isPrefixOf s.toList

def authErrorMessages : List (String × String) :=
  [("auth.invalid_credentials", "Incorrect email or password."),
    ("auth.locked", "Too many failed attempts. Please try again in 15 minutes."),
    ("auth.totp_required", "Enter your 2FA code to continue.")]

def extractErrorCode (library : AuthLibrary) (resultUrl : String) : Option String :=
  match library.searchParams resultUrl "http://localhost" with
  | none => none
  | some searchParams =>
    if (searchParams.lookup "error").isSome then (searchParams.lookup "code").or (searchParams.lookup "error")
    else none

/-- The fields of a submitted login form. -/
structure LoginForm where
  next : Option String
  email : Option String
  password : Option String
  totpToken : Option String

def LoginForm.credentials (form : LoginForm) (actorType : AuthActorType) (requestMeta : RequestMeta) : Credentials :=
  { actorType := actorType
    email := form.email.getD ""
    password := form.password.getD ""
    totpToken := some (form.totpToken.getD "")
    ip := requestMeta.ip
    userAgent := requestMeta.userAgent }

def performLogin (library : AuthLibrary) (actorType : AuthActorType) (requestMeta : RequestMeta) (form : LoginForm)
    (fallbackPath : String) : Db ActionResult := do
  let next := (whenGiven form.next).getD fallbackPath
  let result ← library.signIn (form.credentials actorType requestMeta)
  match whenGiven (extractErrorCode library result) with
  | some code =>
    return .error ((authErrorMessages.lookup code).getD "Something went wrong. Please try again.")
  | none => return .redirect (if startsWith next "/" then next else fallbackPath)

def clientLoginAction (library : AuthLibrary) (requestMeta : RequestMeta) (form : LoginForm) : Db ActionResult :=
  performLogin library .clientContact requestMeta form "/portal"

def staffLoginAction (library : AuthLibrary) (requestMeta : RequestMeta) (form : LoginForm) : Db ActionResult :=
  performLogin library .staff requestMeta form "/admin"

/-- A parameter of a query, once or several times. -/
inductive SearchParam where
  | single (value : String)
  | multiple (values : List String)

/-- The hidden field of the login page. -/
def loginPageNext (fallbackPath : String) : Option SearchParam → String
  | some (.single next) => next
  | _ => fallbackPath

def clientLoginPage (next : Option SearchParam) : String := loginPageNext "/portal" next

def staffLoginPage (next : Option SearchParam) : String := loginPageNext "/admin" next

/-- The two login pages of the panel. -/
inductive LoginRoute where
  | client
  | staff

namespace LoginRoute

def path : LoginRoute → String
  | client => "/login"
  | staff => "/admin/login"

def page : LoginRoute → Option SearchParam → String
  | client => clientLoginPage
  | staff => staffLoginPage

def actorType : LoginRoute → AuthActorType
  | client => .clientContact
  | staff => .staff

/-- What the form of the page is sent to. -/
def action (library : AuthLibrary) (requestMeta : RequestMeta) (form : LoginForm) : LoginRoute → Db ActionResult
  | client => clientLoginAction library requestMeta form
  | staff => staffLoginAction library requestMeta form

end LoginRoute

def staffPublicPaths : List String := ["/admin/login", "/admin/set-password", "/admin/reset-password", "/admin/setup"]

def clientPublicPaths : List String := ["/login", "/register", "/verify-email", "/reset-password", "/"]

inductive ProxyResponse where
  | next
  | redirect (path : String) (next : Option String)
deriving DecidableEq

/-- Send visitors without a session to the login pages, which are told where
they come from. -/
def proxy (pathname : String) (session : Option WebSession) : ProxyResponse :=
  let actorType := session.bind WebSession.actorType
  if startsWith pathname "/admin" then
    if staffPublicPaths.any (fun p => startsWith pathname p) then .next
    else if actorType ≠ some .staff then .redirect "/admin/login" (some pathname)
    else .next
  else if startsWith pathname "/portal" then
    if actorType ≠ some .clientContact then .redirect "/login" (some pathname) else .next
  else if pathname ∈ clientPublicPaths ∧ actorType = some .clientContact then
    if pathname = "/login" ∨ pathname = "/register" then .redirect "/portal" none else .next
  else .next

section PerformLogin

variable {library : AuthLibrary} {actorType : AuthActorType} {requestMeta : RequestMeta} {form : LoginForm}
  {fallbackPath url : String} {s t : Store}

/-- Where a login that goes through leads. -/
def LoginForm.location (form : LoginForm) (fallbackPath : String) : String :=
  if startsWith (form.next.getD "") "/" then form.next.getD "" else fallbackPath

theorem startsWith_slash_iff {text : String} : startsWith text "/" = true ↔ ∃ l, text.toList = '/' :: l := by
  have hslash : "/".toList = ['/'] := rfl
  rw [startsWith, hslash, List.isPrefixOf_iff_prefix]
  constructor
  · rintro ⟨l, hl⟩
    exact ⟨l, hl.symm⟩
  · rintro ⟨l, hl⟩
    exact ⟨l, hl.symm⟩

theorem run_performLogin (hsign : (library.signIn (form.credentials actorType requestMeta)).run s = (t, .ok url))
    (hsuccess : whenGiven (extractErrorCode library url) = none) :
    (performLogin library actorType requestMeta form fallbackPath).run s =
      (t, .ok (.redirect (form.location fallbackPath))) := by
  obtain ⟨c, hev⟩ := run_ok_iff.mp hsign
  refine run_ok_iff.mpr ⟨c, ?_⟩
  rw [performLogin, eval_bind, hev]
  simp only [hsuccess]
  have hnext : (if startsWith ((whenGiven form.next).getD fallbackPath) "/" then (whenGiven form.next).getD fallbackPath
      else fallbackPath) = form.location fallbackPath := by
    unfold LoginForm.location
    cases form.next with
    | none => exact ite_self _
    | some next =>
      by_cases hempty : next = ""
      · subst hempty
        exact ite_self _
      · have hgiven : whenGiven (some next) = some next := Option.filter_eq_some_iff.mpr ⟨rfl, bne_iff_ne.mpr hempty⟩
        rw [hgiven, Option.getD_some, Option.getD_some]
  rw [hnext]
  rfl

end PerformLogin

/-- The proxy hands its own path on, and only for the areas it protects. -/
theorem proxy_redirect {pathname path next : String} {session : Option WebSession}
    (h : proxy pathname session = .redirect path (some next)) :
    next = pathname ∧ (startsWith pathname "/admin" = true ∨ startsWith pathname "/portal" = true) := by
  unfold proxy at h
  by_cases hadmin : startsWith pathname "/admin" = true
  · rw [if_pos hadmin] at h
    split at h
    · cases h
    · split at h
      · cases h
        exact ⟨rfl, Or.inl hadmin⟩
      · cases h
  · rw [if_neg hadmin] at h
    split at h
    · rename_i hportal
      split at h
      · cases h
        exact ⟨rfl, Or.inr hportal⟩
      · cases h
    · split at h
      · split at h <;> cases h
      · cases h

end HostPanel.Model

import HostPanel.Access.Calls
import HostPanel.Lib.Url
import HostPanel.Model.LoginActions

namespace HostPanel.Model

open HostPanel.Lib HostPanel.Lib.Program

variable {H : Type} {parseHost : List Char → Option H} {site : Url.Origin H}

/-- The field `next` does not start with a slash, or names no host, or names the
host and port of the site itself. -/
def LoginForm.StaysOnSite (parseHost : List Char → Option H) (site : Url.Origin H) (form : LoginForm) : Prop :=
  startsWith (form.next.getD "") "/" = true → Url.namesHost (Url.clean (form.next.getD "").toList) = true →
    Url.authority parseHost site.scheme ((Url.clean (form.next.getD "").toList).dropWhile Url.isSlash) = some site

theorem resolve_eq_site {path : String} {l : List Char} (hpath : path.toList = '/' :: l)
    (hhost : Url.namesHost (Url.clean path.toList) = false) :
    Url.resolve parseHost site path.toList = some site := by
  rw [hpath] at hhost ⊢
  rw [Url.resolve_slash, Url.relative_eq_base hhost]

theorem location_onSite_iff {form : LoginForm} {fallbackPath : String}
    (hfallback : fallbackPath = "/portal" ∨ fallbackPath = "/admin") :
    Url.resolve parseHost site (form.location fallbackPath).toList = some site ↔ form.StaysOnSite parseHost site := by
  unfold LoginForm.location LoginForm.StaysOnSite
  by_cases hslash : startsWith (form.next.getD "") "/" = true
  · rw [if_pos hslash, imp_iff_right hslash]
    obtain ⟨l, hl⟩ := startsWith_slash_iff.mp hslash
    rw [hl, Url.resolve_slash, Url.relative_eq_base_iff]
  · rw [if_neg hslash]
    refine iff_of_true ?_ (fun h => absurd h hslash)
    obtain rfl | rfl := hfallback
    · exact resolve_eq_site (l := "portal".toList) rfl (by decide)
    · exact resolve_eq_site (l := "admin".toList) rfl (by decide)

/-- A login that goes through redirects, to the site itself exactly when the
form stays on it. -/
theorem performLogin_onSite_iff (parseHost : List Char → Option H) (site : Url.Origin H) {library : AuthLibrary}
    {actorType : AuthActorType} {requestMeta : RequestMeta} {form : LoginForm} {fallbackPath url : String} {s t : Store}
    (hfallback : fallbackPath = "/portal" ∨ fallbackPath = "/admin")
    (hsign : (library.signIn (form.credentials actorType requestMeta)).run s = (t, .ok url))
    (hsuccess : whenGiven (extractErrorCode library url) = none) :
    ∃ location, (performLogin library actorType requestMeta form fallbackPath).run s = (t, .ok (.redirect location)) ∧
      (Url.resolve parseHost site location.toList = some site ↔ form.StaysOnSite parseHost site) :=
  ⟨form.location fallbackPath, run_performLogin hsign hsuccess, location_onSite_iff hfallback⟩

theorem namesHost_path {path : String} {c : Char} {l : List Char} (hpath : path.toList = '/' :: c :: l)
    (hslash : Url.isSlash c = false) (hspace : Url.isC0OrSpace c = false) (htab : Url.isTabOrNewline c = false) :
    Url.namesHost (Url.clean path.toList) = false := by
  rw [hpath, Url.clean_slash, Url.cleanEnd_cons hspace htab, Url.namesHost, hslash]
  rfl

theorem resolve_proxied {pathname path next : String} {session : Option WebSession}
    (h : proxy pathname session = .redirect path (some next)) :
    Url.resolve parseHost site pathname.toList = some site := by
  obtain ⟨-, hadmin | hportal⟩ := proxy_redirect h
  · obtain ⟨l, hl⟩ := List.isPrefixOf_iff_prefix.mp hadmin
    exact resolve_eq_site hl.symm (namesHost_path (c := 'a') hl.symm rfl rfl rfl)
  · obtain ⟨l, hl⟩ := List.isPrefixOf_iff_prefix.mp hportal
    exact resolve_eq_site hl.symm (namesHost_path (c := 'p') hl.symm rfl rfl rfl)

theorem location_proxied {pathname path next fallbackPath : String} {session : Option WebSession} {form : LoginForm}
    (h : proxy pathname session = .redirect path (some next)) (hform : form.next = some next) :
    form.location fallbackPath = pathname := by
  obtain ⟨rfl, hpath⟩ := proxy_redirect h
  have hslash : startsWith next "/" = true := by
    obtain hadmin | hportal := hpath
    · obtain ⟨l, hl⟩ := List.isPrefixOf_iff_prefix.mp hadmin
      exact startsWith_slash_iff.mpr ⟨_, hl.symm⟩
    · obtain ⟨l, hl⟩ := List.isPrefixOf_iff_prefix.mp hportal
      exact startsWith_slash_iff.mpr ⟨_, hl.symm⟩
  rw [LoginForm.location, hform, Option.getD_some, if_pos hslash]

/-- Who is sent to a login page comes back, once signed in, to the page that was
asked for. -/
theorem proxied_login_returns (parseHost : List Char → Option H) (site : Url.Origin H) {library : AuthLibrary}
    {requestMeta : RequestMeta} {form : LoginForm} {route : LoginRoute} {pathname next url : String}
    {session : Option WebSession} {s t : Store}
    (hproxy : proxy pathname session = .redirect route.path (some next))
    (hform : form.next = some (route.page (some (.single next))))
    (hsign : (library.signIn (form.credentials route.actorType requestMeta)).run s = (t, .ok url))
    (hsuccess : whenGiven (extractErrorCode library url) = none) :
    (route.action library requestMeta form).run s = (t, .ok (.redirect pathname)) ∧
      Url.resolve parseHost site pathname.toList = some site := by
  refine ⟨?_, resolve_proxied hproxy⟩
  cases route with
  | client => exact location_proxied hproxy hform ▸ run_performLogin hsign hsuccess
  | staff => exact location_proxied hproxy hform ▸ run_performLogin hsign hsuccess

namespace Sample

/-- Hosts of lower-case letters, digits, dots and hyphens, which the host parser
of browsers leaves as they are. -/
def domain (host : List Char) : Option String :=
  if host.all (fun c => c.isLower || c.isDigit || c == '.' || c == '-') then some (String.ofList host) else none

def panel : Url.Origin String := ⟨.https, "panel.example.test", none⟩

/-- A sign-in answers with the page it came from. -/
def library : AuthLibrary where
  signIn raw := do
    let _ ← authorize (moment "a" 0) raw
    return "https://panel.example.test/login"
  searchParams _ _ := some []

def noMeta : RequestMeta := ⟨none, none⟩

def loginTo (next : String) : LoginForm :=
  { next := some next, email := some "client@example.test", password := some "correct horse", totpToken := none }

end Sample

open Sample in
theorem proxied_login_returns_invoice :
    ∃ t, (clientLoginAction library noMeta (loginTo "/portal/invoices/1")).run office =
        (t, .ok (.redirect "/portal/invoices/1")) ∧
      Url.resolve domain panel "/portal/invoices/1".toList = some panel := by
  have hsign : (library.signIn ((loginTo "/portal/invoices/1").credentials .clientContact noMeta)).returns office
      (fun _ url => decide (url = "https://panel.example.test/login")) = true := by decide +kernel
  obtain ⟨t, url, hsign, _⟩ := returns_iff.mp hsign
  have hproxy : proxy "/portal/invoices/1" none = .redirect LoginRoute.client.path (some "/portal/invoices/1") := by
    decide
  exact ⟨t, proxied_login_returns domain panel hproxy rfl hsign rfl⟩

open Sample in
/-- A login whose form names another host leads there. -/
theorem login_leads_off_site :
    (∃ t, (clientLoginAction library noMeta (loginTo "//evil.example")).run office =
        (t, .ok (.redirect "//evil.example"))) ∧
      Url.resolve domain panel "//evil.example".toList = some ⟨.https, "evil.example", none⟩ ∧
      Url.resolve domain panel "//evil.example".toList ≠ some panel := by
  have hrun : (clientLoginAction library noMeta (loginTo "//evil.example")).returns office
      (fun _ result => decide (result = .redirect "//evil.example")) = true := by decide +kernel
  obtain ⟨t, result, hrun, hresult⟩ := returns_iff.mp hrun
  obtain rfl := of_decide_eq_true hresult
  exact ⟨⟨t, hrun⟩, by decide, by decide⟩

open Sample in
theorem performLogin_onSite_orders :
    ∃ t location, (clientLoginAction library noMeta (loginTo "/portal/orders")).run office =
        (t, .ok (.redirect location)) ∧ Url.resolve domain panel location.toList = some panel := by
  have hsign : (library.signIn ((loginTo "/portal/orders").credentials .clientContact noMeta)).returns office
      (fun _ url => decide (url = "https://panel.example.test/login")) = true := by decide +kernel
  obtain ⟨t, url, hsign, _⟩ := returns_iff.mp hsign
  obtain ⟨location, hrun, hsite⟩ := performLogin_onSite_iff domain panel (Or.inl rfl) hsign rfl
  exact ⟨t, location, hrun, hsite.mpr (fun _ hnames => absurd hnames (by decide))⟩

end HostPanel.Model

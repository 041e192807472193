import HostPanel.Model.Config
import HostPanel.Model.Services

namespace HostPanel.Model

open HostPanel.Lib

/-- A process that runs in the surroundings `env` with a validated environment. -/
def Env.configured (env : Env) (config : EnvConfig) : Env := { env with encryptionKey := config.encryptionKey }

/-- Nothing that the validated environment feeds is found unconfigured later: the
key has its length, and no email fails for want of a provider. -/
structure EnvConfig.Complete (env : Env) (config : EnvConfig) : Prop where
  key : ∃ key, getKey (env.configured config) = .ok key ∧ key.length = 32
  email : ∀ (Element : Type) (mailer : Mailer Element) (input : SendEmailInput Element) (failure : EmailFailure),
    sendEmail mailer config input = .error failure → failure.code ≠ some "email.not_configured"

theorem getKey_ok_iff {env : Env} {key : List UInt8} :
    getKey env = .ok key ↔ key = env.cipher.fromBase64 env.encryptionKey ∧ key.length = 32 := by
  unfold getKey
  by_cases hlength : (env.cipher.fromBase64 env.encryptionKey).length = 32
  · simp only [hlength, if_true, Except.ok.injEq]
    constructor
    · rintro rfl
      exact ⟨rfl, hlength⟩
    · rintro ⟨rfl, _⟩
      rfl
  · simp only [hlength, if_false]
    constructor
    · intro h
      cases h
    · rintro ⟨rfl, h⟩
      exact absurd h hlength

/-- A production environment that passes the check at the start is complete just
when its key decodes to 32 bytes, which the check does not look at. -/
theorem startup_complete_iff (zod : Zod) (source : String → Option String) {config : EnvConfig}
    (hload : loadEnv zod source = .ok config) (hproduction : source "NODE_ENV" = some "production") (env : Env) :
    config.Complete env ↔ ∃ text, source "ENCRYPTION_KEY" = some text ∧ (env.cipher.fromBase64 text).length = 32 := by
  have hkey := (baseSchema_eq_valid (loadEnv_ok hload).1).2
  have hcredentials := credentials_of_loadEnv hload hproduction
  constructor
  · intro h
    obtain ⟨key, hget, hlength⟩ := h.key
    obtain ⟨rfl, _⟩ := getKey_ok_iff.mp hget
    exact ⟨config.encryptionKey, hkey, hlength⟩
  · rintro ⟨text, htext, hlength⟩
    rw [hkey] at htext
    obtain rfl := Option.some.inj htext
    refine ⟨⟨_, getKey_ok_iff.mpr ⟨rfl, hlength⟩, hlength⟩, ?_⟩
    intro Element mailer input failure hfailure
    exact sendEmail_configured hcredentials.1 hcredentials.2 hfailure

namespace Sample

/-- The six bits of a character of base64, of either alphabet. -/
def sextet? (c : Char) : Option ℕ :=
  if 'A' ≤ c ∧ c ≤ 'Z' then some (c.toNat - 'A'.toNat)
  else if 'a' ≤ c ∧ c ≤ 'z' then some (c.toNat - 'a'.toNat + 26)
  else if '0' ≤ c ∧ c ≤ '9' then some (c.toNat - '0'.toNat + 52)
  else if c = '+' ∨ c = '-' then some 62
  else if c = '/' ∨ c = '_' then some 63
  else none

def bytes : List ℕ → List UInt8
  | a :: b :: c :: d :: rest =>
    UInt8.ofNat (a * 4 + b / 16) :: UInt8.ofNat (b * 16 + c / 4) :: UInt8.ofNat (c * 64 + d) :: bytes rest
  | [a, b, c] => [UInt8.ofNat (a * 4 + b / 16), UInt8.ofNat (b * 16 + c / 4)]
  | [a, b] => [UInt8.ofNat (a * 4 + b / 16)]
  | _ => []

/-- Surroundings that decode base64 as `Buffer.from` does. -/
def decoding : Env :=
  { env "k" with
    cipher := { (env "k").cipher with
      fromBase64 := fun text => bytes ((text.toList.takeWhile (fun c => c != '=')).filterMap sextet?) } }

/-- A URL check that takes absolute URLs. -/
def zod : Zod :=
  { url := fun text => if "https://".isPrefixOf text then some text else none
    message := fun _ => "Invalid input" }

/-- The environment of a production process with the given key. -/
def processEnv (key : String) : String → Option String := fun name =>
  [("NODE_ENV", "production"), ("APP_URL", "https://panel.example.test"), ("DATABASE_URL", "postgresql://db"),
    ("REDIS_URL", "redis://cache"), ("AUTH_SECRET", "0123456789abcdef0123456789abcdef"), ("ENCRYPTION_KEY", key),
    ("EMAIL_PROVIDER", "smtp"), ("EMAIL_FROM", "panel@example.test"), ("SMTP_HOST", "localhost"),
    ("SMTP_PORT", "1025")].lookup name

/-- Thirty-two zero bytes. -/
def validKey : String := "AAAAAAAAAAAAAAAAAAAAAAAAAAAAAAAAAAAAAAAAAAA="

/-- Whether the environment passes the check at the start. -/
def starts (key : String) : Bool := (loadEnv zod (processEnv key)).toBool

end Sample

open Sample in
/-- A key of one character passes the check, and no secret can be encrypted with it. -/
theorem short_key_accepted :
    ∃ config, loadEnv zod (processEnv "x") = .ok config ∧ config.encryptionKey = "x" ∧
      (∀ plaintext, ∃ failure, encryptSecret (decoding.configured config) plaintext = .error failure) ∧
      ¬ config.Complete decoding := by
  have hstarts : starts "x" = true := by decide +kernel
  cases hload : loadEnv zod (processEnv "x") with
  | error failure =>
    rw [starts, hload] at hstarts
    cases hstarts
  | ok config =>
    have hkey : config.encryptionKey = "x" := Option.some.inj (baseSchema_eq_valid (loadEnv_ok hload).1).2.symm
    have hlength : (decoding.cipher.fromBase64 "x").length ≠ 32 := by decide
    have hnone : ∀ key, getKey (decoding.configured config) ≠ .ok key := by
      intro key hget
      obtain ⟨rfl, hkeyLength⟩ := getKey_ok_iff.mp hget
      rw [Env.configured, hkey] at hkeyLength
      exact hlength hkeyLength
    refine ⟨config, rfl, hkey, fun plaintext => ?_, fun h => ?_⟩
    · cases hget : getKey (decoding.configured config) with
      | error failure => exact ⟨failure, by rw [encryptSecret, hget]; rfl⟩
      | ok key => exact absurd hget (hnone key)
    · obtain ⟨key, hget, _⟩ := h.key
      exact hnone key hget

open Sample in
theorem startup_complete_iff_sample :
    ∃ config, loadEnv zod (processEnv validKey) = .ok config ∧
      (config.Complete decoding ↔
        ∃ text, processEnv validKey "ENCRYPTION_KEY" = some text ∧ (decoding.cipher.fromBase64 text).length = 32) ∧
      (decoding.cipher.fromBase64 validKey).length = 32 := by
  have hstarts : starts validKey = true := by decide +kernel
  cases hload : loadEnv zod (processEnv validKey) with
  | error failure =>
    rw [starts, hload] at hstarts
    cases hstarts
  | ok config =>
    exact ⟨config, rfl, startup_complete_iff zod (processEnv validKey) hload rfl decoding, by decide +kernel⟩

end HostPanel.Model

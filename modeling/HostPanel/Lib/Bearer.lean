import Mathlib.Data.Option.Basic

namespace HostPanel.Lib

variable {σ ρ υ T κ : Type} [LE T] [DecidableEq κ]

/-- Sessions by which the bearer of a token acts for an account: a session
serves while it is live and its account is active. -/
structure Bearer (σ ρ υ T κ : Type) where
  sessions : σ → List ρ
  token : ρ → κ
  live : T → ρ → Bool
  account : σ → ρ → Option υ
  active : υ → Bool

namespace Bearer

variable (B : Bearer σ ρ υ T κ)

def sessionOf (s : σ) (k : κ) : Option ρ := (B.sessions s).find? (fun r => decide (B.token r = k))

/-- The session and the account a token is accepted for. -/
def accepts (s : σ) (now : T) (k : κ) : Option (ρ × υ) :=
  ((B.sessionOf s k).filter (B.live now)).bind (fun r =>
    ((B.account s r).filter B.active).map (fun u => (r, u)))

/-- There is a session under the token, and its account exists. -/
def Held (s : σ) (k : κ) : Prop := ∃ r u, B.sessionOf s k = some r ∧ B.account s r = some u

/-- A change of the state lets sessions and accounts only expire. -/
structure Expires (s s' : σ) : Prop where
  session : ∀ k r, B.sessionOf s k = some r → ∃ r', B.sessionOf s' k = some r' ∧
    (∀ now now', now ≤ now' → B.live now' r' = true → B.live now r = true) ∧
    ∀ u, B.account s r = some u → ∃ u', B.account s' r' = some u' ∧ (B.active u' = true → B.active u = true)

variable {B} {s s' : σ} {k : κ} {now now' : T}

omit [LE T] in
theorem accepts_eq_some_iff {r : ρ} {u : υ} : B.accepts s now k = some (r, u) ↔
    B.sessionOf s k = some r ∧ B.live now r = true ∧ B.account s r = some u ∧ B.active u = true := by
  simp only [accepts, Option.bind_eq_some_iff, Option.filter_eq_some_iff, Option.map_eq_some_iff, Prod.mk.injEq]
  constructor
  · rintro ⟨r', ⟨hr, hlive⟩, u', ⟨hu, hactive⟩, rfl, rfl⟩
    exact ⟨hr, hlive, hu, hactive⟩
  · rintro ⟨hr, hlive, hu, hactive⟩
    exact ⟨r, ⟨hr, hlive⟩, u, ⟨hu, hactive⟩, rfl, rfl⟩

omit [LE T] in
theorem token_of_sessionOf {r : ρ} (h : B.sessionOf s k = some r) : B.token r = k :=
  of_decide_eq_true (List.find?_some (p := fun r => decide (B.token r = k)) h)

omit [LE T] in
theorem accepts_eq_none_iff : B.accepts s now k = none ↔ ∀ r, B.sessionOf s k = some r →
    B.live now r = false ∨ ∀ u, B.account s r = some u → B.active u = false := by
  constructor
  · intro hnone r hr
    cases hlive : B.live now r with
    | false => exact Or.inl rfl
    | true =>
      refine Or.inr (fun u hu => ?_)
      by_contra hactive
      have hsome := accepts_eq_some_iff.mpr ⟨hr, hlive, hu, Bool.not_eq_false _ ▸ hactive⟩
      rw [hnone] at hsome
      cases hsome
  · intro h
    by_contra hsome
    obtain ⟨⟨r, u⟩, hacc⟩ := Option.ne_none_iff_exists'.mp hsome
    obtain ⟨hr, hlive, hu, hactive⟩ := accepts_eq_some_iff.mp hacc
    obtain hdead | hinactive := h r hr
    · rw [hlive] at hdead
      cases hdead
    · rw [hinactive u hu] at hactive
      cases hactive

omit [LE T] in
theorem sessionOf_of_append {r : ρ} (hadd : B.sessions s' = B.sessions s ++ [r])
    (hnew : ∀ q ∈ B.sessions s, B.token q ≠ B.token r) : B.sessionOf s' (B.token r) = some r := by
  have hnone : (B.sessions s).find? (fun q => decide (B.token q = B.token r)) = none :=
    List.find?_eq_none.mpr (fun q hq => by simpa using hnew q hq)
  rw [sessionOf, hadd, List.find?_append, hnone, List.find?_singleton]
  simp

theorem Held.step (hh : B.Held s k) (h : B.Expires s s') : B.Held s' k := by
  obtain ⟨r, u, hr, hu⟩ := hh
  obtain ⟨r', hr', _, haccount⟩ := h.session k r hr
  obtain ⟨u', hu', _⟩ := haccount u hu
  exact ⟨r', u', hr', hu'⟩

theorem accepts_of_later (hh : B.Held s k) (h : B.Expires s s') (hle : now ≤ now')
    (hsome : (B.accepts s' now' k).isSome = true) : (B.accepts s now k).isSome = true := by
  obtain ⟨⟨q', v'⟩, hacc⟩ := Option.isSome_iff_exists.mp hsome
  obtain ⟨hq', hlive, hv', hactive⟩ := accepts_eq_some_iff.mp hacc
  obtain ⟨r, u, hr, hu⟩ := hh
  obtain ⟨r', hr', hage, haccount⟩ := h.session k r hr
  obtain ⟨u', hu', hactives⟩ := haccount u hu
  cases hr'.symm.trans hq'
  cases hu'.symm.trans hv'
  have hwas := accepts_eq_some_iff.mpr ⟨hr, hage now now' hle hlive, hu, hactives hactive⟩
  exact Option.isSome_iff_exists.mpr ⟨_, hwas⟩

theorem refused_later (hh : B.Held s k) (h : B.Expires s s') (hle : now ≤ now') (hnone : B.accepts s now k = none) :
    B.accepts s' now' k = none := by
  by_contra hsome
  have hwas := accepts_of_later hh h hle (Option.isSome_iff_ne_none.mpr hsome)
  rw [hnone] at hwas
  cases hwas

end Bearer

end HostPanel.Lib

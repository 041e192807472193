import Mathlib.Data.List.Induction
import HostPanel.Lib.Run

namespace HostPanel.Lib

variable {σ α τ : Type} {step : σ → α → σ} {s : σ} {a : α} {t : τ}

theorem alongRun_not_or_last (E : σ → α → Prop) (s : σ) (as : List α) :
    AlongRun step (fun s a => ¬ E s a) s as ∨ ∃ before a later, as = before ++ a :: later ∧ E (runFrom step s before) a ∧
      AlongRun step (fun s a => ¬ E s a) (step (runFrom step s before) a) later := by
  induction as using List.reverseRecOn with
  | nil => exact Or.inl trivial
  | append_singleton as a ih =>
    by_cases ha : E (runFrom step s as) a
    · exact Or.inr ⟨as, a, [], rfl, ha, trivial⟩
    · obtain hnone | ⟨before, b, later, rfl, hb, hlater⟩ := ih
      · exact Or.inl (alongRun_append.mpr ⟨hnone, ha, trivial⟩)
      · refine Or.inr ⟨before, b, later ++ [a], by rw [List.append_assoc, List.cons_append], hb, ?_⟩
        rw [runFrom_append, runFrom_cons] at ha
        exact alongRun_append.mpr ⟨hlater, ha, trivial⟩

/-- A value that some steps write. -/
structure Register (σ α τ : Type) where
  value : σ → τ
  writes : σ → α → τ → Prop

namespace Register

variable (R : Register σ α τ) (step)

/-- A step writes one value, or leaves the one there is. -/
def Keeps (s : σ) (a : α) : Prop :=
  (R.value (step s a) = R.value s ∧ ∀ t, ¬ R.writes s a t) ∨ ∀ t, R.writes s a t ↔ t = R.value (step s a)

abbrev Unwritten : σ → List α → Prop := AlongRun step (fun s a => ¬ ∃ t, R.writes s a t)

variable {R step}

theorem Keeps.value_of_unwritten (h : R.Keeps step s a) (hunwritten : ¬ ∃ t, R.writes s a t) :
    R.value (step s a) = R.value s := by
  obtain ⟨hsame, _⟩ | hwrites := h
  · exact hsame
  · exact absurd ⟨_, (hwrites _).mpr rfl⟩ hunwritten

theorem Keeps.value_of_writes (h : R.Keeps step s a) (hwritten : R.writes s a t) : R.value (step s a) = t := by
  obtain ⟨_, hnone⟩ | hwrites := h
  · exact absurd hwritten (hnone t)
  · exact ((hwrites t).mp hwritten).symm

variable {I : σ → Prop}

theorem value_runFrom (hinv : ∀ s a, I s → I (step s a)) (hkeeps : ∀ s a, I s → R.Keeps step s a) (hs : I s)
    {as : List α} (hunwritten : R.Unwritten step s as) : R.value (runFrom step s as) = R.value s := by
  have hrun := runFrom_inv (I := fun q => I q ∧ R.value q = R.value s) (fun q a hq ha => ?_) ⟨hs, rfl⟩ hunwritten
  · exact hrun.2
  · exact ⟨hinv q a hq.1, ((hkeeps q a hq.1).value_of_unwritten ha).trans hq.2⟩

/-- After a run a register holds what was written last, or what it held. -/
theorem value_iff (hinv : ∀ s a, I s → I (step s a)) (hkeeps : ∀ s a, I s → R.Keeps step s a) (hs : I s) (as : List α) :
    R.value (runFrom step s as) = t ↔ (R.value s = t ∧ R.Unwritten step s as) ∨
      ∃ before a later, as = before ++ a :: later ∧ R.writes (runFrom step s before) a t ∧
        R.Unwritten step (step (runFrom step s before) a) later := by
  have hI : ∀ bs, I (runFrom step s bs) := fun bs =>
    runFrom_inv (G := fun _ _ => True) (fun q a hq _ => hinv q a hq) hs (alongRun_of_forall (fun _ _ => trivial) s bs)
  have hlast : ∀ before a later, R.Unwritten step (step (runFrom step s before) a) later →
      R.value (runFrom step s (before ++ a :: later)) = R.value (step (runFrom step s before) a) := by
    intro before a later hlater
    rw [runFrom_append, runFrom_cons]
    exact value_runFrom hinv hkeeps (hinv _ a (hI before)) hlater
  constructor
  · rintro rfl
    obtain hnone | ⟨before, a, later, rfl, ⟨t, hwrites⟩, hlater⟩ :=
      alongRun_not_or_last (fun s a => ∃ t, R.writes s a t) s as
    · exact Or.inl ⟨(value_runFrom hinv hkeeps hs hnone).symm, hnone⟩
    · refine Or.inr ⟨before, a, later, rfl, ?_, hlater⟩
      rw [hlast before a later hlater, (hkeeps _ a (hI before)).value_of_writes hwrites]
      exact hwrites
  · rintro (⟨rfl, hnone⟩ | ⟨before, a, later, rfl, hwrites, hlater⟩)
    · exact value_runFrom hinv hkeeps hs hnone
    · rw [hlast before a later hlater]
      exact (hkeeps _ a (hI before)).value_of_writes hwrites

end Register

/-- Vouchers that are issued once and serve until they are spent: what a slot
holds, which voucher still serves, and which steps issue and spend. -/
structure Voucher (σ α τ : Type) where
  slot : σ → Option τ
  serves : τ → Prop
  issues : σ → α → τ → Prop
  spends : σ → α → Prop

namespace Voucher

variable (V : Voucher σ α τ) (step)

/-- A step leaves the slot alone, fills it where it is empty, or spends what it
holds. -/
def Keeps (s : σ) (a : α) : Prop :=
  (V.slot (step s a) = V.slot s ∧ ¬ V.spends s a ∧ ∀ t, ¬ V.issues s a t) ∨
    (V.slot s = none ∧ ¬ V.spends s a ∧
      ∃ t, V.slot (step s a) = some t ∧ V.serves t ∧ ∀ t', V.issues s a t' ↔ t' = t) ∨
    ((V.slot s).isSome = true ∧ V.spends s a ∧ (∀ t, ¬ V.issues s a t) ∧
      ∃ t, V.slot (step s a) = some t ∧ ¬ V.serves t)

/-- Steps that do not spend. -/
abbrev Unspent : σ → List α → Prop := AlongRun step (fun s a => ¬ V.spends s a)

variable {V step}

theorem Keeps.slot_of_issues (h : V.Keeps step s a) (hissues : V.issues s a t) :
    V.slot (step s a) = some t ∧ V.serves t := by
  obtain ⟨_, _, hnone⟩ | ⟨_, _, t', hslot, hserves, hissued⟩ | ⟨_, _, hnone, _⟩ := h
  · exact absurd hissues (hnone t)
  · obtain rfl := (hissued t).mp hissues
    exact ⟨hslot, hserves⟩
  · exact absurd hissues (hnone t)

theorem Keeps.slot_of_unspent (h : V.Keeps step s a) (hunspent : ¬ V.spends s a) (hslot : V.slot s = some t) :
    V.slot (step s a) = some t := by
  obtain ⟨hsame, _, _⟩ | ⟨hempty, _⟩ | ⟨_, hspends, _⟩ := h
  · exact hsame.trans hslot
  · rw [hslot] at hempty
    cases hempty
  · exact absurd hspends hunspent

/-- A step that issues or spends a voucher. -/
def Handles (V : Voucher σ α τ) (s : σ) (a : α) : Prop := (∃ t, V.issues s a t) ∨ V.spends s a

theorem Keeps.slot_of_unhandled (h : V.Keeps step s a) (hunhandled : ¬ V.Handles s a) : V.slot (step s a) = V.slot s := by
  obtain ⟨hsame, _⟩ | ⟨_, _, t, _, _, hissued⟩ | ⟨_, hspends, _⟩ := h
  · exact hsame
  · exact absurd (Or.inl ⟨t, (hissued t).mpr rfl⟩) hunhandled
  · exact absurd (Or.inr hspends) hunhandled

theorem Keeps.issues_of_serves (h : V.Keeps step s a) (hhandles : V.Handles s a) (hslot : V.slot (step s a) = some t)
    (hserves : V.serves t) : V.issues s a t := by
  obtain ⟨_, hunspent, hnone⟩ | ⟨_, _, t', hnew, _, hissued⟩ | ⟨_, _, _, t', hspent, hnot⟩ := h
  · obtain ⟨t', ht'⟩ | hspends := hhandles
    · exact absurd ht' (hnone t')
    · exact absurd hspends hunspent
  · exact (hissued t).mpr (Option.some.inj (hslot.symm.trans hnew))
  · obtain rfl := Option.some.inj (hspent.symm.trans hslot)
    exact absurd hserves hnot

/-- In a run from an empty slot a voucher serves just when a step issued it and no
later one spent it. -/
theorem serves_iff (hkeeps : ∀ s a, V.Keeps step s a) (hempty : V.slot s = none) (as : List α) :
    (V.slot (runFrom step s as) = some t ∧ V.serves t) ↔
      ∃ before a later, as = before ++ a :: later ∧ V.issues (runFrom step s before) a t ∧
        V.Unspent step (step (runFrom step s before) a) later := by
  have hsame : ∀ (q : σ) (bs : List α), AlongRun step (fun s a => ¬ V.Handles s a) q bs →
      V.slot (runFrom step q bs) = V.slot q := fun q bs hquiet =>
    runFrom_inv (I := fun r => V.slot r = V.slot q)
      (fun r a hr ha => ((hkeeps r a).slot_of_unhandled ha).trans hr) rfl hquiet
  constructor
  · rintro ⟨hslot, hserves⟩
    obtain hnone | ⟨before, a, later, rfl, hhandles, hlater⟩ := alongRun_not_or_last V.Handles s as
    · rw [hsame s as hnone, hempty] at hslot
      cases hslot
    · rw [runFrom_append, runFrom_cons, hsame _ later hlater] at hslot
      refine ⟨before, a, later, rfl, (hkeeps _ a).issues_of_serves hhandles hslot hserves, ?_⟩
      exact hlater.imp (fun _ _ hunhandled hspends => hunhandled (Or.inr hspends))
  · rintro ⟨before, a, later, rfl, hissues, hunspent⟩
    obtain ⟨hslot, hserves⟩ := (hkeeps (runFrom step s before) a).slot_of_issues hissues
    rw [runFrom_append, runFrom_cons]
    refine ⟨?_, hserves⟩
    exact runFrom_inv (I := fun s => V.slot s = some t) (fun s a hs ha => (hkeeps s a).slot_of_unspent ha hs) hslot
      hunspent

end Voucher

end HostPanel.Lib

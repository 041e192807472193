import Mathlib.Data.List.Basic

namespace HostPanel.Lib

variable {ι φ ω : Type}

/-- One entry of a log of changes: the object that changed, the fields it names
and the values it keeps of them from before and after. -/
structure Snapshot (ι φ ω : Type) where
  subject : ι
  names : φ → Prop
  before : φ → Option ω
  after : φ → Option ω

namespace Snapshot

/-- The entry tells how the fields of all objects went from `w` to `w'`. -/
structure Records (e : Snapshot ι φ ω) (w w' : ι → φ → ω) : Prop where
  before : ∀ f, e.names f → e.before f = some (w e.subject f)
  after : ∀ f, e.names f → e.after f = some (w' e.subject f)
  unnamed : ∀ f, ¬e.names f → e.before f = none
  rest : ∀ i f, ¬(i = e.subject ∧ e.names f) → w' i f = w i f

/-- Put the values from before back. -/
def undo [DecidableEq ι] (e : Snapshot ι φ ω) (w : ι → φ → ω) : ι → φ → ω :=
  fun i f => if i = e.subject then (e.before f).getD (w i f) else w i f

theorem Records.undo_eq [DecidableEq ι] {e : Snapshot ι φ ω} {w w' : ι → φ → ω} (h : e.Records w w') :
    e.undo w' = w := by
  funext i f
  by_cases hi : i = e.subject
  · subst hi
    rw [undo, if_pos rfl]
    by_cases hf : e.names f
    · rw [h.before f hf, Option.getD_some]
    · rw [h.unnamed f hf, Option.getD_none]
      exact h.rest _ _ (fun hn => hf hn.2)
  · rw [undo, if_neg hi]
    exact h.rest _ _ (fun hn => hi hn.1)

end Snapshot

/-- A log, oldest entry first, that leads from `w` to `w'`. -/
def Trail : (ι → φ → ω) → List (Snapshot ι φ ω) → (ι → φ → ω) → Prop
  | w, [], w' => w' = w
  | w, e :: es, w' => ∃ next, e.Records w next ∧ Trail next es w'

/-- Undo a log, newest entry first. -/
def rewind [DecidableEq ι] (es : List (Snapshot ι φ ω)) (w : ι → φ → ω) : ι → φ → ω := es.foldr Snapshot.undo w

namespace Trail

variable {w w' : ι → φ → ω} {es fs : List (Snapshot ι φ ω)}

theorem append_iff : Trail w (es ++ fs) w' ↔ ∃ mid, Trail w es mid ∧ Trail mid fs w' := by
  induction es generalizing w with
  | nil => exact ⟨fun h => ⟨w, rfl, h⟩, fun ⟨_, rfl, h⟩ => h⟩
  | cons e es ih =>
    constructor
    · rintro ⟨next, he, h⟩
      obtain ⟨mid, hes, hfs⟩ := ih.mp h
      exact ⟨mid, ⟨next, he, hes⟩, hfs⟩
    · rintro ⟨mid, ⟨next, he, hes⟩, hfs⟩
      exact ⟨next, he, ih.mpr ⟨mid, hes, hfs⟩⟩

theorem rewind_eq [DecidableEq ι] (h : Trail w es w') : rewind es w' = w := by
  induction es generalizing w with
  | nil => exact h
  | cons e es ih =>
    obtain ⟨next, he, hes⟩ := h
    have hr : rewind (e :: es) w' = e.undo (rewind es w') := rfl
    rw [hr, ih hes]
    exact he.undo_eq

theorem untouched {i : ι} {f : φ} (h : Trail w es w') (hes : ∀ e ∈ es, ¬(i = e.subject ∧ e.names f)) :
    w' i f = w i f := by
  induction es generalizing w with
  | nil => rw [h]
  | cons e es ih =>
    obtain ⟨next, he, htail⟩ := h
    rw [ih htail (fun b hb => hes b (List.mem_cons_of_mem e hb))]
    exact he.rest i f (hes e List.mem_cons_self)

/-- Two entries for one field of one object, with none in between: the later
one starts from the value the earlier one ended with. -/
theorem linked {e e' : Snapshot ι φ ω} {front between back : List (Snapshot ι φ ω)} {f : φ}
    (h : Trail w (front ++ e :: (between ++ e' :: back)) w') (hs : e'.subject = e.subject) (hf : e.names f)
    (hf' : e'.names f) (hb : ∀ b ∈ between, ¬(e.subject = b.subject ∧ b.names f)) : e'.before f = e.after f := by
  obtain ⟨_, _, next, he, hrest⟩ := append_iff.mp h
  obtain ⟨mid, hbetween, _, he', _⟩ := append_iff.mp hrest
  have hkept := hbetween.untouched hb
  rw [he'.before f hf', he.after f hf, hs, hkept]

end Trail

end HostPanel.Lib

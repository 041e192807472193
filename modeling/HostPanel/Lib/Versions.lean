import Mathlib.Data.List.Chain
import Mathlib.Data.Set.Image
import Mathlib.Order.Lattice
import Mathlib.Data.Option.Basic

namespace HostPanel.Lib

variable {ρ T : Type} [LinearOrder T]

/-- What a table of versions says of a row: when it starts to hold, and when it
stops, if that is known. -/
structure Validity (ρ T : Type) where
  start : ρ → T
  stop : ρ → Option T

namespace Validity

variable (V : Validity ρ T)

/-- The row holds at an instant: from its start on, and until its stop. -/
def InEffect (t : T) (r : ρ) : Prop := V.start r ≤ t ∧ ∀ e, V.stop r = some e → t < e

instance (t : T) (r : ρ) : Decidable (V.InEffect t r) :=
  match h : V.stop r with
  | none => decidable_of_iff (V.start r ≤ t) (by simp [InEffect, h])
  | some e => decidable_of_iff (V.start r ≤ t ∧ t < e) (by simp [InEffect, h])

/-- The rows, in the order they were made, tile the time from the first start
on: each stops where the next one starts, and only the last goes on. -/
def Tiled (l : List ρ) : Prop :=
  l.IsChain (fun a b => V.stop a = some (V.start b) ∧ V.start a ≤ V.start b) ∧
    ∀ r, l.getLast? = some r → V.stop r = none

variable {V}

theorem tiled_nil : V.Tiled [] := ⟨List.isChain_nil, fun _ h => nomatch h⟩

theorem tiled_singleton {r : ρ} : V.Tiled [r] ↔ V.stop r = none :=
  ⟨fun h => h.2 r rfl, fun h => ⟨List.isChain_singleton r, fun _ hq => Option.some.inj hq ▸ h⟩⟩

theorem tiled_cons_cons {a b : ρ} {l : List ρ} :
    V.Tiled (a :: b :: l) ↔ (V.stop a = some (V.start b) ∧ V.start a ≤ V.start b) ∧ V.Tiled (b :: l) := by
  rw [Tiled, List.isChain_cons_cons, List.getLast?_cons_cons, and_assoc]
  exact Iff.rfl

theorem Tiled.start_le {a : ρ} {l : List ρ} (h : V.Tiled (a :: l)) {r : ρ} (hr : r ∈ a :: l) :
    V.start a ≤ V.start r := by
  induction l generalizing a with
  | nil => rw [List.mem_singleton.mp hr]
  | cons b l ih =>
    obtain ⟨hab, hl⟩ := tiled_cons_cons.mp h
    obtain rfl | hr := List.mem_cons.mp hr
    · exact le_rfl
    · exact hab.2.trans (ih hl hr)

/-- Every row but the last has stopped, not before it started. -/
theorem Tiled.start_le_stop {l : List ρ} (h : V.Tiled l) {r : ρ} (hr : r ∈ l) {e : T} (he : V.stop r = some e) :
    V.start r ≤ e := by
  induction l with
  | nil => exact absurd hr List.not_mem_nil
  | cons a l ih =>
    cases l with
    | nil =>
      rw [List.mem_singleton.mp hr, tiled_singleton.mp h] at he
      cases he
    | cons b l =>
      obtain ⟨hab, hl⟩ := tiled_cons_cons.mp h
      obtain rfl | hr := List.mem_cons.mp hr
      · rw [hab.1] at he
        exact Option.some.inj he ▸ hab.2
      · exact ih hl hr

theorem Tiled.eq_getLast {l : List ρ} (h : V.Tiled l) {r : ρ} (hr : r ∈ l) (ho : V.stop r = none) :
    l.getLast? = some r := by
  induction l with
  | nil => exact absurd hr List.not_mem_nil
  | cons a l ih =>
    cases l with
    | nil => rw [List.mem_singleton.mp hr, List.getLast?_singleton]
    | cons b l =>
      obtain ⟨hab, hl⟩ := tiled_cons_cons.mp h
      rw [List.getLast?_cons_cons]
      obtain rfl | hr := List.mem_cons.mp hr
      · rw [hab.1] at ho
        cases ho
      · exact ih hl hr

/-- The rows that have started by an instant. -/
abbrev started (V : Validity ρ T) (t : T) (l : List ρ) : List ρ := l.filter (fun r => decide (V.start r ≤ t))

abbrev inEffect (V : Validity ρ T) (t : T) (l : List ρ) : List ρ := l.filter (fun r => decide (V.InEffect t r))

theorem started_cons (t : T) (a : ρ) (l : List ρ) :
    V.started t (a :: l) = if V.start a ≤ t then a :: V.started t l else V.started t l := by
  simp only [started, List.filter_cons, decide_eq_true_eq]

theorem inEffect_cons (t : T) (a : ρ) (l : List ρ) :
    V.inEffect t (a :: l) = if V.InEffect t a then a :: V.inEffect t l else V.inEffect t l := by
  simp only [inEffect, List.filter_cons, decide_eq_true_eq]

/-- The row in effect at an instant is the last one that has started by then. -/
theorem Tiled.inEffect_eq {l : List ρ} (h : V.Tiled l) (t : T) :
    V.inEffect t l = (V.started t l).getLast?.toList := by
  induction l with
  | nil => rfl
  | cons a l ih =>
    cases l with
    | nil =>
      have hstop := tiled_singleton.mp h
      by_cases hs : V.start a ≤ t <;> simp [InEffect, hstop, hs]
    | cons b l =>
      obtain ⟨hab, hl⟩ := tiled_cons_cons.mp h
      rw [inEffect_cons, started_cons, ih hl]
      by_cases hb : V.start b ≤ t
      · -- The second row has started, so the first one has stopped.
        have ha : ¬ V.InEffect t a := fun hin => absurd (hin.2 _ hab.1) (not_lt.mpr hb)
        rw [if_neg ha, if_pos (hab.2.trans hb), started_cons t b, if_pos hb, List.getLast?_cons_cons]
      · -- Nothing after the first row has started.
        have hnone : V.started t (b :: l) = [] := by
          rw [List.filter_eq_nil_iff]
          intro r hr hle
          exact hb ((hl.start_le hr).trans (of_decide_eq_true hle))
        have hlt : ∀ e, V.stop a = some e → t < e := by
          intro e he
          rw [hab.1] at he
          exact Option.some.inj he ▸ not_le.mp hb
        rw [hnone]
        by_cases hs : V.start a ≤ t
        · rw [if_pos ⟨hs, hlt⟩, if_pos hs]
          rfl
        · rw [if_neg (fun hin => hs hin.1), if_neg hs]

theorem Tiled.eq_of_inEffect {l : List ρ} (h : V.Tiled l) {t : T} {r q : ρ} (hr : r ∈ l) (hq : q ∈ l)
    (hrt : V.InEffect t r) (hqt : V.InEffect t q) : r = q := by
  have key : ∀ x ∈ l, V.InEffect t x → (V.started t l).getLast? = some x := by
    intro x hx hin
    rw [← Option.mem_toList, ← h.inEffect_eq t]
    exact List.mem_filter.mpr ⟨hx, decide_eq_true hin⟩
  exact Option.some.inj ((key r hr hrt).symm.trans (key q hq hqt))

/-- The row that goes on is closed where a new one starts. -/
theorem Tiled.supersede {l : List ρ} (h : V.Tiled l) {close : ρ → ρ} {new : ρ}
    (hstart : ∀ r, V.start (close r) = V.start r) (hstop : ∀ r, V.stop (close r) = some (V.start new))
    (hopen : V.stop new = none) (hle : ∀ r ∈ l, V.stop r = none → V.start r ≤ V.start new) :
    V.Tiled (l.map (fun r => if V.stop r = none then close r else r) ++ [new]) := by
  induction l with
  | nil => exact tiled_singleton.mpr hopen
  | cons a l ih =>
    cases l with
    | nil =>
      have ha := tiled_singleton.mp h
      rw [List.map_singleton, if_pos ha]
      refine tiled_cons_cons.mpr ⟨⟨hstop a, ?_⟩, tiled_singleton.mpr hopen⟩
      rw [hstart]
      exact hle a (List.mem_singleton.mpr rfl) ha
    | cons b l =>
      obtain ⟨hab, hl⟩ := tiled_cons_cons.mp h
      have hrest := ih hl (fun r hr => hle r (List.mem_cons_of_mem a hr))
      have ha : V.stop a ≠ none := by
        rw [hab.1]
        exact Option.some_ne_none _
      have hb : V.start (if V.stop b = none then close b else b) = V.start b := by
        by_cases hn : V.stop b = none
        · rw [if_pos hn, hstart]
        · rw [if_neg hn]
      rw [List.map_cons, if_neg ha]
      refine tiled_cons_cons.mpr ⟨?_, hrest⟩
      rw [hb]
      exact hab

/-- The row as it was, or closed at an instant if it went on. -/
def ClosesAt (V : Validity ρ T) (e : T) (r q : ρ) : Prop :=
  q = r ∨ (V.stop r = none ∧ V.start q = V.start r ∧ V.stop q = some e)

theorem ClosesAt.inEffect_iff {e t : T} {r q : ρ} (h : V.ClosesAt e r q) (ht : t < e) :
    V.InEffect t q ↔ V.InEffect t r := by
  obtain rfl | ⟨hopen, hstart, hstop⟩ := h
  · exact Iff.rfl
  · have hq : ∀ x, V.stop q = some x → t < x := by
      intro x hx
      rw [hstop] at hx
      exact Option.some.inj hx ▸ ht
    have hr : ∀ x, V.stop r = some x → t < x := by
      intro x hx
      rw [hopen] at hx
      cases hx
    rw [InEffect, InEffect, hstart]
    exact and_congr_right (fun _ => iff_of_true hq hr)

theorem not_inEffect_of_stop {e t : T} {r : ρ} (hstop : V.stop r = some e) (ht : e ≤ t) : ¬ V.InEffect t r :=
  fun h => absurd (h.2 e hstop) (not_lt.mpr ht)

theorem inEffect_of_open {r : ρ} {t : T} (hopen : V.stop r = none) : V.InEffect t r ↔ V.start r ≤ t := by
  refine ⟨fun h => h.1, fun h => ⟨h, fun e he => ?_⟩⟩
  rw [hopen] at he
  cases he

theorem inEffect_supersede {l new : List ρ} {close : ρ → ρ} {e t : T} (hclose : ∀ r ∈ l, V.ClosesAt e r (close r))
    (hnew : ∀ r ∈ new, V.start r = e) (ht : t < e) :
    V.inEffect t (l.map close ++ new) = (V.inEffect t l).map close := by
  have hnone : new.filter (fun r => decide (V.InEffect t r)) = [] := by
    refine List.filter_eq_nil_iff.mpr (fun r hr hin => ?_)
    have hle := (of_decide_eq_true hin).1
    rw [hnew r hr] at hle
    exact absurd ht (not_lt.mpr hle)
  rw [inEffect, List.filter_append, hnone, List.append_nil, List.filter_map]
  congr 1
  apply List.filter_congr
  intro r hr
  exact decide_eq_decide.mpr ((hclose r hr).inEffect_iff ht)

/-- What a search for the row that starts last may find: any row that no other
starts after, and nothing only where there is no row. -/
def latest (V : Validity ρ T) (l : List ρ) : Set (Option ρ) :=
  {found | match found with
    | none => l = []
    | some r => r ∈ l ∧ ∀ q ∈ l, V.start q ≤ V.start r}

theorem latest_map {f : ρ → ρ} (hstart : ∀ r, V.start (f r) = V.start r) (l : List ρ) :
    V.latest (l.map f) = Option.map f '' V.latest l := by
  ext found
  constructor
  · intro h
    cases found with
    | none => exact ⟨none, List.map_eq_nil_iff.mp h, rfl⟩
    | some q =>
      obtain ⟨hq, hlast⟩ := h
      obtain ⟨r, hr, rfl⟩ := List.mem_map.mp hq
      refine ⟨some r, ⟨hr, fun x hx => ?_⟩, rfl⟩
      have hle := hlast (f x) (List.mem_map_of_mem hx)
      rwa [hstart, hstart] at hle
  · rintro ⟨found, h, rfl⟩
    cases found with
    | none => exact List.map_eq_nil_iff.mpr h
    | some r =>
      refine ⟨List.mem_map_of_mem h.1, fun q hq => ?_⟩
      obtain ⟨x, hx, rfl⟩ := List.mem_map.mp hq
      rw [hstart, hstart]
      exact h.2 x hx

end Validity

end HostPanel.Lib

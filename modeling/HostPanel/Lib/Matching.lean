import Mathlib.Data.List.Forall2
import Mathlib.Logic.Relation

namespace HostPanel.Lib

variable {α β γ δ : Type} {R : α → β → Prop} {S : β → γ → Prop}

theorem forall₂_comp {as : List α} {bs : List β} {cs : List γ} (h : List.Forall₂ R as bs)
    (h' : List.Forall₂ S bs cs) : List.Forall₂ (Relation.Comp R S) as cs := by
  induction h generalizing cs with
  | nil =>
    cases h'
    exact List.Forall₂.nil
  | cons hr _ ih =>
    cases h' with
    | cons hs hrest => exact List.Forall₂.cons ⟨_, hr, hs⟩ (ih hrest)

theorem forall₂_map {f : α → β} (h : ∀ a, R a (f a)) (as : List α) : List.Forall₂ R as (as.map f) :=
  List.forall₂_map_right_iff.mpr (List.forall₂_same.mpr (fun a _ => h a))

theorem map_eq_map_of_forall₂ {f : α → δ} {g : β → δ} {as : List α} {bs : List β} (h : List.Forall₂ R as bs)
    (hfg : ∀ a b, R a b → f a = g b) : as.map f = bs.map g := by
  induction h with
  | nil => rfl
  | cons hr _ ih => rw [List.map_cons, List.map_cons, hfg _ _ hr, ih]

theorem forall_mem_iff_of_forall₂ {p : α → Prop} {q : β → Prop} {as : List α} {bs : List β}
    (h : List.Forall₂ R as bs) (hpq : ∀ a b, R a b → (p a ↔ q b)) : (∀ a ∈ as, p a) ↔ ∀ b ∈ bs, q b := by
  induction h with
  | nil => simp
  | cons hr _ ih => rw [List.forall_mem_cons, List.forall_mem_cons, hpq _ _ hr, ih]

theorem exists_left_of_forall₂ {as : List α} {bs : List β} (h : List.Forall₂ R as bs) {b : β} (hb : b ∈ bs) :
    ∃ a ∈ as, R a b := by
  induction h with
  | nil => exact absurd hb List.not_mem_nil
  | cons hr _ ih =>
    cases List.mem_cons.mp hb with
    | inl he => exact ⟨_, List.mem_cons_self, he ▸ hr⟩
    | inr hrest =>
      obtain ⟨a, ha, hab⟩ := ih hrest
      exact ⟨a, List.mem_cons_of_mem _ ha, hab⟩

theorem exists_right_of_forall₂ {as : List α} {bs : List β} (h : List.Forall₂ R as bs) {a : α} (ha : a ∈ as) :
    ∃ b ∈ bs, R a b :=
  exists_left_of_forall₂ h.flip ha

end HostPanel.Lib

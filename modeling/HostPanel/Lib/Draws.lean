import Mathlib.Data.Fintype.BigOperators
import Mathlib.Data.Fintype.Card
import Mathlib.Logic.Equiv.Fin.Basic

namespace HostPanel.Lib

variable {α β γ ι : Type} [Fintype α] [DecidableEq β]

/-- Every draw gives an outcome in `S`, and every outcome in `S` comes of `n`
draws. -/
structure DrawsEvenly (f : α → β) (S : β → Prop) (n : ℕ) : Prop where
  outcome : ∀ a, S (f a)
  card_draws : ∀ b, S b → Fintype.card {a // f a = b} = n

namespace DrawsEvenly

variable {f : α → β} {S : β → Prop} {n : ℕ}

theorem map [DecidableEq γ] (h : DrawsEvenly f S n) {g : β → γ} {T : γ → Prop}
    (hinj : ∀ b b', S b → S b' → g b = g b' → b = b') (hT : ∀ c, T c ↔ ∃ b, S b ∧ g b = c) :
    DrawsEvenly (fun a => g (f a)) T n := by
  refine ⟨fun a => (hT _).mpr ⟨f a, h.outcome a, rfl⟩, fun c hc => ?_⟩
  obtain ⟨b, hb, rfl⟩ := (hT c).mp hc
  rw [← h.card_draws b hb]
  refine Fintype.card_congr (Equiv.subtypeEquivRight (fun a => ⟨fun hg => ?_, fun hf => congrArg g hf⟩))
  exact hinj _ _ (h.outcome a) hb hg

theorem pi [Fintype ι] [DecidableEq ι] (h : DrawsEvenly f S n) :
    DrawsEvenly (fun (d : ι → α) i => f (d i)) (fun b => ∀ i, S (b i)) (n ^ Fintype.card ι) := by
  refine ⟨fun d i => h.outcome (d i), fun b hb => ?_⟩
  have hsplit : {d : ι → α // (fun i => f (d i)) = b} ≃ ∀ i, {a // f a = b i} :=
    (Equiv.subtypeEquivRight (fun d => funext_iff)).trans
      (Equiv.subtypePiEquivPi (β := fun _ => α) (p := fun i a => f a = b i))
  rw [Fintype.card_congr hsplit, Fintype.card_pi, Finset.prod_congr rfl (fun i _ => h.card_draws (b i) (hb i)),
    Finset.prod_const, Finset.card_univ]

end DrawsEvenly

/-- Residues of a modulus that divides the number of draws. -/
theorem drawsEvenly_mod {N m n : ℕ} (h : N = m * n) (hn : 0 < n) :
    DrawsEvenly (fun a : Fin N => (⟨a.val % n, Nat.mod_lt _ hn⟩ : Fin n)) (fun _ => True) m := by
  subst h
  refine ⟨fun _ => trivial, fun b _ => ?_⟩
  have hpairs : {a : Fin (m * n) // (⟨a.val % n, Nat.mod_lt _ hn⟩ : Fin n) = b} ≃ {p : Fin m × Fin n // p.2 = b} :=
    finProdFinEquiv.symm.subtypeEquiv (fun _ => Iff.rfl)
  have hfirst : {p : Fin m × Fin n // p.2 = b} ≃ Fin m :=
    { toFun := fun p => p.val.1
      invFun := fun i => ⟨(i, b), rfl⟩
      left_inv := fun p => Subtype.ext (Prod.ext rfl p.property.symm)
      right_inv := fun _ => rfl }
  rw [Fintype.card_congr (hpairs.trans hfirst), Fintype.card_fin]

end HostPanel.Lib

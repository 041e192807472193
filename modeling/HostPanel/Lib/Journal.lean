import Mathlib.Data.List.Chain

namespace HostPanel.Lib

variable {σ : Type}

/-- The moves of one entity form a path: the first creates it, each starts where
the one before ended, and the last ends where the entity is. -/
structure Traced (initial : σ) (moves : List (Option σ × σ)) (current : σ) : Prop where
  first : moves.head? = some (none, initial)
  linked : moves.IsChain (fun a b => b.1 = some a.2)
  last : moves.getLast?.map Prod.snd = some current

namespace Traced

theorem created (initial : σ) : Traced initial [(none, initial)] initial :=
  ⟨rfl, List.isChain_singleton _, rfl⟩

theorem snoc {initial current : σ} {moves : List (Option σ × σ)} (h : Traced initial moves current) (next : σ) :
    Traced initial (moves ++ [(some current, next)]) next := by
  refine ⟨?_, ?_, ?_⟩
  · rw [List.head?_append, h.first, Option.some_or]
  · rw [List.isChain_append]
    refine ⟨h.linked, List.isChain_singleton _, ?_⟩
    intro a ha b hb
    have hb' : b = (some current, next) := by simpa using hb.symm
    have hl := h.last
    rw [ha, Option.map_some] at hl
    rw [hb']
    exact hl.symm
  · rw [List.getLast?_append, List.getLast?_singleton, Option.some_or, Option.map_some]

end Traced

end HostPanel.Lib

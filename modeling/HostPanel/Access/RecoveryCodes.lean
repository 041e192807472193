import HostPanel.Lib.Draws
import HostPanel.Model.Ids
import Mathlib.Data.List.OfFn

namespace HostPanel.Model

open HostPanel.Lib

/-- A group of a recovery code. -/
def isRecoveryGroup (group : List Char) : Bool := group.length == 4 && group.all (fun c => decide (c ∈ recoveryAlphabet))

/-- The form of a recovery code: three groups of four characters of the alphabet. -/
def isRecoveryCode (code : String) : Bool :=
  (code.toList.splitOn '-').length == 3 && (code.toList.splitOn '-').all isRecoveryGroup

/-- 32 divides 256, so no character is drawn more often than another. -/
theorem randomChar_even : DrawsEvenly randomChar (fun c => c ∈ recoveryAlphabet) 8 := by
  have hdivides : 256 = 8 * recoveryAlphabet.length := by decide
  have hnodup : recoveryAlphabet.Nodup := by decide
  refine (drawsEvenly_mod hdivides (by decide)).map (fun i j _ _ h => ?_) (fun c => ?_)
  · exact hnodup.injective_get h
  · rw [List.mem_iff_get]
    exact exists_congr (fun i => (and_iff_right trivial).symm)

theorem isRecoveryGroup_iff {group : List Char} :
    isRecoveryGroup group = true ↔ group.length = 4 ∧ ∀ c ∈ group, c ∈ recoveryAlphabet := by
  simp [isRecoveryGroup]

example : isRecoveryCode "7K3F-9XQ2-VB4M" = true := by decide +kernel

theorem exists_ofFn {α : Type} {n : ℕ} {l : List α} (h : l.length = n) : ∃ f : Fin n → α, List.ofFn f = l := by
  subst h
  exact ⟨l.get, List.ofFn_get l⟩

theorem recoveryGroup_even :
    DrawsEvenly (fun bytes : Fin 4 → Fin 256 => List.ofFn (fun j => randomChar (bytes j)))
      (fun group => isRecoveryGroup group = true) (8 ^ 4) := by
  refine (randomChar_even.pi (ι := Fin 4)).map (fun _ _ _ _ h => List.ofFn_injective h) (fun group => ?_)
  rw [isRecoveryGroup_iff]
  constructor
  · rintro ⟨hlength, hchars⟩
    obtain ⟨chars, rfl⟩ := exists_ofFn hlength
    exact ⟨chars, List.forall_mem_ofFn_iff.mp hchars, rfl⟩
  · rintro ⟨chars, hchars, rfl⟩
    exact ⟨List.length_ofFn, List.forall_mem_ofFn_iff.mpr hchars⟩

/-- The text of three groups. -/
def joinGroups (groups : Fin 3 → List Char) : String := "-".intercalate (List.ofFn (fun i => String.ofList (groups i)))

theorem toList_joinGroups (groups : Fin 3 → List Char) :
    (joinGroups groups).toList = ['-'].intercalate (List.ofFn groups) := by
  have hgroups : (List.ofFn (fun i => String.ofList (groups i))).map String.toList = List.ofFn groups := by
    simp
  rw [joinGroups, String.toList_intercalate, hgroups]
  rfl

theorem splitOn_joinGroups {groups : Fin 3 → List Char} (h : ∀ i, isRecoveryGroup (groups i) = true) :
    (joinGroups groups).toList.splitOn '-' = List.ofFn groups := by
  rw [toList_joinGroups]
  refine List.splitOn_intercalate '-' (List.forall_mem_ofFn_iff.mpr (fun i hmem => ?_)) (by simp)
  exact absurd ((isRecoveryGroup_iff.mp (h i)).2 '-' hmem) (by decide)

/-- Recovery codes are drawn without bias: each has the form, and each text of the
form comes of the same number of random bytes. -/
theorem recovery_code_unbiased :
    DrawsEvenly generateRecoveryCode (fun code => isRecoveryCode code = true) (8 ^ 12) := by
  refine (recoveryGroup_even.pi (ι := Fin 3)).map (g := joinGroups) (fun groups groups' h h' he => ?_) (fun code => ?_)
  · have hsplit := splitOn_joinGroups h
    rw [he, splitOn_joinGroups h'] at hsplit
    exact (List.ofFn_injective hsplit).symm
  · rw [isRecoveryCode, Bool.and_eq_true, beq_iff_eq, List.all_eq_true]
    constructor
    · rintro ⟨hlength, hgroups⟩
      obtain ⟨groups, hsplit⟩ := exists_ofFn hlength
      rw [← hsplit] at hgroups
      refine ⟨groups, List.forall_mem_ofFn_iff.mp hgroups, ?_⟩
      rw [← String.toList_inj, toList_joinGroups, hsplit]
      exact List.intercalate_splitOn '-'
    · rintro ⟨groups, hgroups, rfl⟩
      rw [splitOn_joinGroups hgroups]
      exact ⟨List.length_ofFn, List.forall_mem_ofFn_iff.mpr hgroups⟩

end HostPanel.Model

import HostPanel.Lib.Table

namespace HostPanel.Lib

variable {ο π ι κ : Type} [DecidableEq ι] [DecidableEq κ] {okey : ο → ι} {pkey : π → κ}

/-- A flag on the owner says whether one of its parts is marked. -/
structure Mirrors (owner : π → ι) (flag : ο → Prop) (mark : π → Prop) (owners : Table okey) (parts : Table pkey) :
    Prop where
  owned : ∀ p ∈ parts, ∃ o ∈ owners, okey o = owner p
  mirrored : ∀ o ∈ owners, flag o ↔ ∃ p ∈ parts, owner p = okey o ∧ mark p

namespace Mirrors

variable {owner : π → ι} {flag : ο → Prop} {mark : π → Prop} {owners owners' : Table okey} {parts : Table pkey}

omit [DecidableEq κ] in
theorem insert_owner (h : Mirrors owner flag mark owners parts) {o : ο} (hnew : owners.find (okey o) = none)
    (hflag : ¬flag o) : Mirrors owner flag mark (owners.insert o) parts := by
  constructor
  · intro p hp
    obtain ⟨q, hq, hk⟩ := h.owned p hp
    exact ⟨q, Table.mem_insert_of_mem hq, hk⟩
  · intro q hq
    obtain hq | rfl := (Table.mem_insert hnew).mp hq
    · exact h.mirrored q hq
    · refine iff_of_false hflag ?_
      rintro ⟨p, hp, hk, _⟩
      -- a part of the new owner would have had its owner before
      obtain ⟨r, hr, hr'⟩ := h.owned p hp
      exact Table.find_eq_none_iff.mp hnew r hr (hr'.trans hk)

omit [DecidableEq ι] in
theorem insert_part (h : Mirrors owner flag mark owners parts) {p : π} (howned : ∃ o ∈ owners, okey o = owner p)
    (hnew : parts.find (pkey p) = none) (hmark : ¬mark p) : Mirrors owner flag mark owners (parts.insert p) := by
  constructor
  · intro q hq
    obtain hq | rfl := (Table.mem_insert hnew).mp hq
    · exact h.owned q hq
    · exact howned
  · intro o ho
    rw [h.mirrored o ho]
    constructor
    · rintro ⟨q, hq, hk, hm⟩
      exact ⟨q, Table.mem_insert_of_mem hq, hk, hm⟩
    · rintro ⟨q, hq, hk, hm⟩
      obtain hq | rfl := (Table.mem_insert hnew).mp hq
      · exact ⟨q, hq, hk, hm⟩
      · exact absurd hm hmark

omit [DecidableEq κ] in
theorem modify_owner (h : Mirrors owner flag mark owners parts) (i : ι) {f : ο → ο} (hf : ∀ o, okey (f o) = okey o)
    (hflag : ∀ o, flag (f o) ↔ flag o) : Mirrors owner flag mark (owners.modify i f hf) parts := by
  constructor
  · intro p hp
    obtain ⟨o, ho, hk⟩ := h.owned p hp
    by_cases hi : okey o = i
    · exact ⟨f o, Table.mem_modify.mpr (Or.inr ⟨o, ho, hi, rfl⟩), (hf o).trans hk⟩
    · exact ⟨o, Table.mem_modify.mpr (Or.inl ⟨ho, hi⟩), hk⟩
  · intro o ho
    obtain ⟨ho, _⟩ | ⟨q, hq, _, rfl⟩ := Table.mem_modify.mp ho
    · exact h.mirrored o ho
    · rw [hflag, hf]
      exact h.mirrored q hq

/-- A part gets marked: the flag of its owner has to be up afterwards, and that
is enough. -/
theorem mark_iff (h : Mirrors owner flag mark owners parts) {i : κ} {p : π} {g : π → π}
    (hg : ∀ q, pkey (g q) = pkey q) (howner : ∀ q, owner (g q) = owner q) (hmark : ∀ q, mark (g q))
    (hp : parts.find i = some p) {o o' : ο} (ho : Table.Replaced owners owners' o o') (hpo : owner p = okey o) :
    Mirrors owner flag mark owners' (parts.modify i g hg) ↔ flag o' := by
  have hmarked : g p ∈ parts.modify i g hg :=
    Table.mem_modify.mpr (Or.inr ⟨p, Table.mem_of_find hp, Table.key_of_find hp, rfl⟩)
  have hown : owner (g p) = okey o' := by rw [howner, hpo, ho.key_eq]
  constructor
  · intro h'
    exact (h'.mirrored o' ((ho.mem_iff o').mpr (Or.inr rfl))).mpr ⟨g p, hmarked, hown, hmark p⟩
  · intro hflag
    constructor
    · intro q hq
      have hbefore : ∃ r ∈ owners, okey r = owner q := by
        obtain ⟨hq, _⟩ | ⟨r, hr, _, rfl⟩ := Table.mem_modify.mp hq
        · exact h.owned q hq
        · rw [howner]
          exact h.owned r hr
      obtain ⟨r, hr, hk⟩ := hbefore
      by_cases hro : okey r = okey o
      · exact ⟨o', (ho.mem_iff o').mpr (Or.inr rfl), by rw [ho.key_eq, ← hro, hk]⟩
      · exact ⟨r, (ho.mem_iff r).mpr (Or.inl ⟨hr, hro⟩), hk⟩
    · intro r hr
      obtain ⟨hr, hne⟩ | rfl := (ho.mem_iff r).mp hr
      · rw [h.mirrored r hr]
        -- the part that changed belongs to another owner
        constructor
        · rintro ⟨q, hq, hk, hm⟩
          refine ⟨q, Table.mem_modify.mpr (Or.inl ⟨hq, fun hi => hne ?_⟩), hk, hm⟩
          rw [← hk, ← hpo, Table.eq_of_mem hq (Table.mem_of_find hp) (hi.trans (Table.key_of_find hp).symm)]
        · rintro ⟨q, hq, hk, hm⟩
          obtain ⟨hq, _⟩ | ⟨t, ht, hi, rfl⟩ := Table.mem_modify.mp hq
          · exact ⟨q, hq, hk, hm⟩
          · refine absurd ?_ hne
            rw [← hk, howner, Table.eq_of_mem ht (Table.mem_of_find hp) (hi.trans (Table.key_of_find hp).symm), hpo]
      · exact iff_of_true hflag ⟨g p, hmarked, hown, hmark p⟩

end Mirrors

end HostPanel.Lib

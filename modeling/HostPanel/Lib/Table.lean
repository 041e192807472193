import Mathlib.Data.List.Nodup
import Mathlib.Data.List.Basic

namespace HostPanel.Lib

variable {ρ ι : Type}

/-- A table keyed by its primary key: rows in insertion order, no two of
which share a key. -/
structure Table (key : ρ → ι) where
  rows : List ρ := []
  nodup : (rows.map key).Nodup := by simp

namespace Table

variable {key : ρ → ι}

instance : Membership ρ (Table key) := ⟨fun t r => r ∈ t.rows⟩

instance : EmptyCollection (Table key) := ⟨{}⟩

instance : Inhabited (Table key) := ⟨∅⟩

theorem mem_def {t : Table key} {r : ρ} : r ∈ t ↔ r ∈ t.rows := Iff.rfl

@[simp] theorem not_mem_empty (r : ρ) : r ∉ (∅ : Table key) := by
  rw [mem_def]
  exact List.not_mem_nil

@[ext] theorem ext {t u : Table key} (h : t.rows = u.rows) : t = u := by
  cases t
  cases u
  cases h
  rfl

theorem eq_of_mem {t : Table key} {r q : ρ} (hr : r ∈ t) (hq : q ∈ t) (h : key r = key q) : r = q :=
  List.inj_on_of_nodup_map t.nodup hr hq h

/-- Change every row that satisfies a condition, keeping its key. -/
def updateWhere (t : Table key) (p : ρ → Bool) (f : ρ → ρ)
    (hf : ∀ r, key (f r) = key r := by intro r; rfl) : Table key :=
  ⟨t.rows.map (fun r => if p r then f r else r), by
    have hk : (t.rows.map (fun r => if p r then f r else r)).map key = t.rows.map key := by
      rw [List.map_map]
      apply List.map_congr_left
      intro r _
      by_cases hp : p r <;> simp [hp, hf]
    rw [hk]
    exact t.nodup⟩

theorem mem_updateWhere {t : Table key} {p : ρ → Bool} {f : ρ → ρ} {hf : ∀ r, key (f r) = key r} {q : ρ} :
    q ∈ t.updateWhere p f hf ↔ ∃ r ∈ t, q = if p r then f r else r := by
  rw [mem_def]
  change q ∈ t.rows.map _ ↔ _
  rw [List.mem_map]
  exact ⟨fun ⟨r, hr, h⟩ => ⟨r, hr, h.symm⟩, fun ⟨r, hr, h⟩ => ⟨r, hr, h.symm⟩⟩

theorem updateWhere_congr (t : Table key) {p q : ρ → Bool} {f : ρ → ρ} (hf : ∀ r, key (f r) = key r)
    (h : ∀ r ∈ t.rows, p r = q r) : t.updateWhere p f hf = t.updateWhere q f hf := by
  apply ext
  exact List.map_congr_left (fun r hr => by rw [h r hr])

theorem fixed_of_mem_updateWhere {t : Table key} {p : ρ → Bool} {f : ρ → ρ} {hf : ∀ r, key (f r) = key r} {r : ρ}
    (hr : r ∈ t) (hp : p r = true) (h : r ∈ t.updateWhere p f hf) : f r = r := by
  obtain ⟨q, hq, he⟩ := mem_updateWhere.mp h
  have hk : key r = key q := by
    rw [he]
    by_cases hpq : p q <;> simp [hpq, hf]
  have hqr : q = r := eq_of_mem hq hr hk.symm
  rw [hqr, if_pos hp] at he
  exact he.symm

/-- Rows a change does not touch are found as before. -/
theorem filter_updateWhere (t : Table key) {p q : ρ → Bool} {f : ρ → ρ} (hf : ∀ r, key (f r) = key r)
    (h : ∀ r ∈ t, p r = true → q r = false ∧ q (f r) = false) :
    (t.updateWhere p f hf).rows.filter q = t.rows.filter q := by
  change (t.rows.map (fun r => if p r then f r else r)).filter q = t.rows.filter q
  have hsame : t.rows.filter (q ∘ fun r => if p r then f r else r) = t.rows.filter q := by
    refine List.filter_congr (fun r hr => ?_)
    by_cases hp : p r = true
    · obtain ⟨hr, hfr⟩ := h r hr hp
      simp [hp, hr, hfr]
    · simp [hp]
  rw [List.filter_map, hsame]
  refine (List.map_congr_left (fun r hr => ?_)).trans (List.map_id _)
  obtain ⟨hmem, hq⟩ := List.mem_filter.mp hr
  by_cases hp : p r = true
  · exact absurd hq (by rw [(h r hmem hp).1]; exact Bool.false_ne_true)
  · rw [if_neg hp]
    rfl

theorem isNone_find?_iff {t : Table key} {p : ρ → Bool} : (t.rows.find? p).isNone = true ↔ ∀ r ∈ t, ¬ p r = true := by
  rw [Option.isNone_iff_eq_none, List.find?_eq_none]
  exact Iff.rfl

variable [DecidableEq ι]

def find (t : Table key) (i : ι) : Option ρ := t.rows.find? (fun r => decide (key r = i))

theorem find_eq_some_iff {t : Table key} {i : ι} {r : ρ} : t.find i = some r ↔ r ∈ t ∧ key r = i := by
  constructor
  · intro h
    exact ⟨List.mem_of_find?_eq_some h, by simpa using List.find?_some h⟩
  · rintro ⟨hr, rfl⟩
    cases h : t.find (key r) with
    | none =>
      have hn := List.find?_eq_none.mp h r hr
      simp at hn
    | some q =>
      have hq : key q = key r := by simpa using List.find?_some h
      rw [eq_of_mem (List.mem_of_find?_eq_some h) hr hq]

theorem find_of_mem {t : Table key} {r : ρ} (h : r ∈ t) : t.find (key r) = some r :=
  find_eq_some_iff.mpr ⟨h, rfl⟩

theorem mem_of_find {t : Table key} {i : ι} {r : ρ} (h : t.find i = some r) : r ∈ t :=
  (find_eq_some_iff.mp h).1

theorem key_of_find {t : Table key} {i : ι} {r : ρ} (h : t.find i = some r) : key r = i :=
  (find_eq_some_iff.mp h).2

theorem find_eq_none_iff {t : Table key} {i : ι} : t.find i = none ↔ ∀ r ∈ t, key r ≠ i := by
  unfold find
  rw [List.find?_eq_none]
  simp only [decide_eq_true_eq]
  exact Iff.rfl

@[simp] theorem find_empty (i : ι) : (∅ : Table key).find i = none :=
  find_eq_none_iff.mpr (fun r hr => absurd hr (not_mem_empty r))

theorem find_updateWhere (t : Table key) (p : ρ → Bool) (f : ρ → ρ) (hf : ∀ r, key (f r) = key r) (i : ι) :
    (t.updateWhere p f hf).find i = (t.find i).map (fun r => if p r then f r else r) := by
  cases h : t.find i with
  | none =>
    rw [Option.map_none, find_eq_none_iff]
    intro q hq
    obtain ⟨r, hr, rfl⟩ := mem_updateWhere.mp hq
    have hk := find_eq_none_iff.mp h r hr
    by_cases hp : p r <;> simp [hp, hf, hk]
  | some r =>
    rw [Option.map_some, find_eq_some_iff]
    obtain ⟨hr, hk⟩ := find_eq_some_iff.mp h
    refine ⟨mem_updateWhere.mpr ⟨r, hr, rfl⟩, ?_⟩
    by_cases hp : p r <;> simp [hp, hf, hk]

/-- Change the row with one key. -/
def modify (t : Table key) (i : ι) (f : ρ → ρ) (hf : ∀ r, key (f r) = key r := by intro r; rfl) : Table key :=
  t.updateWhere (fun r => decide (key r = i)) f hf

theorem find_modify_self (t : Table key) (i : ι) (f : ρ → ρ) (hf : ∀ r, key (f r) = key r) :
    (t.modify i f hf).find i = (t.find i).map f := by
  rw [modify, find_updateWhere]
  cases h : t.find i with
  | none => rfl
  | some r => simp [key_of_find h]

theorem find_modify_ne (t : Table key) {i j : ι} (f : ρ → ρ) (hf : ∀ r, key (f r) = key r) (h : j ≠ i) :
    (t.modify i f hf).find j = t.find j := by
  rw [modify, find_updateWhere]
  cases hj : t.find j with
  | none => rfl
  | some r =>
    have hk : key r ≠ i := by rw [key_of_find hj]; exact h
    simp [hk]

theorem find?_modify {t : Table key} {p : ρ → Bool} {r : ρ} (h : t.rows.find? p = some r) (f : ρ → ρ)
    (hf : ∀ r, key (f r) = key r) (hp : ∀ q, p (f q) = p q) : (t.modify (key r) f hf).rows.find? p = some (f r) := by
  have hsame : (p ∘ fun q => if decide (key q = key r) = true then f q else q) = p := by
    funext q
    by_cases hq : key q = key r <;> simp [hq, hp]
  change (t.rows.map _).find? p = some (f r)
  rw [List.find?_map, hsame, h]
  simp

theorem find?_modify_map (t : Table key) (p : ρ → Bool) (i : ι) (f : ρ → ρ) (hf : ∀ r, key (f r) = key r)
    (hp : ∀ q, p (f q) = p q) :
    (t.modify i f hf).rows.find? p = (t.rows.find? p).map (fun r => if key r = i then f r else r) := by
  have hsame : (p ∘ fun q => if decide (key q = i) = true then f q else q) = p := by
    funext q
    by_cases hq : key q = i <;> simp [hq, hp]
  change (t.rows.map _).find? p = _
  rw [List.find?_map, hsame]
  simp only [decide_eq_true_eq]

theorem isSome_find_modify (t : Table key) (i : ι) (f : ρ → ρ) (hf : ∀ r, key (f r) = key r) (j : ι) :
    ((t.modify i f hf).find j).isSome = (t.find j).isSome := by
  rw [modify, find_updateWhere, Option.isSome_map]

theorem mem_modify {t : Table key} {i : ι} {f : ρ → ρ} {hf : ∀ r, key (f r) = key r} {q : ρ} :
    q ∈ t.modify i f hf ↔ (q ∈ t ∧ key q ≠ i) ∨ ∃ r ∈ t, key r = i ∧ q = f r := by
  rw [modify, mem_updateWhere]
  constructor
  · rintro ⟨r, hr, hq⟩
    by_cases hk : key r = i
    · exact Or.inr ⟨r, hr, hk, by simpa [hk] using hq⟩
    · have he : q = r := by simpa [hk] using hq
      exact Or.inl ⟨he ▸ hr, he ▸ hk⟩
  · rintro (⟨hq, hk⟩ | ⟨r, hr, hk, rfl⟩)
    · exact ⟨q, hq, by simp [hk]⟩
    · exact ⟨r, hr, by simp [hk]⟩

theorem find_modify_map {β : Type} (t : Table key) (i : ι) (f : ρ → ρ) (hf : ∀ r, key (f r) = key r) (g : ρ → β)
    (hg : ∀ r, g (f r) = g r) (j : ι) : ((t.modify i f hf).find j).map g = (t.find j).map g := by
  by_cases hj : j = i
  · subst hj
    rw [find_modify_self, Option.map_map]
    congr 1
    funext r
    exact hg r
  · rw [find_modify_ne t f hf hj]

theorem map_modify {β : Type} (t : Table key) (i : ι) (f : ρ → ρ) (hf : ∀ r, key (f r) = key r) (g : ρ → β)
    (hg : ∀ r, g (f r) = g r) : (t.modify i f hf).rows.map g = t.rows.map g := by
  change (t.rows.map (fun r => if decide (key r = i) then f r else r)).map g = t.rows.map g
  rw [List.map_map]
  refine List.map_congr_left (fun r _ => ?_)
  by_cases hk : key r = i <;> simp [hk, hg]

/-- One row of a table gives way to another with its key. -/
structure Replaced (t t' : Table key) (r r' : ρ) : Prop where
  mem : r ∈ t
  key_eq : key r' = key r
  mem_iff : ∀ q, q ∈ t' ↔ (q ∈ t ∧ key q ≠ key r) ∨ q = r'

omit [DecidableEq ι] in
theorem replaced_refl {t : Table key} {r : ρ} (h : r ∈ t) : Replaced t t r r := by
  refine ⟨h, rfl, fun q => ⟨fun hq => ?_, ?_⟩⟩
  · by_cases hk : key q = key r
    · exact Or.inr (eq_of_mem hq h hk)
    · exact Or.inl ⟨hq, hk⟩
  · rintro (⟨hq, _⟩ | rfl)
    · exact hq
    · exact h

theorem replaced_modify {t : Table key} {r : ρ} (h : r ∈ t) (f : ρ → ρ) (hf : ∀ r, key (f r) = key r) :
    Replaced t (t.modify (key r) f hf) r (f r) := by
  refine ⟨h, hf r, fun q => ?_⟩
  rw [mem_modify]
  refine or_congr_right ⟨?_, fun he => ⟨r, h, rfl, he⟩⟩
  rintro ⟨p, hp, hk, rfl⟩
  rw [eq_of_mem hp h hk]

/-- Add a row at the end. The table is unchanged when the key is taken. -/
def insert (t : Table key) (r : ρ) : Table key :=
  if h : key r ∈ t.rows.map key then t
  else ⟨t.rows ++ [r], by
    rw [List.map_append, List.nodup_append]
    refine ⟨t.nodup, by simp, ?_⟩
    intro a ha b hb hab
    have hb' : b = key r := by simpa using hb
    exact h (hb' ▸ hab ▸ ha)⟩

theorem insert_rows {t : Table key} {r : ρ} (h : t.find (key r) = none) : (t.insert r).rows = t.rows ++ [r] := by
  have hn : ¬ key r ∈ t.rows.map key := by
    rw [List.mem_map]
    rintro ⟨q, hq, hk⟩
    exact find_eq_none_iff.mp h q hq hk
  simp only [insert, hn, dite_false]

theorem mem_insert {t : Table key} {r q : ρ} (h : t.find (key r) = none) : q ∈ t.insert r ↔ q ∈ t ∨ q = r := by
  rw [mem_def, insert_rows h, List.mem_append, List.mem_singleton]
  exact Iff.rfl

theorem mem_insert_of_mem {t : Table key} {r q : ρ} (h : q ∈ t) : q ∈ t.insert r := by
  by_cases hr : key r ∈ t.rows.map key
  · rw [insert, dif_pos hr]
    exact h
  · rw [insert, dif_neg hr, mem_def, List.mem_append]
    exact Or.inl h

theorem of_mem_insert {t : Table key} {r q : ρ} (h : q ∈ t.insert r) : q ∈ t ∨ q = r := by
  by_cases hr : key r ∈ t.rows.map key
  · rw [insert, dif_pos hr] at h
    exact Or.inl h
  · rw [insert, dif_neg hr, mem_def] at h
    exact (List.mem_append.mp h).imp id List.mem_singleton.mp

theorem find_insert_self {t : Table key} {r : ρ} (h : t.find (key r) = none) :
    (t.insert r).find (key r) = some r :=
  find_of_mem ((mem_insert h).mpr (Or.inr rfl))

theorem find_insert_ne (t : Table key) (r : ρ) {i : ι} (hi : i ≠ key r) : (t.insert r).find i = t.find i := by
  by_cases h : key r ∈ t.rows.map key
  · simp only [insert, h, dite_true]
  · simp only [insert, h, dite_false, find, List.find?_append, List.find?_singleton]
    rw [if_neg (by simpa using Ne.symm hi), Option.or_none]

theorem filter_insert (t : Table key) {r : ρ} {q : ρ → Bool} (h : q r = false) :
    (t.insert r).rows.filter q = t.rows.filter q := by
  by_cases hr : key r ∈ t.rows.map key
  · rw [insert, dif_pos hr]
  · rw [insert, dif_neg hr]
    simp [List.filter_append, h]

theorem find_insert_of_find {t : Table key} {r q : ρ} {i : ι} (h : t.find i = some q) :
    (t.insert r).find i = some q := by
  by_cases hi : i = key r
  · have ht : key r ∈ t.rows.map key :=
      List.mem_map.mpr ⟨q, mem_of_find h, (key_of_find h).trans hi⟩
    simp only [insert, ht, dite_true, h]
  · rw [find_insert_ne t r hi, h]

theorem isSome_find_insert (t : Table key) (r : ρ) {i : ι} (h : (t.find i).isSome = true) :
    ((t.insert r).find i).isSome = true := by
  obtain ⟨q, hq⟩ := Option.isSome_iff_exists.mp h
  exact Option.isSome_of_eq_some (find_insert_of_find hq)

end Table

end HostPanel.Lib

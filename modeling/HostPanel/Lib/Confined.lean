import HostPanel.Lib.Table

namespace HostPanel.Lib.Table

variable {ρ ι : Type} {key : ρ → ι} {p : ρ → Bool}

/-- The rows that do not meet `p`, in their order. -/
def others (t : Table key) (p : ρ → Bool) : List ρ := t.rows.filter (fun r => !p r)

theorem others_updateWhere (t : Table key) {q : ρ → Bool} {f : ρ → ρ} (hf : ∀ r, key (f r) = key r)
    (hold : ∀ r ∈ t, q r = true → p r = true) (hnew : ∀ r ∈ t, q r = true → p (f r) = true) :
    (t.updateWhere q f hf).others p = t.others p := by
  change (t.rows.map (fun r => if q r then f r else r)).filter (fun r => !p r) = t.rows.filter (fun r => !p r)
  have hrows : ∀ r ∈ t.rows, (q r = true → p r = true) ∧ (q r = true → p (f r) = true) :=
    fun r hr => ⟨hold r hr, hnew r hr⟩
  generalize t.rows = l at hrows
  induction l with
  | nil => rfl
  | cons r l ih =>
    obtain ⟨hhead, htail⟩ := List.forall_mem_cons.mp hrows
    rw [List.map_cons, List.filter_cons, List.filter_cons, ih htail]
    by_cases hq : q r = true
    · rw [if_pos hq, hhead.1 hq, hhead.2 hq]
      rfl
    · rw [if_neg hq]

theorem filter_of_filter {l l' : List ρ} (h : l'.filter p = l.filter p) {q : ρ → Bool}
    (hq : ∀ r, q r = true → p r = true) : l'.filter q = l.filter q := by
  have hsub : ∀ l : List ρ, (l.filter p).filter q = l.filter q := by
    intro l
    rw [List.filter_filter]
    refine List.filter_congr (fun r _ => ?_)
    cases hqr : q r with
    | false => rfl
    | true => rw [hq r hqr]; rfl
  rw [← hsub l', ← hsub l, h]

theorem filter_of_others {t t' : Table key} (h : t'.others p = t.others p) {q : ρ → Bool}
    (hq : ∀ r, q r = true → p r = false) : t'.rows.filter q = t.rows.filter q :=
  filter_of_filter h (fun r hr => by rw [hq r hr]; rfl)

theorem mem_of_others {t t' : Table key} (h : t'.others p = t.others p) {r : ρ} (hr : r ∈ t) (hp : p r = false) :
    r ∈ t' := by
  have hother : r ∈ t'.others p := h ▸ List.mem_filter.mpr ⟨hr, by rw [hp]; rfl⟩
  exact (List.mem_filter.mp hother).1

variable [DecidableEq ι]

theorem others_insert (t : Table key) {row : ρ} (h : p row = true) : (t.insert row).others p = t.others p := by
  unfold others
  by_cases hr : key row ∈ t.rows.map key
  · rw [insert, dif_pos hr]
  · rw [insert, dif_neg hr, List.filter_append, List.filter_singleton, h]
    exact List.append_nil _

/-- A row that is looked up and has to meet `q` is looked up among those. -/
theorem filter_find (t : Table key) (i : ι) (q : ρ → Bool) :
    (t.find i).filter q = (t.rows.filter q).find? (fun r => decide (key r = i)) := by
  refine Option.ext (fun r => ⟨fun h => ?_, fun h => ?_⟩)
  · obtain ⟨hfound, hq⟩ := Option.filter_eq_some_iff.mp h
    obtain ⟨hmem, hkey⟩ := find_eq_some_iff.mp hfound
    have hlisted : r ∈ t.rows.filter q := List.mem_filter.mpr ⟨hmem, hq⟩
    cases hother : (t.rows.filter q).find? (fun r => decide (key r = i)) with
    | none => exact absurd (decide_eq_true hkey) (List.find?_eq_none.mp hother r hlisted)
    | some r' =>
      have hmem' : r' ∈ t := (List.mem_filter.mp (List.mem_of_find?_eq_some hother)).1
      have hkey' : key r' = i := of_decide_eq_true (List.find?_some (p := fun r => decide (key r = i)) hother)
      rw [eq_of_mem hmem' hmem (hkey'.trans hkey.symm)]
  · obtain ⟨hmem, hq⟩ := List.mem_filter.mp (List.mem_of_find?_eq_some h)
    have hkey : key r = i := of_decide_eq_true (List.find?_some (p := fun r => decide (key r = i)) h)
    exact Option.filter_eq_some_iff.mpr ⟨find_eq_some_iff.mpr ⟨hmem, hkey⟩, hq⟩

theorem filter_find_of_others {t t' : Table key} (h : t'.others p = t.others p) {q : ρ → Bool}
    (hq : ∀ r, q r = true → p r = false) (i : ι) : (t'.find i).filter q = (t.find i).filter q := by
  rw [filter_find, filter_find, filter_of_others h hq]

end HostPanel.Lib.Table

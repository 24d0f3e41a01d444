import Daybook.Store.Table
import Mathlib.Data.List.Nodup

/-!
A table as the list of its values. In a keyed table each value stands under its own key and no key
stands twice, so that looking under a key is looking through the list (`Keyed.find?_values`), and to
insert under a new key or to delete is to add to the list at its end or to filter it.
-/

namespace Daybook.Table

variable {κ ν : Type}

/-- The values in the order in which they came. -/
def values (t : Table κ ν) : List ν :=
  t.rows.map (·.2)

/-- Values stand under their own keys, each of them once. -/
structure Keyed (t : Table κ ν) (key : ν → κ) : Prop where
  own : ∀ r ∈ t.rows, key r.2 = r.1
  once : (t.rows.map (·.1)).Nodup

variable {t : Table κ ν} {key : ν → κ} {k : κ} {v : ν}

theorem length_values (t : Table κ ν) : t.values.length = t.size :=
  List.length_map _

theorem Keyed.empty : (empty : Table κ ν).Keyed key :=
  ⟨nofun, List.nodup_nil⟩

theorem Keyed.nodup_values (h : t.Keyed key) : (t.values.map key).Nodup := by
  have hkeys : t.values.map key = t.rows.map (·.1) := by
    rw [values, List.map_map]
    exact List.map_congr_left h.own
  rw [hkeys]
  exact h.once

variable [DecidableEq κ]

theorem contains_eq_false_iff : t.contains k = false ↔ t.get? k = none := by
  rw [contains, Option.isSome_eq_false_iff, Option.isNone_iff_eq_none]

theorem ne_of_free (h : t.contains k = false) : ∀ r ∈ t.rows, r.1 ≠ k := by
  intro r hr hkey
  have hfind : (t.rows.find? fun r => r.1 = k).isSome = true :=
    List.find?_isSome.2 ⟨r, hr, decide_eq_true hkey⟩
  rw [contains, get?, Option.isSome_map, hfind] at h
  cases h

theorem mem_rows_of_get? (h : t.get? k = some v) : (k, v) ∈ t.rows := by
  obtain ⟨r, hr, rfl⟩ := Option.map_eq_some_iff.1 h
  have hkey : r.1 = k := by simpa using List.find?_some hr
  exact hkey ▸ List.mem_of_find?_eq_some hr

theorem erase_of_free (h : t.contains k = false) : t.erase k = t :=
  congrArg Table.mk (List.filter_eq_self.2 fun r hr => decide_eq_true (ne_of_free h r hr))

theorem rows_insert (hfree : t.contains k = false) (v : ν) :
    (t.insert k v).rows = t.rows ++ [(k, v)] := by
  rw [insert, erase_of_free hfree]

theorem values_insert (hfree : t.contains k = false) (v : ν) :
    (t.insert k v).values = t.values ++ [v] := by
  rw [values, rows_insert hfree, List.map_append]
  rfl

theorem size_insert (hfree : t.contains k = false) (v : ν) : (t.insert k v).size = t.size + 1 := by
  rw [size, rows_insert hfree, List.length_append]
  rfl

namespace Keyed

theorem find?_values (h : t.Keyed key) (k : κ) :
    (t.values.find? fun v => key v = k) = t.get? k := by
  have hsame : ∀ {rows : List (κ × ν)}, (∀ r ∈ rows, key r.2 = r.1) →
      (rows.find? fun r => key r.2 = k) = rows.find? fun r => r.1 = k := by
    intro rows hrows
    induction rows with
    | nil => rfl
    | cons r rows ih =>
        obtain ⟨hr, hrows⟩ := List.forall_mem_cons.1 hrows
        rw [List.find?_cons, List.find?_cons, hr, ih hrows]
  rw [values, List.find?_map, get?]
  exact congrArg _ (hsame h.own)

theorem any_values (h : t.Keyed key) (k : κ) :
    (t.values.any fun v => key v = k) = t.contains k := by
  rw [contains, ← h.find?_values, Bool.eq_iff_iff, List.any_eq_true, List.find?_isSome]

/-- A value is in the list if it is found under its key. -/
theorem mem_values_iff (h : t.Keyed key) : v ∈ t.values ↔ t.get? (key v) = some v := by
  constructor
  · intro hv
    obtain ⟨r, hr, rfl⟩ := List.mem_map.1 hv
    rw [h.own r hr, get?]
    cases hfind : t.rows.find? fun r' => r'.1 = r.1 with
    | none => simpa using List.find?_eq_none.1 hfind r hr
    | some r' =>
        have hkey : r'.1 = r.1 := by simpa using List.find?_some hfind
        rw [List.inj_on_of_nodup_map h.once (List.mem_of_find?_eq_some hfind) hr hkey]
        rfl
  · exact fun hv => List.mem_map_of_mem (mem_rows_of_get? hv)

/-! ### Changes -/

theorem values_erase (h : t.Keyed key) (k : κ) :
    (t.erase k).values = t.values.filter fun v => key v ≠ k := by
  rw [values, values, List.filter_map, erase]
  refine congrArg _ (List.filter_congr fun r hr => ?_)
  simp only [Function.comp_apply, h.own r hr]

protected theorem erase (h : t.Keyed key) (k : κ) : (t.erase k).Keyed key where
  own r hr := h.own r (List.mem_of_mem_filter hr)
  once := h.once.sublist (List.Sublist.map _ List.filter_sublist)

protected theorem insert (h : t.Keyed key) (hfree : t.contains k = false) (hv : key v = k) :
    (t.insert k v).Keyed key := by
  have hrows := rows_insert hfree v
  refine ⟨?_, ?_⟩
  · intro r hr
    rw [hrows] at hr
    rcases List.mem_append.1 hr with hr | hr
    · exact h.own r hr
    · rw [List.mem_singleton.1 hr]
      exact hv
  · rw [hrows, List.map_append]
    refine h.once.append (List.nodup_singleton _) ?_
    intro k' hk' hnew
    obtain ⟨r, hr, rfl⟩ := List.mem_map.1 hk'
    exact ne_of_free hfree r hr (List.mem_singleton.1 hnew)

end Keyed
end Daybook.Table

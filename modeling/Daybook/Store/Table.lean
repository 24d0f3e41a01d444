/-!
Finite maps as lists of pairs. `get?` is the view: the facts say what each operation does to it.
-/

namespace Daybook

/-- Pairs of a key and a value; of two pairs with one key the first counts. -/
structure Table (κ ν : Type) where
  rows : List (κ × ν)

namespace Table

variable {κ ν : Type} [DecidableEq κ]

def empty : Table κ ν :=
  ⟨[]⟩

def get? (t : Table κ ν) (k : κ) : Option ν :=
  (t.rows.find? fun r => r.1 = k).map (·.2)

def contains (t : Table κ ν) (k : κ) : Bool :=
  (t.get? k).isSome

def erase (t : Table κ ν) (k : κ) : Table κ ν :=
  ⟨t.rows.filter fun r => r.1 ≠ k⟩

/-- Puts a value under a key, in the place of the one that was there. -/
def insert (t : Table κ ν) (k : κ) (v : ν) : Table κ ν :=
  ⟨(t.erase k).rows ++ [(k, v)]⟩

def size (t : Table κ ν) : Nat :=
  t.rows.length

theorem get?_erase_self (t : Table κ ν) (k : κ) : (t.erase k).get? k = none := by
  simp [get?, erase, List.find?_eq_none]

theorem get?_erase_of_ne (t : Table κ ν) {k l : κ} (h : l ≠ k) :
    (t.erase k).get? l = t.get? l := by
  have key : ∀ rows : List (κ × ν),
      (rows.filter fun r => r.1 ≠ k).find? (fun r => r.1 = l) = rows.find? fun r => r.1 = l := by
    intro rows
    induction rows with
    | nil => rfl
    | cons r rows ih =>
      by_cases hk : r.1 = k
      · have hl : ¬ r.1 = l := fun e => h (e ▸ hk)
        simpa [List.filter_cons, List.find?_cons, hk, hl, Ne.symm h] using ih
      · by_cases hl : r.1 = l
        · simp [hl, h]
        · simpa [List.filter_cons, List.find?_cons, hk, hl] using ih
  simp only [get?, erase, key]

theorem get?_insert_self (t : Table κ ν) (k : κ) (v : ν) : (t.insert k v).get? k = some v := by
  have hnone : (t.erase k).rows.find? (fun r => r.1 = k) = none := by
    simp [erase, List.find?_eq_none]
  simp only [get?, insert, List.find?_append, hnone]
  simp

theorem get?_insert_of_ne (t : Table κ ν) {k l : κ} (v : ν) (h : l ≠ k) :
    (t.insert k v).get? l = t.get? l := by
  rw [← get?_erase_of_ne t h]
  simp only [get?, insert, List.find?_append]
  have hne : ¬ k = l := fun e => h e.symm
  simp [hne]

theorem get?_insert (t : Table κ ν) (k l : κ) (v : ν) :
    (t.insert k v).get? l = if l = k then some v else t.get? l := by
  split
  · rename_i h; rw [h]; exact get?_insert_self t k v
  · rename_i h; exact get?_insert_of_ne t v h

theorem contains_insert (t : Table κ ν) (k l : κ) (v : ν) :
    (t.insert k v).contains l = (decide (l = k) || t.contains l) := by
  rw [contains, get?_insert]
  by_cases hkey : l = k <;> simp [hkey, contains]

theorem contains_erase_of_ne (t : Table κ ν) {k l : κ} (h : l ≠ k) :
    (t.erase k).contains l = t.contains l := by
  rw [contains, get?_erase_of_ne t h, contains]

theorem get?_of_get?_erase (t : Table κ ν) {k l : κ} {v : ν} (h : (t.erase k).get? l = some v) :
    l ≠ k ∧ t.get? l = some v := by
  by_cases hkey : l = k
  · rw [hkey, get?_erase_self] at h
    cases h
  · rw [get?_erase_of_ne t hkey] at h
    exact ⟨hkey, h⟩

end Table
end Daybook

/-
Finite stores of items with distinct keys.

A `Store key` is a list of items no two of which have the same key.  `add` puts
an item under a free key, `remove` takes the item of a key out, and `find?`
looks an item up; membership determines them (`mem_add`, `mem_remove`,
`find?_eq_some`, `perm_remove`).
-/
import Mathlib

namespace Keyed

variable {α κ : Type} {key : α → κ}

/-- Items with distinct keys. -/
structure Store (key : α → κ) where
  items : List α
  distinct : (items.map key).Nodup

namespace Store

/-- The store without items. -/
def empty : Store key := ⟨[], List.nodup_nil⟩

instance : Membership α (Store key) := ⟨fun store item => item ∈ store.items⟩

variable {store : Store key} {item : α}

theorem mem_def : item ∈ store ↔ item ∈ store.items := Iff.rfl

@[simp] theorem not_mem_empty (item : α) : item ∉ (empty : Store key) := List.not_mem_nil

theorem ext_items {s t : Store key} (h : s.items = t.items) : s = t := by
  obtain ⟨items, _⟩ := s
  obtain rfl : items = t.items := h
  rfl

/-- An item is determined by its key. -/
theorem eq_of_key_eq {a b : α} (ha : a ∈ store) (hb : b ∈ store) (h : key a = key b) : a = b :=
  List.inj_on_of_nodup_map store.distinct ha hb h

/-- The items that satisfy a condition. -/
def filter (keep : α → Bool) (store : Store key) : Store key :=
  ⟨store.items.filter keep, store.distinct.sublist (List.filter_sublist.map key)⟩

theorem mem_filter {keep : α → Bool} : item ∈ store.filter keep ↔ item ∈ store ∧ keep item = true :=
  List.mem_filter

theorem length_filter_le (store : Store key) (keep : α → Bool) :
    (store.filter keep).items.length ≤ store.items.length :=
  List.length_filter_le keep store.items

variable [DecidableEq κ] {k : κ} {new : α}

def find? (store : Store key) (k : κ) : Option α := store.items.find? fun item => key item = k

/-- Put an item into the store, unless its key is taken. -/
def add (store : Store key) (item : α) : Store key :=
  if h : key item ∈ store.items.map key then store
  else ⟨item :: store.items, List.nodup_cons.mpr ⟨h, store.distinct⟩⟩

/-- Take the item of a key out of the store. -/
def remove (store : Store key) (k : κ) : Store key :=
  ⟨store.items.filter fun item => key item ≠ k,
    store.distinct.sublist (List.filter_sublist.map key)⟩

theorem find?_eq_some : store.find? k = some item ↔ item ∈ store ∧ key item = k := by
  constructor
  · intro h
    exact ⟨List.mem_of_find?_eq_some h, by simpa using List.find?_some h⟩
  · rintro ⟨hmem, rfl⟩
    rcases hfind : store.find? (key item) with _ | found
    · have hnone := List.find?_eq_none.mp hfind item hmem
      simp at hnone
    · have hkey : key found = key item := by simpa using List.find?_some hfind
      rw [eq_of_key_eq (List.mem_of_find?_eq_some hfind) hmem hkey]

theorem find?_eq_none : store.find? k = none ↔ ∀ item ∈ store, key item ≠ k := by
  rw [find?, List.find?_eq_none]
  simp [mem_def]

theorem items_add (hfree : store.find? (key new) = none) :
    (store.add new).items = new :: store.items := by
  have h : key new ∉ store.items.map key := by
    intro hmem
    obtain ⟨other, hother, hkey⟩ := List.mem_map.mp hmem
    exact find?_eq_none.mp hfree other hother hkey
  rw [add, dif_neg h]

theorem mem_add (hfree : store.find? (key new) = none) :
    item ∈ store.add new ↔ item = new ∨ item ∈ store := by
  rw [mem_def, items_add hfree]
  exact List.mem_cons

theorem mem_remove : item ∈ store.remove k ↔ item ∈ store ∧ key item ≠ k := by
  simp [remove, mem_def, List.mem_filter]

theorem mem_of_mem_remove (h : item ∈ store.remove k) : item ∈ store :=
  (mem_remove.mp h).1

theorem find?_remove_self : (store.remove k).find? k = none :=
  find?_eq_none.mpr fun _ h => (mem_remove.mp h).2

theorem remove_of_find?_eq_none (h : store.find? k = none) : store.remove k = store := by
  refine ext_items (List.filter_eq_self.mpr fun item hitem => ?_)
  simpa using find?_eq_none.mp h item hitem

/-- An item and the others. -/
theorem perm_remove (h : store.find? k = some item) :
    store.items.Perm (item :: (store.remove k).items) := by
  obtain ⟨hmem, hkey⟩ := find?_eq_some.mp h
  have hnodup : ∀ s : Store key, s.items.Nodup := fun s => s.distinct.of_map key
  have hout : item ∉ (store.remove k).items := fun hin => (mem_remove.mp hin).2 hkey
  refine (List.perm_ext_iff_of_nodup (hnodup store)
    (List.nodup_cons.mpr ⟨hout, hnodup _⟩)).mpr fun other => ?_
  rw [List.mem_cons]
  constructor
  · intro hother
    by_cases hsame : key other = k
    · exact .inl (eq_of_key_eq hother hmem (hsame.trans hkey.symm))
    · exact .inr (mem_remove.mpr ⟨hother, hsame⟩)
  · rintro (rfl | hother)
    · exact hmem
    · exact mem_of_mem_remove hother

theorem remove_add (hfree : store.find? (key new) = none) :
    (store.add new).remove (key new) = store := by
  refine ext_items ?_
  show (store.add new).items.filter (fun item => key item ≠ key new) = store.items
  rw [items_add hfree, List.filter_cons_of_neg (by simp)]
  exact congrArg items (remove_of_find?_eq_none hfree)

end Store

end Keyed

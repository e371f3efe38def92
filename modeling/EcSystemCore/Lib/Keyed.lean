import Mathlib.Data.List.Nodup
import Mathlib.Data.List.Perm.Lattice

/-!
# Lists with distinct keys

A list in which a key determines the element behaves as a finite map: looking up a key
finds the one element that bears it, in whatever order the elements stand.  For entries that
are pairs of a key and a value, `get`, `insert` and `erase` are the operations of the map.
-/

namespace Keyed

universe u v

variable {α : Type u} {κ : Type v} [DecidableEq κ] {key : α → κ} {items items' : List α}

/-- A look-up finds the element that bears the key. -/
theorem find?_eq_some_iff (hkeys : (items.map key).Nodup) {k : κ} {item : α} :
    items.find? (fun other => key other = k) = some item ↔ item ∈ items ∧ key item = k := by
  constructor
  · intro hfound
    exact ⟨List.mem_of_find?_eq_some hfound, by simpa using List.find?_some hfound⟩
  · rintro ⟨hitem, rfl⟩
    cases hfound : items.find? (fun other => key other = key item) with
    | none => simpa using List.find?_eq_none.mp hfound item hitem
    | some other =>
      have hkey : key other = key item := by simpa using List.find?_some hfound
      rw [List.inj_on_of_nodup_map hkeys (List.mem_of_find?_eq_some hfound) hitem hkey]

/-- A look-up does not depend on the order. -/
theorem find?_perm (hkeys : (items.map key).Nodup) (hperm : items.Perm items') (k : κ) :
    items'.find? (fun other => key other = k) = items.find? (fun other => key other = k) := by
  have hkeys' : (items'.map key).Nodup := (hperm.map key).nodup_iff.mp hkeys
  ext item
  rw [find?_eq_some_iff hkeys', find?_eq_some_iff hkeys, hperm.mem_iff]

omit [DecidableEq κ] in
/-- One element is selected if it is the only one of the selected kind. -/
theorem filter_eq_singleton_iff {p : α → Bool} (hkeys : (items.map key).Nodup) {item : α} :
    items.filter p = [item] ↔
      item ∈ items ∧ p item = true ∧ ∀ other ∈ items, p other = true → other = item := by
  constructor
  · intro hfilter
    have hmem : ∀ other, other ∈ items ∧ p other = true ↔ other = item := fun other => by
      rw [← List.mem_filter, hfilter, List.mem_singleton]
    have hitem := (hmem item).mpr rfl
    exact ⟨hitem.1, hitem.2, fun other hother hp => (hmem other).mp ⟨hother, hp⟩⟩
  · rintro ⟨hitem, hp, honly⟩
    refine List.perm_singleton.mp ((List.perm_ext_iff_of_nodup ?_ (List.nodup_singleton item)).mpr ?_)
    · exact hkeys.of_map.filter p
    · intro other
      rw [List.mem_filter, List.mem_singleton]
      exact ⟨fun hother => honly other hother.1 hother.2, fun h => h ▸ ⟨hitem, hp⟩⟩

/-! ### Maps -/

section Maps

universe w

variable {ν : Type w} {entries : List (κ × ν)} {k k' : κ} {v : ν}

/-- The value of a key. -/
def get (entries : List (κ × ν)) (k : κ) : Option ν :=
  (entries.find? fun entry => entry.1 = k).map Prod.snd

/-- The map without a key. -/
def erase (entries : List (κ × ν)) (k : κ) : List (κ × ν) :=
  entries.filter fun entry => entry.1 ≠ k

/-- The map with a value for a key. -/
def insert (entries : List (κ × ν)) (k : κ) (v : ν) : List (κ × ν) := (k, v) :: erase entries k

theorem mem_erase {entry : κ × ν} : entry ∈ erase entries k ↔ entry ∈ entries ∧ entry.1 ≠ k := by
  simp [erase]

theorem mem_insert {entry : κ × ν} :
    entry ∈ insert entries k v ↔ entry = (k, v) ∨ entry ∈ entries ∧ entry.1 ≠ k := by
  rw [insert, List.mem_cons, mem_erase]

theorem get_eq_some_iff (hkeys : (entries.map Prod.fst).Nodup) :
    get entries k = some v ↔ (k, v) ∈ entries := by
  rw [get, Option.map_eq_some_iff]
  constructor
  · rintro ⟨entry, hfound, rfl⟩
    obtain ⟨hmem, rfl⟩ := (find?_eq_some_iff hkeys).mp hfound
    exact hmem
  · exact fun hmem => ⟨(k, v), (find?_eq_some_iff hkeys).mpr ⟨hmem, rfl⟩, rfl⟩

theorem get_eq_none_iff : get entries k = none ↔ ∀ entry ∈ entries, entry.1 ≠ k := by
  simp [get]

theorem get_insert_self : get (insert entries k v) k = some v := by
  simp [get, insert]

theorem get_insert_of_ne (h : k' ≠ k) : get (insert entries k v) k' = get entries k' := by
  have hfilter : (entries.filter fun entry => entry.1 ≠ k).find? (fun entry => entry.1 = k') =
      entries.find? fun entry => entry.1 = k' := by
    rw [List.find?_filter]
    congr 1
    funext entry
    by_cases hentry : entry.1 = k' <;> simp [hentry, h]
  rw [get, insert, List.find?_cons_of_neg (by simpa using h.symm), erase, hfilter, get]

omit [DecidableEq κ] in
theorem nodup_keys_filter (hkeys : (entries.map Prod.fst).Nodup) (p : κ × ν → Bool) :
    ((entries.filter p).map Prod.fst).Nodup :=
  hkeys.sublist (List.filter_sublist.map _)

theorem nodup_keys_insert (hkeys : (entries.map Prod.fst).Nodup) :
    ((insert entries k v).map Prod.fst).Nodup := by
  refine List.nodup_cons.mpr ⟨fun hmem => ?_, nodup_keys_filter hkeys _⟩
  obtain ⟨entry, hentry, hkey⟩ := List.mem_map.mp hmem
  exact (mem_erase.mp hentry).2 hkey

theorem erase_insert : erase (insert entries k v) k = erase entries k := by
  simp [erase, insert]

theorem erase_of_get_eq_none (h : get entries k = none) : erase entries k = entries :=
  List.filter_eq_self.mpr fun entry hmem => by simpa using get_eq_none_iff.mp h entry hmem

/-- A key's entry stands beside the map without the key. -/
theorem perm_insert_of_get_eq_some (hkeys : (entries.map Prod.fst).Nodup)
    (h : get entries k = some v) : entries.Perm (insert entries k v) := by
  refine (List.perm_ext_iff_of_nodup hkeys.of_map (nodup_keys_insert hkeys).of_map).mpr ?_
  intro entry
  have hmem := (get_eq_some_iff hkeys).mp h
  rw [mem_insert]
  constructor
  · intro hentry
    by_cases hkey : entry.1 = k
    · exact Or.inl (List.inj_on_of_nodup_map hkeys hentry hmem hkey)
    · exact Or.inr ⟨hentry, hkey⟩
  · rintro (rfl | ⟨hentry, -⟩)
    · exact hmem
    · exact hentry

end Maps

end Keyed

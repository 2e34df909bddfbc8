import SlotKeeper.Pool.Request

/-!
# The lease table

`Leases` maps requester ids to the leases they hold. Its entries are kept in strictly increasing
key order, so that the table holds one lease per id and is shown and walked in byte order of the
ids; the table carries that order with it (`Leases.sorted`). `insert` adds or replaces an entry,
`modify` changes one and `erase` removes one, all keeping the order. Reading a table files its
members one after the other, the last of two equal ids winning.
-/

namespace SlotKeeper.Pool

open Json

/-- An association list from requester ids to leases, in increasing id order. -/
abbrev Entries := List (String × Lease)

/-- The lease held under `key` in a list of entries. -/
def Entries.lookup (key : String) : Entries → Option Lease
  | [] => none
  | (k, l) :: rest => if k = key then some l else lookup key rest

/-- Adds or replaces the entry under `key`, keeping the order. -/
def Entries.insert (key : String) (lease : Lease) : Entries → Entries
  | [] => [(key, lease)]
  | (k, l) :: rest =>
    if key < k then (key, lease) :: (k, l) :: rest
    else if key = k then (key, lease) :: rest
    else (k, l) :: insert key lease rest

/-- Removes the entry under `key`. -/
def Entries.erase (key : String) : Entries → Entries
  | [] => []
  | (k, l) :: rest => if k = key then rest else (k, l) :: erase key rest

/-- Changes the entry under `key`, if any. -/
def Entries.modify (key : String) (f : Lease → Lease) : Entries → Entries
  | [] => []
  | (k, l) :: rest => if k = key then (k, f l) :: rest else (k, l) :: modify key f rest

namespace Entries

/-- The ids strictly increase along the entries. -/
def Sorted (es : Entries) : Prop := (es.map Prod.fst).Pairwise (· < ·)

theorem sorted_cons {e : String × Lease} {es : Entries} :
    Sorted (e :: es) ↔ (∀ k ∈ es.map Prod.fst, e.1 < k) ∧ Sorted es :=
  List.pairwise_cons

/-- Filing a lease adds its id to the others, if it is new. -/
theorem key_mem_insert {key k : String} {lease : Lease} {es : Entries}
    (h : k ∈ (insert key lease es).map Prod.fst) : k = key ∨ k ∈ es.map Prod.fst := by
  induction es with
  | nil => exact .inl (List.mem_singleton.mp h)
  | cons e rest ih =>
    obtain ⟨k', l⟩ := e
    unfold Entries.insert at h
    split at h
    · simpa using h
    · split at h
      · simp only [List.map_cons, List.mem_cons] at h ⊢
        rcases h with h | h
        · exact .inl h
        · exact .inr (.inr h)
      · simp only [List.map_cons, List.mem_cons] at h ⊢
        rcases h with h | h
        · exact .inr (.inl h)
        · rcases ih h with h | h
          · exact .inl h
          · exact .inr (.inr h)

theorem Sorted.insert (key : String) (lease : Lease) {es : Entries} (h : es.Sorted) :
    (insert key lease es).Sorted := by
  induction es with
  | nil => exact List.pairwise_singleton _ _
  | cons e rest ih =>
    obtain ⟨k, l⟩ := e
    obtain ⟨hhead, hrest⟩ := sorted_cons.mp h
    unfold Entries.insert
    by_cases hlt : key < k
    · rw [if_pos hlt, sorted_cons]
      refine ⟨fun k' hk' ↦ ?_, h⟩
      rcases List.mem_cons.mp hk' with rfl | hk'
      · exact hlt
      · exact String.lt_trans hlt (hhead k' hk')
    · rw [if_neg hlt]
      by_cases heq : key = k
      · rw [if_pos heq, sorted_cons]
        subst heq
        exact ⟨hhead, hrest⟩
      · rw [if_neg heq, sorted_cons]
        -- a key neither below nor at the head lies above it
        have hgt : k < key := String.not_le.mp fun hle ↦
          heq (String.le_antisymm (String.not_lt.mp hlt) hle).symm
        refine ⟨fun k' hk' ↦ ?_, ih hrest⟩
        rcases key_mem_insert hk' with rfl | hk'
        · exact hgt
        · exact hhead k' hk'

theorem erase_sublist (key : String) (es : Entries) : (erase key es).Sublist es := by
  induction es with
  | nil => exact List.Sublist.slnil
  | cons e rest ih =>
    by_cases hkey : e.1 = key
    · simp only [erase, hkey, if_true]
      exact List.sublist_cons_self e rest
    · simp only [erase, hkey, if_false]
      exact ih.cons_cons e

theorem Sorted.erase (key : String) {es : Entries} (h : es.Sorted) : (erase key es).Sorted :=
  h.sublist ((erase_sublist key es).map Prod.fst)

theorem keys_modify (key : String) (f : Lease → Lease) (es : Entries) :
    (modify key f es).map Prod.fst = es.map Prod.fst := by
  induction es with
  | nil => rfl
  | cons e rest ih =>
    by_cases hk : e.1 = key
    · simp [modify, hk]
    · simp [modify, hk, ih]

theorem Sorted.modify (key : String) (f : Lease → Lease) {es : Entries} (h : es.Sorted) :
    (modify key f es).Sorted := by
  unfold Sorted
  rw [keys_modify]
  exact h

theorem lookup_insert_self {key : String} (lease : Lease) (es : Entries) :
    lookup key (insert key lease es) = some lease := by
  induction es with
  | nil => simp [insert, lookup]
  | cons e rest ih =>
    obtain ⟨k, l⟩ := e
    by_cases hlt : key < k
    · simp [insert, lookup, hlt]
    · by_cases heq : key = k
      · simp [insert, lookup, heq]
      · have hk : k ≠ key := fun h => heq h.symm
        simp [insert, lookup, hlt, heq, hk, ih]

end Entries

/-- Held leases by requester id. -/
structure Leases where
  entries : Entries
  sorted : entries.Sorted
  deriving DecidableEq, Repr

namespace Leases

/-- No leases. -/
def empty : Leases := ⟨[], List.Pairwise.nil⟩

instance : Inhabited Leases := ⟨empty⟩

/-- A table is its entries; the order they keep is a fact about them. -/
@[ext] theorem ext {m m' : Leases} (h : m.entries = m'.entries) : m = m' := by
  cases m
  cases m'
  cases h
  rfl

/-- The number of leases. -/
def size (m : Leases) : Nat := m.entries.length

/-- The lease held under `key`. -/
def find? (m : Leases) (key : String) : Option Lease := Entries.lookup key m.entries

/-- Whether a lease is held under `key`. -/
def contains (m : Leases) (key : String) : Bool := (m.find? key).isSome

/-- Adds or replaces the lease under `key`. -/
def insert (m : Leases) (key : String) (lease : Lease) : Leases :=
  ⟨Entries.insert key lease m.entries, m.sorted.insert key lease⟩

/-- Removes the lease under `key`. -/
def erase (m : Leases) (key : String) : Leases := ⟨Entries.erase key m.entries, m.sorted.erase key⟩

/-- Changes the lease under `key`, if any. -/
def modify (m : Leases) (key : String) (f : Lease → Lease) : Leases :=
  ⟨Entries.modify key f m.entries, m.sorted.modify key f⟩

/-- The leases in key order. -/
def values (m : Leases) : List Lease := m.entries.map (·.2)

/-- The stored form: an object keyed by requester id. -/
def toJson (m : Leases) : Json := .object (m.entries.map fun (k, l) => (k, l.toJson))

/-- Reads the stored form: members are visited in their order and the first bad lease fails; they
are then filed one after the other, the last of two equal ids winning. -/
def decoder : Decoder Leases := fun origin j =>
  match j with
  | .object members => do
    let entries ← members.mapM fun (k, v) => do
      let l ← Lease.decoder origin v
      pure (k, l)
    pure (entries.foldl (fun m e => m.insert e.1 e.2) empty)
  | other => mismatch other "a map"

@[simp] theorem find?_insert_self (m : Leases) (key : String) (lease : Lease) :
    (m.insert key lease).find? key = some lease :=
  Entries.lookup_insert_self lease m.entries

end Leases

end SlotKeeper.Pool

import Mathlib.Data.List.Basic

namespace CapyPdf

-- A `std::unordered_map` as the code uses it: `find`, `operator[]` for assignment and `empty`.
-- The newest binding of a key comes first and hides the older ones, so `find` sees exactly the
-- last value assigned to each key; the code never iterates over these maps.
structure UMap (κ ν : Type) where
  bindings : List (κ × ν)
  deriving DecidableEq, Repr

namespace UMap

variable {κ ν : Type}

def empty : UMap κ ν := ⟨[]⟩

def insert (m : UMap κ ν) (k : κ) (v : ν) : UMap κ ν :=
  ⟨(k, v) :: m.bindings⟩

def isEmpty (m : UMap κ ν) : Bool :=
  m.bindings.isEmpty

@[simp] theorem isEmpty_empty : (empty : UMap κ ν).isEmpty = true := rfl

@[simp] theorem isEmpty_insert (m : UMap κ ν) (k : κ) (v : ν) : (m.insert k v).isEmpty = false :=
  rfl

variable [DecidableEq κ]

def find? (m : UMap κ ν) (k : κ) : Option ν :=
  (m.bindings.find? (·.1 = k)).map Prod.snd

def contains (m : UMap κ ν) (k : κ) : Bool :=
  (m.find? k).isSome

variable (m : UMap κ ν) (k k' : κ) (v : ν)

@[simp] theorem find?_empty : (empty : UMap κ ν).find? k = none := rfl

@[simp] theorem find?_insert : (m.insert k v).find? k' = if k = k' then some v else m.find? k' := by
  by_cases h : k = k' <;> simp [find?, insert, List.find?_cons, h]

@[simp] theorem contains_iff : m.contains k = true ↔ ∃ v, m.find? k = some v := by
  simp [contains, Option.isSome_iff_exists]

def insertAll (m : UMap κ ν) : List (κ × ν) → UMap κ ν
  | [] => m
  | (k, v) :: kvs => (m.insert k v).insertAll kvs

theorem find?_insertAll_of_not_mem (kvs : List (κ × ν)) (h : k ∉ kvs.map Prod.fst) :
    (m.insertAll kvs).find? k = m.find? k := by
  induction kvs generalizing m with
  | nil => rfl
  | cons kv kvs ih =>
    simp only [List.map_cons, List.mem_cons, not_or] at h
    simp [insertAll, ih _ h.2, Ne.symm h.1]

theorem find?_insertAll_eq_some {kvs : List (κ × ν)} (h : (m.insertAll kvs).find? k = some v) :
    m.find? k = some v ∨ (k, v) ∈ kvs := by
  induction kvs generalizing m with
  | nil => exact .inl h
  | cons kv kvs ih =>
    obtain ⟨k', v'⟩ := kv
    rcases ih _ h with h | h
    · simp only [find?_insert] at h
      split at h
      · cases h; subst k'; exact .inr (.head _)
      · exact .inl h
    · exact .inr (.tail _ h)

theorem find?_insertAll_of_mem {kvs : List (κ × ν)} (h : k ∈ kvs.map Prod.fst) :
    ∃ v, (m.insertAll kvs).find? k = some v ∧ (k, v) ∈ kvs := by
  induction kvs generalizing m with
  | nil => simp at h
  | cons kv kvs ih =>
    obtain ⟨k', v'⟩ := kv
    by_cases hk : k ∈ kvs.map Prod.fst
    · obtain ⟨v, hv, hm⟩ := ih (m.insert k' v') hk
      exact ⟨v, hv, .tail _ hm⟩
    · obtain rfl : k' = k := by simpa [hk, eq_comm] using h
      exact ⟨v', by simp [insertAll, find?_insertAll_of_not_mem _ _ _ hk], .head _⟩

end UMap

end CapyPdf

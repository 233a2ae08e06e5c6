/-
# A map that remembers the order its keys came in

A hash map, as far as `count`, `find` and `emplace` can tell.  The entries are kept in insertion
order, which no lookup sees; that the keys are pairwise distinct is part of the type, so
`emplace` on a key that is already there has to change nothing.
-/
import Mathlib.Data.List.Nodup
import Mathlib.Tactic

namespace CallFwd.Lib

structure KeyMap (K V : Type) where
  entries : List (K × V)
  nodup : (entries.map Prod.fst).Nodup

namespace KeyMap

variable {K V : Type}

@[ext] theorem ext {m m' : KeyMap K V} (h : m.entries = m'.entries) : m = m' := by
  cases m
  cases m'
  cases h
  rfl

def empty : KeyMap K V := ⟨[], List.nodup_nil⟩

def keys (m : KeyMap K V) : List K := m.entries.map Prod.fst

def size (m : KeyMap K V) : Nat := m.entries.length

@[simp] theorem entries_empty : (empty : KeyMap K V).entries = [] := rfl

@[simp] theorem keys_empty : (empty : KeyMap K V).keys = [] := rfl

variable [DecidableEq K]

/-- The value stored for `k`. -/
def find (m : KeyMap K V) (k : K) : Option V :=
  (m.entries.find? fun e => decide (e.1 = k)).map Prod.snd

/-- `map.count(k) != 0`. -/
def count (m : KeyMap K V) (k : K) : Bool := decide (k ∈ m.keys)

/-- `map.emplace(k, v)`: a key that is already there keeps its value. -/
def emplace (m : KeyMap K V) (k : K) (v : V) : KeyMap K V :=
  if h : k ∈ m.keys then m
  else ⟨m.entries ++ [(k, v)], by
    rw [List.map_append, List.nodup_append]
    refine ⟨m.nodup, List.nodup_singleton k, ?_⟩
    rintro a ha b hb rfl
    obtain rfl : a = k := by simpa using hb
    exact h ha⟩

/-- A new key comes last. -/
theorem entries_emplace {m : KeyMap K V} {k : K} (v : V) (h : k ∉ m.keys) :
    (m.emplace k v).entries = m.entries ++ [(k, v)] := by
  rw [emplace, dif_neg h]

theorem keys_emplace {m : KeyMap K V} {k : K} (v : V) (h : k ∉ m.keys) :
    (m.emplace k v).keys = m.keys ++ [k] := by
  rw [keys, entries_emplace v h, List.map_append]
  rfl

/-- A lookup finds exactly the entries. -/
theorem find_eq_some_iff {m : KeyMap K V} {k : K} {v : V} :
    m.find k = some v ↔ (k, v) ∈ m.entries := by
  rw [find, Option.map_eq_some_iff]
  constructor
  · rintro ⟨⟨k', v'⟩, he, rfl⟩
    obtain rfl : k' = k := by simpa using List.find?_some he
    exact List.mem_of_find?_eq_some he
  · intro hmem
    cases he : m.entries.find? fun e => decide (e.1 = k) with
    | none =>
      have hk := List.find?_eq_none.mp he (k, v) hmem
      simp at hk
    | some e =>
      have hk : e.1 = k := by simpa using List.find?_some he
      have heq : e = (k, v) :=
        List.inj_on_of_nodup_map m.nodup (List.mem_of_find?_eq_some he) hmem hk
      exact ⟨e, rfl, by rw [heq]⟩

/-- And it finds nothing exactly for a key that never came in. -/
theorem find_eq_none_iff {m : KeyMap K V} {k : K} : m.find k = none ↔ k ∉ m.keys := by
  rw [find, Option.map_eq_none_iff, List.find?_eq_none, keys, List.mem_map]
  constructor
  · rintro h ⟨e, he, hk⟩
    exact h e he (by simpa using hk)
  · intro h e he hk
    exact h ⟨e, he, by simpa using hk⟩

/-- `find` and `count` agree. -/
theorem find_isSome_iff {m : KeyMap K V} {k : K} : (m.find k).isSome ↔ k ∈ m.keys := by
  rw [← not_iff_not, Bool.not_eq_true, Option.isSome_eq_false_iff, Option.isNone_iff_eq_none,
    find_eq_none_iff]

@[simp] theorem count_eq_true {m : KeyMap K V} {k : K} : m.count k = true ↔ k ∈ m.keys := by
  simp [count]

end KeyMap

end CallFwd.Lib

import ParameterExpansion.Text

/-!
# Stores

A store maps names to values and keeps the order in which names first came in. Its view is `get?`:
a name just set has the value it was set to, every other one the value it had (`get?_set`).
-/

namespace ParameterExpansion

/-- A map from names to values. -/
structure Store where
  /-- The names with their values, in the order in which the names came in. -/
  entries : List (Text × Text)
  /-- No name occurs twice. -/
  distinct : (entries.map Prod.fst).Nodup

namespace Store

/-- Puts a value under a name into a list of entries: in place of the name's value, or at the end. -/
def insert (name value : Text) : List (Text × Text) → List (Text × Text)
  | [] => [(name, value)]
  | (n, v) :: rest => if n = name then (n, value) :: rest else (n, v) :: insert name value rest

/-- A new name comes in at the end. -/
theorem names_insert (name value : Text) (entries : List (Text × Text)) :
    (insert name value entries).map Prod.fst =
      if name ∈ entries.map Prod.fst then entries.map Prod.fst
      else entries.map Prod.fst ++ [name] := by
  induction entries with
  | nil => simp [insert]
  | cons entry rest ih =>
    obtain ⟨n, v⟩ := entry
    by_cases h : n = name
    · simp [insert, h]
    · rw [insert, if_neg h, List.map_cons, ih]
      by_cases hm : name ∈ rest.map Prod.fst <;> simp [hm, Ne.symm h]

/-- The name has the value that was put in, every other name the one it had. -/
theorem lookup_insert (name value n : Text) (entries : List (Text × Text)) :
    (insert name value entries).lookup n =
      if n = name then some value else entries.lookup n := by
  induction entries with
  | nil => by_cases h : n = name <;> simp [insert, List.lookup_cons, h, beq_eq_false_iff_ne.2]
  | cons entry rest ih =>
    obtain ⟨m, v⟩ := entry
    rw [insert]
    by_cases h : m = name
    · subst h
      by_cases hn : n = m <;> simp [List.lookup_cons, hn, beq_eq_false_iff_ne.2]
    · rw [if_neg h, List.lookup_cons, List.lookup_cons, ih]
      by_cases hn : n = m
      · subst hn; simp [h]
      · simp [beq_eq_false_iff_ne.2 hn]

/-- The store without names. -/
def empty : Store := ⟨[], List.nodup_nil⟩

/-- The value of a name, when it has one. -/
def get? (s : Store) (name : Text) : Option Text := s.entries.lookup name

/-- The store with a value under a name, and all else as it was. -/
def set (s : Store) (name value : Text) : Store where
  entries := insert name value s.entries
  distinct := by
    rw [names_insert]
    split
    · exact s.distinct
    · next h =>
      refine List.nodup_append.2 ⟨s.distinct, by simp, ?_⟩
      rintro a ha b hb rfl
      exact h (List.mem_singleton.1 hb ▸ ha)

/-- The names of a store, in the order in which they came in. -/
def names (s : Store) : List Text := s.entries.map Prod.fst

/-- The store that pairs of names and values make up, when they are set one after the other. -/
def ofList (pairs : List (Text × Text)) : Store :=
  pairs.foldl (fun s pair => s.set pair.1 pair.2) empty

/-- A name just set has its new value, every other name the one it had. -/
@[simp] theorem get?_set (s : Store) (name value n : Text) :
    (s.set name value).get? n = if n = name then some value else s.get? n :=
  lookup_insert name value n s.entries

/-- Setting a name keeps the order of the names and puts a new one at the end. -/
theorem names_set (s : Store) (name value : Text) :
    (s.set name value).names = if name ∈ s.names then s.names else s.names ++ [name] :=
  names_insert name value s.entries

end Store

end ParameterExpansion

/-!
# Entries

Named values in order: the members of a JSON object, the fields of a schema, the keys of a
table. A name is looked up with `List.lookup`, which finds its first entry. The main
statements say what `insert` does to the names (a name already there keeps its place, a new
one comes last) and to look-ups.
-/

namespace StructuredOutput

/-- Named values, in order. -/
abbrev Entries (α : Type) := List (String × α)

namespace Entries

variable {α : Type}

/-- The names, in order. -/
def names (es : Entries α) : List String := es.map Prod.fst

/-- Puts `value` under `name`: in place of the entry of that name, or at the end if there
is none. -/
def insert (name : String) (value : α) : Entries α → Entries α
  | [] => [(name, value)]
  | (n, v) :: rest =>
    if n = name then (n, value) :: rest else (n, v) :: insert name value rest

/-- Adds an entry at the end, unless the name is already there. -/
def insertIfAbsent (name : String) (value : α) (es : Entries α) : Entries α :=
  if (es.lookup name).isSome then es else es ++ [(name, value)]

/-- Inserts the given entries one after the other: a repeated name keeps the place of its
first entry and takes the value of its last. -/
def collect (es : List (String × α)) : Entries α :=
  es.foldl (fun acc e => acc.insert e.1 e.2) []

/-! ## Names -/

@[simp] theorem names_nil : names ([] : Entries α) = [] := rfl

@[simp] theorem names_cons (e : String × α) (es : Entries α) :
    names (e :: es) = e.1 :: names es := rfl

@[simp] theorem names_append (es fs : Entries α) :
    names (es ++ fs) = names es ++ names fs := by
  simp [names]

theorem names_insert (name : String) (value : α) (es : Entries α) :
    names (insert name value es) =
      if name ∈ names es then names es else names es ++ [name] := by
  induction es with
  | nil => simp [insert]
  | cons e rest ih =>
    obtain ⟨n, v⟩ := e
    by_cases h : n = name
    · simp [insert, h]
    · by_cases hm : name ∈ names rest
      · simp [insert, h, ih, hm]
      · simp [insert, h, ih, hm, Ne.symm h]

/-! ## Look-up -/

theorem lookup_cons (name : String) (e : String × α) (es : Entries α) :
    List.lookup name (e :: es) = if name = e.1 then some e.2 else es.lookup name := by
  obtain ⟨n, v⟩ := e
  rw [List.lookup_cons]
  by_cases h : name = n
  · simp [h]
  · simp [h, beq_eq_false_iff_ne.mpr h]

theorem lookup_insert_self (name : String) (value : α) (es : Entries α) :
    (insert name value es).lookup name = some value := by
  induction es with
  | nil => simp [insert]
  | cons e rest ih =>
    by_cases h : e.1 = name
    · simp [insert, h]
    · simp [insert, h, lookup_cons, ih, Ne.symm h]

theorem lookup_insert_of_ne {name other : String} (h : other ≠ name) (value : α)
    (es : Entries α) : (insert name value es).lookup other = es.lookup other := by
  induction es with
  | nil => simp [insert, lookup_cons, h]
  | cons e rest ih =>
    by_cases hn : e.1 = name
    · simp [insert, hn, lookup_cons, h]
    · simp [insert, hn, lookup_cons, ih]

end Entries

end StructuredOutput

import StructuredOutput.Entries

/-!
# Rewriting entries

Two ways to go through entries without touching their order: `mapValues` rewrites every
value, `keepNames` drops the entries of some names. The main statements say what either
does to a look-up and to the list of names, and that both commute with `insert` and
`insertIfAbsent`. A pass over a document goes through each of its levels in these two ways,
so what a pass does to a level is read off here.
-/

namespace StructuredOutput.Entries

variable {α β γ : Type}

/-- Rewrites every value, by the name it stands under. -/
def mapValues (f : String → α → β) (es : Entries α) : Entries β :=
  es.map fun e => (e.1, f e.1 e.2)

/-- Rewrites what stands under one name. -/
def adjust (name : String) (f : α → α) (es : Entries α) : Entries α :=
  es.mapValues fun n v => if n = name then f v else v

/-- The entries whose name passes a test. -/
def keepNames (keep : String → Bool) (es : Entries α) : Entries α :=
  es.filter fun e => keep e.1

/-! ## Look-up -/

theorem mem_of_lookup {name : String} {v : α} {es : Entries α}
    (h : es.lookup name = some v) : (name, v) ∈ es := by
  induction es with
  | nil => simp at h
  | cons e rest ih =>
    rw [lookup_cons] at h
    split at h
    · rename_i hname
      have hv : e.2 = v := by simpa using h
      have he : e = (name, v) := by rw [hname, ← hv]
      simp [he]
    · exact List.mem_cons_of_mem e (ih h)

theorem lookup_eq_none_iff {name : String} {es : Entries α} :
    es.lookup name = none ↔ ∀ e ∈ es, e.1 ≠ name := by
  simp only [List.lookup_eq_none_iff, bne_iff_ne, ne_comm]

theorem lookup_append (name : String) (es fs : Entries α) :
    List.lookup name (es ++ fs) = (es.lookup name).or (fs.lookup name) :=
  List.lookup_append

/-! ## Values -/

@[simp] theorem mapValues_nil (f : String → α → β) :
    mapValues f ([] : Entries α) = [] := rfl

@[simp] theorem mapValues_cons (f : String → α → β) (e : String × α) (es : Entries α) :
    mapValues f (e :: es) = (e.1, f e.1 e.2) :: mapValues f es := rfl

@[simp] theorem mapValues_append (f : String → α → β) (es fs : Entries α) :
    mapValues f (es ++ fs) = mapValues f es ++ mapValues f fs := by
  simp [mapValues]

@[simp] theorem names_mapValues (f : String → α → β) (es : Entries α) :
    (es.mapValues f).names = es.names := by
  simp [mapValues, names]

theorem mem_mapValues {f : String → α → β} {es : Entries α} {e : String × β} :
    e ∈ es.mapValues f ↔ ∃ d ∈ es, e = (d.1, f d.1 d.2) := by
  simp [mapValues, eq_comm]

@[simp] theorem lookup_mapValues (f : String → α → β) (name : String) (es : Entries α) :
    (es.mapValues f).lookup name = (es.lookup name).map (f name) := by
  induction es with
  | nil => rfl
  | cons e rest ih =>
    by_cases h : name = e.1
    · simp [lookup_cons, h]
    · simp [lookup_cons, h, ih]

theorem mapValues_mapValues (g : String → β → γ) (f : String → α → β) (es : Entries α) :
    (es.mapValues f).mapValues g = es.mapValues fun name v => g name (f name v) := by
  simp [mapValues]

theorem mapValues_congr {f g : String → α → β} {es : Entries α}
    (h : ∀ e ∈ es, f e.1 e.2 = g e.1 e.2) : es.mapValues f = es.mapValues g := by
  apply List.map_congr_left
  intro e he
  rw [h e he]

theorem mapValues_eq_self {f : String → α → α} {es : Entries α}
    (h : ∀ e ∈ es, f e.1 e.2 = e.2) : es.mapValues f = es := by
  calc es.mapValues f = es.mapValues fun _ v => v := mapValues_congr h
    _ = es := List.map_id es

theorem mapValues_insert (f : String → α → β) (name : String) (v : α) (es : Entries α) :
    (es.insert name v).mapValues f = (es.mapValues f).insert name (f name v) := by
  induction es with
  | nil => rfl
  | cons e rest ih =>
    by_cases h : e.1 = name
    · simp [insert, h]
    · simp [insert, h, ih]

theorem mapValues_insertIfAbsent (f : String → α → β) (name : String) (v : α)
    (es : Entries α) :
    (es.insertIfAbsent name v).mapValues f
      = (es.mapValues f).insertIfAbsent name (f name v) := by
  by_cases h : (es.lookup name).isSome
  · simp [insertIfAbsent, h]
  · have hmap : ¬((es.mapValues f).lookup name).isSome := by simpa using h
    rw [insertIfAbsent, if_neg h, insertIfAbsent, if_neg hmap]
    simp [mapValues]

@[simp] theorem adjust_cons (name : String) (f : α → α) (e : String × α) (es : Entries α) :
    adjust name f (e :: es)
      = (e.1, if e.1 = name then f e.2 else e.2) :: adjust name f es := rfl

@[simp] theorem adjust_append (name : String) (f : α → α) (es fs : Entries α) :
    adjust name f (es ++ fs) = adjust name f es ++ adjust name f fs := by
  simp [adjust, mapValues]

theorem adjust_of_lookup_eq_none {name : String} {es : Entries α}
    (h : es.lookup name = none) (f : α → α) : adjust name f es = es := by
  rw [lookup_eq_none_iff] at h
  induction es with
  | nil => rfl
  | cons e rest ih =>
    obtain ⟨hne, hrest⟩ := List.forall_mem_cons.mp h
    rw [adjust_cons, if_neg hne, ih hrest]

/-! ## Names -/

theorem mem_keepNames {keep : String → Bool} {es : Entries α} {e : String × α} :
    e ∈ es.keepNames keep ↔ e ∈ es ∧ keep e.1 := by
  simp [keepNames]

theorem lookup_keepNames {keep : String → Bool} {name : String} (h : keep name)
    (es : Entries α) : (es.keepNames keep).lookup name = es.lookup name := by
  induction es with
  | nil => rfl
  | cons e rest ih =>
    rw [keepNames, List.filter_cons]
    split
    · rw [lookup_cons, lookup_cons]
      split
      · rfl
      · exact ih
    · rename_i hdrop
      have hne : name ≠ e.1 := by
        rintro rfl
        exact hdrop h
      rw [lookup_cons, if_neg hne]
      exact ih

@[simp] theorem keepNames_append (keep : String → Bool) (es fs : Entries α) :
    keepNames keep (es ++ fs) = keepNames keep es ++ keepNames keep fs := by
  simp [keepNames]

theorem keepNames_eq_self {keep : String → Bool} {es : Entries α}
    (h : ∀ name, keep name = false → es.lookup name = none) : es.keepNames keep = es := by
  refine List.filter_eq_self.mpr fun e he => ?_
  cases hkeep : keep e.1 with
  | true => rfl
  | false => exact absurd rfl (lookup_eq_none_iff.mp (h e.1 hkeep) e he)

theorem keepNames_eq_nil {keep : String → Bool} {es : Entries α}
    (h : ∀ name, keep name → es.lookup name = none) : es.keepNames keep = [] := by
  refine List.filter_eq_nil_iff.mpr fun e he hkeep => ?_
  exact lookup_eq_none_iff.mp (h e.1 hkeep) e he rfl

theorem keepNames_keepNames (keep : String → Bool) (es : Entries α) :
    (es.keepNames keep).keepNames keep = es.keepNames keep := by
  simp [keepNames]

theorem keepNames_mapValues (keep : String → Bool) (f : String → α → β) (es : Entries α) :
    (es.mapValues f).keepNames keep = (es.keepNames keep).mapValues f := by
  simp [keepNames, mapValues, List.filter_map, Function.comp_def]

theorem keepNames_insert {keep : String → Bool} {name : String} (h : keep name) (v : α)
    (es : Entries α) :
    (es.insert name v).keepNames keep = (es.keepNames keep).insert name v := by
  induction es with
  | nil => simp [insert, keepNames, h]
  | cons e rest ih =>
    by_cases hn : e.1 = name
    · simp [insert, keepNames, hn, h]
    · by_cases hk : keep e.1
      · simpa [insert, keepNames, hn, hk] using ih
      · simpa [insert, keepNames, hn, hk] using ih

theorem keepNames_insertIfAbsent {keep : String → Bool} {name : String}
    (h : keep name) (v : α) (es : Entries α) :
    (es.insertIfAbsent name v).keepNames keep
      = (es.keepNames keep).insertIfAbsent name v := by
  rw [insertIfAbsent, insertIfAbsent, lookup_keepNames h]
  split
  · rfl
  · simp [keepNames, h]

/-! ## Inserting again -/

/-- What is already there changes nothing. -/
theorem insert_of_lookup {name : String} {v : α} {es : Entries α}
    (h : es.lookup name = some v) : es.insert name v = es := by
  induction es with
  | nil => simp at h
  | cons e rest ih =>
    rw [lookup_cons] at h
    split at h
    · rename_i hname
      have hv : e.2 = v := by simpa using h
      simp [insert, hname, ← hv]
    · rename_i hname
      simp [insert, Ne.symm hname, ih h]

/-- A new name comes last. -/
theorem insert_of_lookup_eq_none {name : String} {es : Entries α}
    (h : es.lookup name = none) (v : α) : es.insert name v = es ++ [(name, v)] := by
  rw [lookup_eq_none_iff] at h
  induction es with
  | nil => rfl
  | cons e rest ih =>
    obtain ⟨hne, hrest⟩ := List.forall_mem_cons.mp h
    rw [insert, if_neg hne, ih hrest, List.cons_append]

/-- Among entries before others, a name that is there keeps its place; any other goes on to
them. -/
theorem insert_append (name : String) (v : α) (es fs : Entries α) :
    insert name v (es ++ fs) =
      if name ∈ es.names then es.insert name v ++ fs else es ++ fs.insert name v := by
  induction es with
  | nil => rfl
  | cons e rest ih =>
    by_cases h : e.1 = name
    · simp [insert, h]
    · by_cases hrest : name ∈ names rest
      · simp [insert, h, ih, hrest]
      · simp [insert, h, ih, hrest, Ne.symm h]

theorem insertIfAbsent_of_lookup {name : String} {v : α} {es : Entries α}
    (h : es.lookup name = some v) (w : α) : es.insertIfAbsent name w = es := by
  rw [insertIfAbsent, h]
  rfl

theorem lookup_insertIfAbsent_self (name : String) (v : α) (es : Entries α) :
    (es.insertIfAbsent name v).lookup name = some ((es.lookup name).getD v) := by
  unfold insertIfAbsent
  cases h : es.lookup name with
  | some w => simp [h]
  | none => simp [lookup_append, h]

theorem lookup_insertIfAbsent_of_ne {name other : String} (h : other ≠ name) (v : α)
    (es : Entries α) : (es.insertIfAbsent name v).lookup other = es.lookup other := by
  unfold insertIfAbsent
  split
  · rfl
  · simp [lookup_append, lookup_cons, h]

theorem insertIfAbsent_insertIfAbsent (name : String) (v w : α) (es : Entries α) :
    (es.insertIfAbsent name v).insertIfAbsent name w = es.insertIfAbsent name v := by
  exact insertIfAbsent_of_lookup (lookup_insertIfAbsent_self name v es) w

/-! ## Distinct names -/

theorem mem_of_mem_insert {name : String} {v : α} {es : Entries α} {e : String × α}
    (h : e ∈ es.insert name v) : e = (name, v) ∨ e ∈ es := by
  induction es with
  | nil => exact .inl (List.mem_singleton.mp h)
  | cons d rest ih =>
    rw [insert] at h
    split at h
    · rename_i hname
      subst hname
      rcases List.mem_cons.mp h with rfl | hrest
      · exact .inl rfl
      · exact .inr (List.mem_cons_of_mem _ hrest)
    · rcases List.mem_cons.mp h with rfl | hrest
      · exact .inr List.mem_cons_self
      · exact (ih hrest).imp_right (List.mem_cons_of_mem _)

theorem nodup_names_insert (name : String) (v : α) {es : Entries α} (h : es.names.Nodup) :
    (es.insert name v).names.Nodup := by
  rw [names_insert]
  split
  · exact h
  · rename_i hname
    exact List.nodup_append.mpr
      ⟨h, List.pairwise_singleton _ name, fun a ha b hb => by
        rw [List.mem_singleton.mp hb]
        rintro rfl
        exact hname ha⟩

/-- An entry is found under its name, if no other has that name. -/
theorem lookup_of_mem {es : Entries α} (h : es.names.Nodup) {e : String × α}
    (he : e ∈ es) : es.lookup e.1 = some e.2 := by
  induction es with
  | nil => cases he
  | cons d rest ih =>
    obtain ⟨hnot, hrest⟩ := List.nodup_cons.mp h
    rw [lookup_cons]
    rcases List.mem_cons.mp he with rfl | hmem
    · rw [if_pos rfl]
    · have hname : e.1 ≠ d.1 := by
        intro hname
        rw [← hname] at hnot
        exact hnot (List.mem_map_of_mem hmem)
      rw [if_neg hname, ih hrest hmem]

end StructuredOutput.Entries

import StructuredOutput.Proofs.Entries
import Mathlib.Data.List.Nodup

/-!
# Entries put in one after the other

Names may repeat among the entries that are given. `Assembled` says what comes of them,
without putting them in: where a name is given first decides its place, and where it is
given last its value. The main statements are that one more entry keeps an assembly, that
what is given determines it, and that collecting makes it.
-/

namespace StructuredOutput.Entries

variable {α : Type}

/-- What is given last under a name. -/
def lastGiven? (name : String) (given : List (String × α)) : Option α :=
  given.reverse.lookup name

theorem lastGiven?_concat (name : String) (given : List (String × α)) (e : String × α) :
    lastGiven? name (given ++ [e])
      = if name = e.1 then some e.2 else lastGiven? name given := by
  rw [lastGiven?, List.reverse_concat, lookup_cons, lastGiven?]

/-- What comes of entries that are put in one after the other: one entry for each name that
is given, in the order in which the names are given first, with the value that is given
last. -/
structure Assembled (given : List (String × α)) (es : Entries α) : Prop where
  distinct : es.names.Nodup
  mem_names : ∀ name, name ∈ es.names ↔ name ∈ names given
  order : es.names.Pairwise fun a b => (names given).idxOf a < (names given).idxOf b
  lookup_eq : ∀ name, es.lookup name = lastGiven? name given

namespace Assembled

variable {given : List (String × α)} {es : Entries α}

theorem nil : Assembled [] ([] : Entries α) where
  distinct := List.nodup_nil
  mem_names _ := Iff.rfl
  order := .nil
  lookup_eq _ := rfl

/-- Where a name is given first does not change with what is given later. -/
theorem order_append (h : Assembled given es) (more : List (String × α)) :
    es.names.Pairwise fun a b =>
      (names (given ++ more)).idxOf a < (names (given ++ more)).idxOf b := by
  refine h.order.imp_of_mem fun ha hb hbefore => ?_
  rw [names_append, List.idxOf_append_of_mem ((h.mem_names _).mp ha),
    List.idxOf_append_of_mem ((h.mem_names _).mp hb)]
  exact hbefore

/-- One more entry keeps the assembly: a name that is there keeps its place, and a new one
is given after all the others. -/
theorem insert (h : Assembled given es) (name : String) (v : α) :
    Assembled (given ++ [(name, v)]) (es.insert name v) where
  distinct := nodup_names_insert name v h.distinct
  mem_names other := by
    rw [names_insert, names_append, List.mem_append, ← h.mem_names]
    split
    · rename_i hthere
      refine ⟨.inl, fun hother => hother.elim id fun hnew => ?_⟩
      rw [List.mem_singleton.mp hnew]
      exact hthere
    · exact List.mem_append
  order := by
    have hkept := h.order_append [(name, v)]
    rw [names_insert]
    split
    · exact hkept
    · rename_i hnew
      refine List.pairwise_append.mpr
        ⟨hkept, List.pairwise_singleton _ name, fun a ha b hb => ?_⟩
      have hgiven := (h.mem_names a).mp ha
      have hlast : name ∉ names given := fun hmem => hnew ((h.mem_names name).mpr hmem)
      rw [List.mem_singleton.mp hb, names_append, List.idxOf_append_of_mem hgiven,
        List.idxOf_append_of_notMem hlast]
      exact Nat.lt_of_lt_of_le (List.idxOf_lt_length_of_mem hgiven) (Nat.le_add_right _ _)
  lookup_eq other := by
    rw [lastGiven?_concat]
    split
    · rename_i hname
      rw [hname, lookup_insert_self]
    · rename_i hname
      rw [lookup_insert_of_ne hname, h.lookup_eq]

/-- So do any number of entries, put in one after the other. -/
theorem foldl_insert (h : Assembled given es) (more : List (String × α)) :
    Assembled (given ++ more) (more.foldl (fun acc e => acc.insert e.1 e.2) es) := by
  induction more generalizing given es with
  | nil => rwa [List.append_nil]
  | cons e rest ih =>
    have hrest := ih (h.insert e.1 e.2)
    rwa [List.append_assoc, List.singleton_append] at hrest

theorem lastGiven?_of_mem (h : Assembled given es) {e : String × α} (he : e ∈ es) :
    lastGiven? e.1 given = some e.2 := by
  rw [← h.lookup_eq, lookup_of_mem h.distinct he]

theorem mem_iff (h : Assembled given es) {e : String × α} :
    e ∈ es ↔ lastGiven? e.1 given = some e.2 :=
  ⟨h.lastGiven?_of_mem, fun hlast => mem_of_lookup ((h.lookup_eq e.1).trans hlast)⟩

theorem pairwise (h : Assembled given es) :
    es.Pairwise fun d e => (names given).idxOf d.1 < (names given).idxOf e.1 :=
  List.Pairwise.of_map Prod.fst (fun _ _ hbefore => hbefore) h.order

/-- What is given determines the assembly: its entries by the values, their order by the
names. -/
theorem unique {fs : Entries α} (h : Assembled given es) (hfs : Assembled given fs) :
    es = fs := by
  have hes : es.Nodup := List.Nodup.of_map Prod.fst h.distinct
  have hfs' : fs.Nodup := List.Nodup.of_map Prod.fst hfs.distinct
  have hperm : es.Perm fs := (List.perm_ext_iff_of_nodup hes hfs').mpr fun e =>
    h.mem_iff.trans hfs.mem_iff.symm
  exact hperm.eq_of_pairwise (fun _ _ _ _ hab hba => absurd hab (Nat.lt_asymm hba))
    h.pairwise hfs.pairwise

/-- A test of the values selects among the names by what is given last. -/
theorem names_filter (h : Assembled given es) (test : α → Bool) (flag : String → Bool)
    (hflag : ∀ name v, lastGiven? name given = some v → test v = flag name) :
    names (es.filter fun e => test e.2) = es.names.filter flag := by
  rw [names, names, List.filter_map]
  exact congrArg _ (List.filter_congr fun e he => hflag e.1 e.2 (h.lastGiven?_of_mem he))

end Assembled

theorem assembled_collect (given : List (String × α)) : Assembled given (collect given) :=
  Assembled.nil.foldl_insert given

/-- Collecting adds nothing to the entries, and leaves one of each name. -/
theorem collect_spec (es : List (String × α)) :
    (collect es).names.Nodup ∧ ∀ e ∈ collect es, e ∈ es := by
  have h := assembled_collect es
  exact ⟨h.distinct, fun e he =>
    List.mem_reverse.mp (mem_of_lookup (h.lastGiven?_of_mem he))⟩

end StructuredOutput.Entries

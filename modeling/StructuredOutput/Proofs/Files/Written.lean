import StructuredOutput.Files.System

/-!
# Files that are written and read again

A file is put where no directory stands. So every directory stays one, and what could be
reached before is reached by the same steps afterwards (`Node.Keeps`,
`FileSystem.follow_of_keeps`): the path by which a file has been written leads to it. The
main statement is `FileSystem.read_of_write`.
-/

namespace StructuredOutput

/-- What succeeds in two steps succeeds in each. -/
theorem eq_ok_of_bind {ε α β : Type} {x : Except ε α} {f : α → Except ε β} {b : β}
    (h : x >>= f = .ok b) : ∃ a, x = .ok a ∧ f a = .ok b := by
  cases x with
  | error e => cases h
  | ok a => exact ⟨a, rfl, h⟩

namespace Node

/-- Every directory of the one is a directory of the other, where nothing has gone. -/
def Keeps (node node' : Node) : Prop :=
  ∀ address entries, node.get? address = some (directory entries) →
    ∃ entries', node'.get? address = some (directory entries') ∧
      ∀ name, (entries.lookup name).isSome → (entries'.lookup name).isSome

theorem Keeps.refl (node : Node) : Keeps node node :=
  fun _ entries h => ⟨entries, h, fun _ hname => hname⟩

theorem isSome_lookup_insert {name other : String} {value : Node} {entries : Entries Node}
    (h : (entries.lookup other).isSome) :
    ((Entries.insert name value entries).lookup other).isSome := by
  by_cases hname : other = name
  · rw [hname, Entries.lookup_insert_self]
    rfl
  · rw [Entries.lookup_insert_of_ne hname]
    exact h

/-- Of a directory, an insertion changes only the child on its way. -/
theorem keeps_insert_cons {new : Node} {name : String} {rest : Address}
    {siblings : Entries Node}
    (h : ∀ child, siblings.lookup name = some child →
      Keeps child (insert new rest child)) :
    Keeps (directory siblings) (insert new (name :: rest) (directory siblings)) := by
  intro address entries hget
  cases address with
  | nil =>
    obtain rfl : siblings = entries := by simpa using hget
    exact ⟨_, rfl, fun _ => isSome_lookup_insert⟩
  | cons first later =>
    rw [get?_cons] at hget
    obtain ⟨child, hchild, hinner⟩ := Option.bind_eq_some_iff.mp hget
    by_cases hfirst : first = name
    · subst hfirst
      have hlookup : siblings.lookup first = some child := hchild
      rw [get?_cons, child?_insert_self, hlookup]
      exact h child hlookup later entries hinner
    · rw [get?_cons, child?_insert_of_ne hfirst, hchild]
      exact ⟨entries, hinner, fun _ hname => hname⟩

/-- Putting something where no directory stands keeps the directories. -/
theorem keeps_insert (new : Node) {node : Node} {address : Address}
    (h : ∀ entries, node.get? address ≠ some (directory entries)) :
    Keeps node (insert new address node) := by
  induction address generalizing node with
  | nil =>
    cases node with
    | directory entries => exact absurd rfl (h entries)
    | file content =>
      intro address entries hget
      cases address with
      | nil => cases hget
      | cons name rest => cases hget
  | cons name rest ih =>
    cases node with
    | file content => exact Keeps.refl _
    | directory siblings =>
      apply keeps_insert_cons
      intro child hchild
      apply ih
      intro entries heq
      apply h entries
      have hfound : (directory siblings).child? name = some child := hchild
      rw [get?_cons, hfound]
      exact heq

end Node

namespace Path

/-- The parts of a path to a file, with no slash behind the last. -/
theorem parts_of_target? {p : Path} {target : Target} (h : p.target? = some target)
    (hslashed : target.slashed = false) : p.parts = target.before ++ [target.last] := by
  unfold target? at h
  cases hreverse : p.parts.reverse with
  | nil =>
    rw [hreverse] at h
    cases h
  | cons last before =>
    have hparts : p.parts = before.reverse ++ [last] := by
      rw [← List.reverse_reverse p.parts, hreverse, List.reverse_cons]
    have hgetLast : p.parts.getLast? = some last := by
      rw [hparts, List.getLast?_append]
      rfl
    rw [hreverse, hgetLast] at h
    by_cases hempty : last = ""
    · exfalso
      subst hempty
      split at h
      · cases h
      · obtain rfl := Option.some.inj h
        cases hslashed
    · have hfalse : last.isEmpty = false := by simpa using hempty
      rw [List.dropWhile_cons, hfalse] at h
      obtain rfl := Option.some.inj h
      exact hparts

end Path

namespace FileSystem

variable {fs fs' : FileSystem}

theorem directoryAt_eq_ok_iff {address : Address} {node : Node} :
    fs.directoryAt address = .ok node ↔
      ∃ entries, node = .directory entries
        ∧ fs.root.get? address = some (.directory entries) := by
  unfold directoryAt
  constructor
  · intro h
    split at h
    · cases h
    · cases h
    · rename_i directory hfile hget
      obtain rfl := Except.ok.inj h
      cases directory with
      | file content => exact absurd rfl (hfile content)
      | directory entries => exact ⟨entries, rfl, hget⟩
  · rintro ⟨entries, rfl, hget⟩
    rw [hget]

theorem child?_eq_ok_iff {directory : Node} {name : String} {child : Option Node} :
    child? directory name = .ok child ↔
      name.utf8ByteSize ≤ nameLimit ∧ directory.child? name = child := by
  unfold child?
  by_cases hlimit : nameLimit < name.utf8ByteSize
  · rw [if_pos hlimit]
    exact ⟨nofun, fun h => absurd h.1 (Nat.not_le_of_lt hlimit)⟩
  · rw [if_neg hlimit, Except.ok.injEq]
    exact ⟨fun h => ⟨Nat.le_of_not_lt hlimit, h⟩, And.right⟩

/-- A step down leads to what stands under the name. -/
theorem step_down_eq_ok_iff {address address' : Address} {name : String} :
    fs.step address (.down name) = .ok address' ↔
      ∃ entries, fs.root.get? address = some (.directory entries) ∧
        name.utf8ByteSize ≤ nameLimit ∧ (entries.lookup name).isSome ∧
        address' = address ++ [name] := by
  constructor
  · intro h
    obtain ⟨directory, hdirectory, h⟩ := eq_ok_of_bind h
    obtain ⟨entries, rfl, hget⟩ := directoryAt_eq_ok_iff.mp hdirectory
    obtain ⟨child, hchild, h⟩ := eq_ok_of_bind h
    obtain ⟨hlimit, hlookup⟩ := child?_eq_ok_iff.mp hchild
    change entries.lookup name = child at hlookup
    cases child with
    | none => cases h
    | some node =>
      have hsome : (entries.lookup name).isSome := by
        rw [hlookup]
        rfl
      exact ⟨entries, hget, hlimit, hsome, (Except.ok.inj h).symm⟩
  · rintro ⟨entries, hget, hlimit, hlookup, rfl⟩
    obtain ⟨node, hnode⟩ := Option.isSome_iff_exists.mp hlookup
    have hdirectory : fs.directoryAt address = .ok (.directory entries) :=
      directoryAt_eq_ok_iff.mpr ⟨entries, rfl, hget⟩
    have hchild : child? (.directory entries) name = .ok (some node) :=
      child?_eq_ok_iff.mpr ⟨hlimit, hnode⟩
    rw [step, hdirectory]
    show (child? (.directory entries) name >>= _) = _
    rw [hchild]
    rfl

theorem directoryAt_of_keeps (h : Node.Keeps fs.root fs'.root) {address : Address}
    {node : Node} (hdirectory : fs.directoryAt address = .ok node) :
    ∃ node', fs'.directoryAt address = .ok node' := by
  obtain ⟨entries, rfl, hget⟩ := directoryAt_eq_ok_iff.mp hdirectory
  obtain ⟨entries', hget', _⟩ := h address entries hget
  exact ⟨_, directoryAt_eq_ok_iff.mpr ⟨entries', rfl, hget'⟩⟩

/-- A step that can be made stays possible, and leads to the same place. -/
theorem step_of_keeps (h : Node.Keeps fs.root fs'.root)
    {address address' : Address} {s : Step} (hstep : fs.step address s = .ok address') :
    fs'.step address s = .ok address' := by
  cases s with
  | down name =>
    rw [step_down_eq_ok_iff] at hstep ⊢
    obtain ⟨entries, hget, hlimit, hlookup, rfl⟩ := hstep
    obtain ⟨entries', hget', hnames⟩ := h address entries hget
    exact ⟨entries', hget', hlimit, hnames name hlookup, rfl⟩
  | stay | up =>
    unfold step at hstep ⊢
    cases hdirectory : fs.directoryAt address with
    | error e =>
      rw [hdirectory] at hstep
      cases hstep
    | ok directory =>
      obtain ⟨directory', hdirectory'⟩ := directoryAt_of_keeps h hdirectory
      rw [hdirectory] at hstep
      rw [hdirectory']
      exact hstep

theorem follow_of_keeps (h : Node.Keeps fs.root fs'.root)
    (hworking : fs'.workingDirectory = fs.workingDirectory) {absolute : Bool}
    {parts : List String} {address : Address}
    (hfollow : fs.follow absolute parts = .ok address) :
    fs'.follow absolute parts = .ok address := by
  unfold follow at hfollow ⊢
  rw [hworking]
  generalize (if absolute then [] else fs.workingDirectory) = start at hfollow ⊢
  induction parts generalizing start with
  | nil => exact hfollow
  | cons part rest ih =>
    rw [List.map_cons, List.foldlM_cons] at hfollow ⊢
    cases hstep : fs.step start (Step.ofPart part) with
    | error e =>
      rw [hstep] at hfollow
      cases hfollow
    | ok next =>
      rw [hstep] at hfollow
      rw [step_of_keeps h hstep]
      exact ih next hfollow

/-- The last step of a path. -/
theorem follow_append {absolute : Bool} {parts : List String} {address : Address}
    (h : fs.follow absolute parts = .ok address) (last : String) :
    fs.follow absolute (parts ++ [last]) = fs.step address (Step.ofPart last) := by
  unfold follow at h ⊢
  rw [List.map_append, List.foldlM_append, h]
  exact bind_pure (fs.step address (Step.ofPart last))

/-- A file can be put under the name at the address, and the path leads there: a directory
stands at the address, and none under the name. -/
structure IsPlace (fs : FileSystem) (path : Path) (address : Address)
    (name : String) : Prop where
  checked : path.check = .ok ()
  limit : name.utf8ByteSize ≤ nameLimit
  followed : ∃ before last, path.parts = before ++ [last] ∧ Step.ofPart last = .down name ∧
    fs.follow path.absolute before = .ok address
  outer : ∃ entries, fs.root.get? address = some (.directory entries)
  inner : ∀ entries, fs.root.get? (address ++ [name]) ≠ some (.directory entries)

/-- A file is put into its place. -/
theorem withFile_eq_ok {path : Path} {content : ByteArray}
    (h : fs.withFile path content = .ok fs') :
    ∃ address name, IsPlace fs path address name ∧
      fs' = fs.insert (address ++ [name]) (.file content) := by
  obtain ⟨_, hcheck, h⟩ := eq_ok_of_bind h
  cases htarget : path.target? with
  | none =>
    rw [htarget] at h
    cases h
  | some target =>
    rw [htarget] at h
    obtain ⟨address, hfollow, h⟩ := eq_ok_of_bind h
    obtain ⟨directory, hdirectory, h⟩ := eq_ok_of_bind h
    obtain ⟨entries, rfl, hget⟩ := directoryAt_eq_ok_iff.mp hdirectory
    split at h
    · rename_i name hlast
      split at h
      · cases h
      · rename_i hslashed
        obtain ⟨child, hchild, h⟩ := eq_ok_of_bind h
        obtain ⟨hlimit, rfl⟩ := child?_eq_ok_iff.mp hchild
        have hparts := Path.parts_of_target? htarget (by simpa using hslashed)
        split at h
        · cases h
        · rename_i hfile
          obtain rfl := Except.ok.inj h
          refine ⟨address, name, ⟨hcheck, hlimit, ⟨_, _, hparts, hlast, hfollow⟩,
            ⟨entries, hget⟩, ?_⟩, rfl⟩
          intro inner hinner
          rw [Node.get?_append, hget] at hinner
          exact hfile inner (by simpa using hinner)
    · cases h

/-- The file that has been put into a place is found there. -/
theorem locate_of_isPlace {path : Path} {address : Address} {name : String}
    (h : IsPlace fs path address name) (content : ByteArray) :
    (fs.insert (address ++ [name]) (.file content)).locate path = .ok (.file content) := by
  obtain ⟨hchecked, hlimit, ⟨before, last, hparts, hlast, hfollow⟩, ⟨entries, hget⟩,
    hinner⟩ := h
  have hkeeps : Node.Keeps fs.root (fs.insert (address ++ [name]) (.file content)).root :=
    Node.keeps_insert (.file content) hinner
  have hfile : (fs.insert (address ++ [name]) (.file content)).root.get?
      (address ++ [name]) = some (.file content) :=
    Node.get?_insert_self (.file content) hget name
  obtain ⟨entries', hget', _⟩ := hkeeps address entries hget
  have hlookup : (entries'.lookup name).isSome := by
    rw [Node.get?_append, hget'] at hfile
    cases hchild : entries'.lookup name with
    | none => simp [Node.child?, hchild] at hfile
    | some node => rfl
  have hfollowed : (fs.insert (address ++ [name]) (.file content)).follow
      path.absolute path.parts = .ok (address ++ [name]) := by
    rw [hparts, follow_append (follow_of_keeps hkeeps rfl hfollow), hlast]
    exact step_down_eq_ok_iff.mpr ⟨entries', hget', hlimit, hlookup, rfl⟩
  simp only [locate, hchecked, hfollowed, bind, Except.bind, hfile]

/-- An action in two parts that succeeds has both succeed, one after the other. -/
theorem eq_ok_of_run_bind {α β : Type} {x : FileAction α} {f : α → FileAction β} {b : β}
    (h : (x >>= f).run.run fs = (.ok b, fs')) :
    ∃ a fs₁, x.run.run fs = (.ok a, fs₁) ∧ (f a).run.run fs₁ = (.ok b, fs') := by
  rw [ExceptT.run_bind, StateT.run_bind] at h
  rcases hx : x.run.run fs with ⟨result, fs₁⟩
  rw [hx] at h
  cases result with
  | error e => cases h
  | ok a => exact ⟨a, fs₁, rfl, h⟩

theorem eq_ok_of_run_attempt {change : FileSystem → Except FileError FileSystem}
    (h : (attempt change).run.run fs = (.ok (), fs')) : change fs = .ok fs' := by
  obtain ⟨fs₁, fs₂, hget, hset⟩ := eq_ok_of_run_bind h
  obtain ⟨rfl, rfl⟩ : fs = fs₁ ∧ fs = fs₂ := by
    have hpair : (Except.ok fs, fs) = (Except.ok fs₁, fs₂) := hget
    simpa using hpair
  cases hchange : change fs with
  | error e =>
    rw [hchange] at hset
    cases hset
  | ok changed =>
    rw [hchange] at hset
    have hpair : (Except.ok (), changed) = (Except.ok (), fs') := hset
    simpa using hpair

theorem textOfBytes_toUTF8 (text : String) : textOfBytes text.toUTF8 = .ok text := by
  have hread : String.fromUTF8? text.toUTF8 = some text := by
    simpa [String.fromUTF8?] using ⟨text.isValidUTF8, rfl⟩
  rw [textOfBytes, hread]

/-- A text that has been written to a file is read back from it. -/
theorem read_of_write {path : Path} {text : String}
    (h : (write path text.toUTF8).run.run fs = (.ok (), fs')) :
    fs'.read path = .ok text := by
  -- Which directories have been made before does not matter, only that the file could be
  -- put.
  obtain ⟨_, fs₁, _, hattempt⟩ := eq_ok_of_run_bind h
  obtain ⟨address, name, hplace, rfl⟩ := withFile_eq_ok (eq_ok_of_run_attempt hattempt)
  rw [read, locate_of_isPlace hplace]
  exact textOfBytes_toUTF8 text

end FileSystem

end StructuredOutput

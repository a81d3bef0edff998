import StructuredOutput.Error
import StructuredOutput.Proofs.Files.Written
import StructuredOutput.Proofs.Toml.Document

/-!
# Configurations that are written and read again

An overlay is written as a document of two levels, and the reader takes each of its entries
into the setting that it was written from (`Overlay.ofTable_table`). What an overlay leaves
open stays as the default configuration has it, setting by setting. The main statement is
`Config.read_back`: of a configuration any items may be written, just these are read back,
and a file that has been saved is loaded as the configuration that was saved.
-/

namespace StructuredOutput

namespace Overlay

/-! ## The table of an overlay -/

/-- The entries of the routing. -/
def routingEntries (o : Overlay) : Entries Toml.Leaf :=
  entry "openai" .texts o.openAI ++ entry "anthropic" .texts o.anthropic
    ++ entry "gemini" .texts o.gemini ++ entry "ollama" .texts o.ollama
    ++ entry "fallback" (fun p => .text p.name) o.fallback

/-- The entries of the options of OpenAI requests. -/
def openAIEntries (o : Overlay) : Entries Toml.Leaf :=
  entry "strict" .flag o.strict ++ entry "schema_name" .text o.schemaName

/-- The entries at the top. -/
def topEntries (o : Overlay) : Entries Toml.Leaf :=
  entry "default_provider" (fun p => .text p.name) o.defaultProvider

/-- The tables below the top. -/
def nestedEntries (o : Overlay) : Entries (Entries Toml.Leaf) :=
  [("routing", o.routingEntries), ("openai", o.openAIEntries)]

theorem write_eq (o : Overlay) :
    o.write = Toml.writeDocument o.topEntries o.nestedEntries := rfl

theorem names_entry_sublist {α : Type} (key : String) (leaf : α → Toml.Leaf)
    (value : Option α) : (Entries.names (entry key leaf value)).Sublist [key] := by
  cases value with
  | none => exact List.nil_sublist [key]
  | some a => exact List.Sublist.refl [key]

/-- An overlay is written with distinct names that need no quotes. -/
theorem wellNamed (o : Overlay) : Toml.WellNamed o.topEntries o.nestedEntries where
  outer := by
    have hkeys : Toml.AreKeys ["default_provider", "routing", "openai"] := by
      decide
    exact hkeys.of_sublist
      ((names_entry_sublist ..).append (List.Sublist.refl ["routing", "openai"]))
  inner := by
    have hrouting : Toml.AreKeys
        ["openai", "anthropic", "gemini", "ollama", "fallback"] := by
      decide
    have hopenAI : Toml.AreKeys ["strict", "schema_name"] := by decide
    rw [nestedEntries, List.forall_mem_cons, List.forall_mem_singleton]
    constructor
    · apply hrouting.of_sublist
      simp only [routingEntries, Entries.names_append]
      exact ((((names_entry_sublist ..).append (names_entry_sublist ..)).append
        (names_entry_sublist ..)).append (names_entry_sublist ..)).append
        (names_entry_sublist ..)
    · apply hopenAI.of_sublist
      simp only [openAIEntries, Entries.names_append]
      exact (names_entry_sublist ..).append (names_entry_sublist ..)

/-- The table that the text of an overlay holds. -/
def table (o : Overlay) : Entries Toml.Value :=
  Toml.documentTable o.topEntries o.nestedEntries

theorem read_write (o : Overlay) : Toml.read o.write = some o.table := by
  rw [write_eq]
  exact Toml.read_writeDocument o.wellNamed

/-! ## Reading values -/

theorem provider_value (p : Provider) :
    provider (Toml.Leaf.text p.name).value = .ok p := by
  cases p <;> rfl

theorem texts_value (ss : List String) : texts (Toml.Leaf.texts ss).value = .ok ss := by
  show (ss.map Toml.Value.string).mapM text = .ok ss
  induction ss with
  | nil => rfl
  | cons s ss ih =>
    rw [List.map_cons, List.mapM_cons, ih]
    rfl

/-! ## Reading settings -/

theorem setAll_append (settings : List (String × Setting)) (o : Overlay)
    (es fs : Entries Toml.Value) :
    setAll settings o (es ++ fs) = (setAll settings o es).bind (setAll settings · fs) := by
  induction es generalizing o with
  | nil => rfl
  | cons e es ih =>
    obtain ⟨key, v⟩ := e
    rw [List.cons_append, setAll, setAll]
    cases settings.lookup key with
    | none => exact ih o
    | some set =>
      show (set o v).bind _ = ((set o v).bind _).bind _
      cases set o v with
      | error m => rfl
      | ok next => exact ih next

/-- An entry that has been written is taken into its setting; one that is missing leaves
the overlay as it is. -/
theorem setAll_entry {α : Type} {settings : List (String × Setting)} {key : String}
    {read : Toml.Value → Except Mismatch α} {leaf : α → Toml.Leaf}
    (hread : ∀ a, read (leaf a).value = .ok a) (put : Option α → Overlay → Overlay)
    (hset : settings.lookup key = some fun acc v => do .ok (put (some (← read v)) acc))
    (hnone : ∀ acc, put none acc = acc) (value : Option α) (acc : Overlay) :
    setAll settings acc (Toml.tableOf (entry key leaf value)) = .ok (put value acc) := by
  cases value with
  | none => rw [hnone]; rfl
  | some a =>
    have htable : Toml.tableOf (entry key leaf (some a)) = [(key, (leaf a).value)] := rfl
    rw [htable, setAll, hset]
    show ((read (leaf a).value).bind _).bind _ = _
    rw [hread]
    rfl

/-- A table that has been written, unless it is empty, is taken in like its entries. -/
theorem setAll_table {settings inner : List (String × Setting)} {key name : String}
    (hset : settings.lookup key = some (setNested name inner)) (acc : Overlay)
    (entries : Entries Toml.Leaf) (rest : Entries (Entries Toml.Leaf)) :
    setAll settings acc (Toml.documentTable [] ((key, entries) :: rest))
      = (setAll inner acc (Toml.tableOf entries)).bind
        (setAll settings · (Toml.documentTable [] rest)) := by
  -- A table without entries is not written, and no entries change nothing.
  cases entries with
  | nil => rfl
  | cons e entries =>
    have htable : Toml.documentTable [] ((key, e :: entries) :: rest)
        = (key, .table (Toml.tableOf (e :: entries))) :: Toml.documentTable [] rest := rfl
    rw [htable, setAll, hset]
    rfl

theorem setAll_topEntries (o acc : Overlay) :
    setAll settings acc (Toml.tableOf o.topEntries)
      = .ok { acc with defaultProvider := o.defaultProvider.or acc.defaultProvider } :=
  setAll_entry provider_value
    (fun v acc => { acc with defaultProvider := v.or acc.defaultProvider })
    rfl (fun _ => rfl) o.defaultProvider acc

theorem setAll_routingEntries (o acc : Overlay) :
    setAll routingSettings acc (Toml.tableOf o.routingEntries)
      = .ok { acc with
          openAI := o.openAI.or acc.openAI
          anthropic := o.anthropic.or acc.anthropic
          gemini := o.gemini.or acc.gemini
          ollama := o.ollama.or acc.ollama
          fallback := o.fallback.or acc.fallback } := by
  have hopenAI (acc : Overlay) :
      setAll routingSettings acc (Toml.tableOf (entry "openai" .texts o.openAI))
        = .ok { acc with openAI := o.openAI.or acc.openAI } :=
    setAll_entry texts_value (fun v acc => { acc with openAI := v.or acc.openAI })
      rfl (fun _ => rfl) _ acc
  have hanthropic (acc : Overlay) :
      setAll routingSettings acc (Toml.tableOf (entry "anthropic" .texts o.anthropic))
        = .ok { acc with anthropic := o.anthropic.or acc.anthropic } :=
    setAll_entry texts_value (fun v acc => { acc with anthropic := v.or acc.anthropic })
      rfl (fun _ => rfl) _ acc
  have hgemini (acc : Overlay) :
      setAll routingSettings acc (Toml.tableOf (entry "gemini" .texts o.gemini))
        = .ok { acc with gemini := o.gemini.or acc.gemini } :=
    setAll_entry texts_value (fun v acc => { acc with gemini := v.or acc.gemini })
      rfl (fun _ => rfl) _ acc
  have hollama (acc : Overlay) :
      setAll routingSettings acc (Toml.tableOf (entry "ollama" .texts o.ollama))
        = .ok { acc with ollama := o.ollama.or acc.ollama } :=
    setAll_entry texts_value (fun v acc => { acc with ollama := v.or acc.ollama })
      rfl (fun _ => rfl) _ acc
  have hfallback (acc : Overlay) :
      setAll routingSettings acc
          (Toml.tableOf (entry "fallback" (fun p => .text p.name) o.fallback))
        = .ok { acc with fallback := o.fallback.or acc.fallback } :=
    setAll_entry provider_value (fun v acc => { acc with fallback := v.or acc.fallback })
      rfl (fun _ => rfl) _ acc
  simp only [routingEntries, Toml.tableOf_append, setAll_append, hopenAI, hanthropic,
    hgemini, hollama, hfallback, Except.bind]

theorem setAll_openAIEntries (o acc : Overlay) :
    setAll openAISettings acc (Toml.tableOf o.openAIEntries)
      = .ok { acc with
          strict := o.strict.or acc.strict
          schemaName := o.schemaName.or acc.schemaName } := by
  have hstrict (acc : Overlay) :
      setAll openAISettings acc (Toml.tableOf (entry "strict" .flag o.strict))
        = .ok { acc with strict := o.strict.or acc.strict } :=
    setAll_entry (fun _ => rfl) (fun v acc => { acc with strict := v.or acc.strict })
      rfl (fun _ => rfl) _ acc
  have hname (acc : Overlay) :
      setAll openAISettings acc (Toml.tableOf (entry "schema_name" .text o.schemaName))
        = .ok { acc with schemaName := o.schemaName.or acc.schemaName } :=
    setAll_entry (fun _ => rfl)
      (fun v acc => { acc with schemaName := v.or acc.schemaName })
      rfl (fun _ => rfl) _ acc
  simp only [openAIEntries, Toml.tableOf_append, setAll_append, hstrict, hname,
    Except.bind]

/-- The table of an overlay is read as the overlay. -/
theorem ofTable_table (o : Overlay) : ofTable o.table = .ok o := by
  have hrouting : settings.lookup "routing"
      = some (setNested "struct RoutingConfig" routingSettings) := rfl
  have hopenAI : settings.lookup "openai"
      = some (setNested "struct OpenAIConfig" openAISettings) := rfl
  have htable : o.table = Toml.tableOf o.topEntries
      ++ Toml.documentTable [] o.nestedEntries := rfl
  rw [ofTable, htable, setAll_append, setAll_topEntries, nestedEntries]
  show setAll _ _ _ = _
  rw [setAll_table hrouting, setAll_routingEntries]
  show setAll _ _ _ = _
  rw [setAll_table hopenAI, setAll_openAIEntries]
  show Except.ok _ = _
  simp only [Option.or_none]

end Overlay

/-! ## Some of the settings of a configuration -/

namespace Config

/-- What can be set on its own. -/
inductive Item where
  | defaultProvider
  | openAI
  | anthropic
  | gemini
  | ollama
  | fallback
  | strict
  | schemaName
  deriving DecidableEq

/-- The configuration `c` in the given items, and `d` in all others. -/
def mix (kept : Item → Bool) (c d : Config) : Config where
  defaultProvider := if kept .defaultProvider then c.defaultProvider else d.defaultProvider
  routing := {
    openAI := if kept .openAI then c.routing.openAI else d.routing.openAI
    anthropic := if kept .anthropic then c.routing.anthropic else d.routing.anthropic
    gemini := if kept .gemini then c.routing.gemini else d.routing.gemini
    ollama := if kept .ollama then c.routing.ollama else d.routing.ollama
    fallback := if kept .fallback then c.routing.fallback else d.routing.fallback }
  openAI := {
    strict := if kept .strict then c.openAI.strict else d.openAI.strict
    schemaName := if kept .schemaName then c.openAI.schemaName else d.openAI.schemaName }

end Config

namespace Overlay

/-- The overlay that leaves all but the given items open. -/
def keep (kept : Config.Item → Bool) (o : Overlay) : Overlay where
  defaultProvider := if kept .defaultProvider then o.defaultProvider else none
  openAI := if kept .openAI then o.openAI else none
  anthropic := if kept .anthropic then o.anthropic else none
  gemini := if kept .gemini then o.gemini else none
  ollama := if kept .ollama then o.ollama else none
  fallback := if kept .fallback then o.fallback else none
  strict := if kept .strict then o.strict else none
  schemaName := if kept .schemaName then o.schemaName else none

theorem getD_keep {α : Type} (kept : Bool) (a d : α) :
    (if kept then some a else none).getD d = if kept then a else d := by
  cases kept <;> rfl

/-- What is left open stays as it is, each item on its own. -/
theorem onto_keep (kept : Config.Item → Bool) (c : Config) {d : Config}
    (hname : d.openAI.schemaName = none) :
    ((ofConfig c).keep kept).onto d = Config.mix kept c d := by
  simp only [onto, keep, ofConfig, Config.mix, getD_keep, hname, Option.or_none]

theorem onto_ofConfig (c : Config) {d : Config} (hname : d.openAI.schemaName = none) :
    (ofConfig c).onto d = c := by
  simp only [onto, ofConfig, Option.getD_some, hname, Option.or_none]

end Overlay

namespace Config

/-- What is written of an overlay is laid over the default configuration. -/
theorem parse_write (o : Overlay) : parse o.write = .ok (o.onto default) := by
  rw [parse, ofText, o.read_write]
  simp only [o.ofTable_table]
  rfl

theorem parse_toText (c : Config) : parse c.toText = .ok c := by
  rw [toText, parse_write, Overlay.onto_ofConfig c rfl]

/-- Of a configuration any items may be written: they are read back as they are, and every
other item as in the default configuration. A configuration that has been saved in full is
loaded as it is. -/
theorem read_back (c : Config) :
    (∀ kept, parse ((Overlay.ofConfig c).keep kept).write = .ok (mix kept c default)) ∧
    parse c.toText = .ok c ∧
    ∀ fs path fs', (c.save path).run.run fs = (.ok (), fs') → load fs' path = .ok c := by
  refine ⟨?_, c.parse_toText, ?_⟩
  · intro kept
    rw [parse_write, Overlay.onto_keep kept c rfl]
  · intro fs path fs' hsave
    rw [load, FileSystem.read_of_write hsave]
    exact c.parse_toText

/-- A configuration with quotes, backslashes and line breaks in its texts. -/
def awkward : Config where
  defaultProvider := .gemini
  routing := { Routing.default with
    openAI := ["\"\"\"", "C:\\models", "'''"]
    ollama := ["café\n", "\x07"] }
  openAI := ⟨false, some "it's \"quoted\"\\"⟩

theorem read_back_awkward :
    parse ((Overlay.ofConfig awkward).keep fun i =>
        i = .defaultProvider || i = .ollama).write
        = .ok { default with
            defaultProvider := .gemini
            routing := { Routing.default with ollama := ["café\n", "\x07"] } } ∧
      ∃ fs', (awkward.save ⟨false, ["conf", "config.toml"]⟩).run.run ⟨.directory [], []⟩
          = (.ok (), fs') ∧
        load fs' ⟨false, ["conf", "config.toml"]⟩ = .ok awkward := by
  obtain ⟨hpart, _, hload⟩ := awkward.read_back
  have hsave : (awkward.save ⟨false, ["conf", "config.toml"]⟩).run.run ⟨.directory [], []⟩
      = (.ok (), ⟨.directory [("conf",
          .directory [("config.toml", .file awkward.toText.toUTF8)])], []⟩) := rfl
  exact ⟨hpart _, _, hsave, hload _ _ _ hsave⟩

end Config

end StructuredOutput

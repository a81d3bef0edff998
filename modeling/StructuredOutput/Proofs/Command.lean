import StructuredOutput.Command
import StructuredOutput.Proofs.Json.Address
import StructuredOutput.Proofs.Schema.Stored

/-!
# Commands that read a schema

`request`, `compile` and `decompile` get their schema in the same way and then each do one
thing with it, which cannot fail. The main statement, `Command.answers_agree`, follows from
that: they fail on the same sources and with the same errors, and where they answer, the
document of one can be found in the answers of the others.
-/

namespace StructuredOutput

open Json (Value)

/-! ## Requests -/

/-- Where a request in the provider's dialect holds the document of its schema. -/
def Provider.documentAddress : Provider → Json.Address
  | openAI => [.member "response_format", .member "json_schema", .member "schema"]
  | anthropic => [.member "tools", .item 0, .member "input_schema"]
  | gemini => [.member "generationConfig", .member "responseSchema"]
  | ollama => [.member "format"]

/-- A request holds the document of its schema, whatever the options of the dialect are. -/
theorem Dialect.at?_request (d : Dialect) (s : Schema) :
    (d.request s).at? d.provider.documentAddress = some (d.compile s) := by
  cases d with
  | openAI strict formatName =>
    -- The description stands before the document, if there is one.
    by_cases hd : s.description.isEmpty
    · simp only [request, hd, if_true]
      rfl
    · simp only [request, hd]
      rfl
  | anthropic => rfl
  | gemini => rfl
  | ollama => rfl

namespace Config

/-- The options of a configuration do not change for whom a dialect is. -/
theorem provider_dialect (c : Config) (p : Provider) : (c.dialect p).provider = p := by
  cases p <;> rfl

theorem compile_dialect (c : Config) (p : Provider) (s : Schema) :
    (c.dialect p).compile s = p.compile s := by
  rw [Dialect.compile, c.provider_dialect]

end Config

/-! ## Answers -/

namespace Command

/-- The commands for one source that begin with its schema: a request for a model, the
document for the provider of the model, and the schema itself. -/
def schemaCommands (c : Config) (model : String) (source : Source) : List Command :=
  [request model source, compile (some (c.route model)) source, decompile source]

section

variable (c : Config) {read : Source → Except FileError String} {source : Source}

/-- Without a schema none of them has an answer. -/
theorem answer_of_error {e : Error} (h : schemaIn (read source) = .error e)
    (model : String) :
    ∀ command ∈ schemaCommands c model source, answer c read command = .error e := by
  intro command hcommand
  simp only [schemaCommands, List.mem_cons, List.not_mem_nil, or_false] at hcommand
  rcases hcommand with rfl | rfl | rfl <;>
    · rw [answer, h]
      rfl

/-- With a schema, each of them does one thing. -/
theorem answer_of_ok {s : Schema} (h : schemaIn (read source) = .ok s) (model : String) :
    answer c read (request model source)
        = .ok (.value ((c.dialect (c.route model)).request s))
      ∧ (∀ p, answer c read (compile (some p) source)
        = .ok (.value ((c.dialect p).compile s)))
      ∧ answer c read (decompile source) = .ok (.value s.encode) := by
  refine ⟨?_, fun p => ?_, ?_⟩ <;>
    · rw [answer, h]
      rfl

end

/-! A text that is no JSON is all that can be wrong with a source that has been read. -/

theorem schemaIn_of_parse {text : String} {d : Value} (h : Value.parse text = .ok d) :
    schemaIn (.ok text) = .ok (.ofDocument d) := by
  show (Schema.ofDocument <$> Value.parse text).mapError Error.syntaxError = _
  rw [h]
  rfl

theorem schemaIn_of_syntaxError {text : String} {e : Json.SyntaxError}
    (h : Value.parse text = .error e) : schemaIn (.ok text) = .error (.syntaxError e) := by
  show (Schema.ofDocument <$> Value.parse text).mapError Error.syntaxError = _
  rw [h]
  rfl

/-- A request, the document and the stored form of one source: they fail together, because
of the source or because of the syntax of its text, or they all succeed. Then the request
holds the document, and the document is that of the schema that the stored form is read
as. -/
theorem answers_agree (c : Config) (read : Source → Except FileError String)
    (model : String) (source : Source) :
    match read source with
    | .error e => ∀ command ∈ schemaCommands c model source,
        answer c read command = .error (.file e)
    | .ok text =>
      match Value.parse text with
      | .error e => ∀ command ∈ schemaCommands c model source,
          answer c read command = .error (.syntaxError e)
      | .ok _ => ∃ (requested document stored : Value) (s : Schema),
          answer c read (request model source) = .ok (.value requested)
            ∧ answer c read (compile (some (c.route model)) source) = .ok (.value document)
            ∧ answer c read (decompile source) = .ok (.value stored)
            ∧ requested.at? (c.route model).documentAddress = some document
            ∧ Schema.decode stored = .ok s ∧ (c.route model).compile s = document := by
  split
  · rename_i e hread
    apply answer_of_error
    rw [hread, schemaIn]
  · rename_i text hread
    split
    · rename_i e hparse
      apply answer_of_error
      rw [hread, schemaIn_of_syntaxError hparse]
    · rename_i d hparse
      have hschema : schemaIn (read source) = .ok (.ofDocument d) := by
        rw [hread, schemaIn_of_parse hparse]
      obtain ⟨hrequest, hcompile, hdecompile⟩ := answer_of_ok c hschema model
      have hat := (c.dialect (c.route model)).at?_request (.ofDocument d)
      rw [c.provider_dialect] at hat
      have hstored : Schema.decode (Schema.ofDocument d).encode = .ok (.ofDocument d) :=
        Schema.decode_encode_eq_self_iff.mpr (Schema.storable_ofDocument d)
      exact ⟨_, _, _, _, hrequest, hcompile _, hdecompile, hat, hstored,
        (c.compile_dialect (c.route model) _).symm⟩

end Command

end StructuredOutput

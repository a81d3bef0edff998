import StructuredOutput.Proofs.Schema.Recompile

/-!
# Translating compiled documents

A document that was compiled for one provider can be read again and compiled for another.
It stands in for its source if that gives what the source itself gives. What decides is
what the first dialect keeps: `Rules.Overlooks` says that the second one writes no more
than that. The main statements are that documents of the plain dialect stand in for their
source everywhere, that those of Anthropic do so for OpenAI, and that there are no other
such pairs of different dialects (`standsIn_iff`).
-/

namespace StructuredOutput

open Json (Value)

/-- Strict mode closes every nested object as well, so the flags that Anthropic drops are
not missed. -/
theorem OpenAI.overlooks_anthropic :
    OpenAI.rules.Overlooks Provider.anthropic.retention where
  kind _ := rfl
  keywords a := a.keywords_settled
  demands _ := rfl
  defaultKeyword _ h := OpenAI.rules.defaultKeyword_settled h
  fragment _ := rfl
  fragment_object level := ⟨level, rfl, rfl⟩
  nestedClosing _ _ := rfl

namespace Provider

/-- A document compiled for the provider `p` gives the provider `q` what its source
gives. -/
def StandsIn (p q : Provider) : Prop :=
  ∀ document, q.recompile (p.recompile document) = q.recompile document

/-- It is enough that the dialect of `q` writes what that of `p` keeps of a schema as it
writes the schema itself. -/
theorem standsIn_of_compile_normalForm {p q : Provider}
    (h : ∀ {s : Schema}, s.Settled → q.compile (p.normalForm s) = q.compile s) :
    p.StandsIn q := by
  intro document
  have hread := p.ofDocument_compile_of_coherent (Document.coherent_ofDocument document)
  have hsettled := Document.settled_ofDocument document
  calc q.recompile (p.recompile document)
      = q.compile (p.normalForm (Schema.ofDocument document)) := congrArg q.compile hread
    _ = q.recompile document := h hsettled

theorem standsIn_of_overlooks (p q : Provider) (ho : q.rules.Overlooks p.retention) :
    p.StandsIn q :=
  standsIn_of_compile_normalForm ho.compile_schema

theorem standsIn_self (p : Provider) : p.StandsIn p :=
  standsIn_of_compile_normalForm p.compile_normalForm

/-- Going through a document of the plain dialect changes nothing in any dialect, and going
through one for Anthropic changes nothing for OpenAI. -/
theorem recompile_through (document : Value) :
    (∀ q, recompile q (ollama.recompile document) = q.recompile document)
      ∧ openAI.recompile (anthropic.recompile document) = openAI.recompile document :=
  ⟨fun q => standsIn_of_overlooks ollama q q.overlooks_ollama document,
    standsIn_of_overlooks anthropic openAI OpenAI.overlooks_anthropic document⟩

/-- A document with an optional object that allows other names, and a map to objects that
are closed. -/
def telling : Value := .object [
  ("type", .string "object"),
  ("properties", .object [
    ("open", .object [
      ("type", .string "object"),
      ("properties", .object []),
      ("additionalProperties", .boolean true)]),
    ("byName", .object [
      ("type", .string "object"),
      ("additionalProperties", .object [
        ("type", .string "object"),
        ("properties", .object []),
        ("required", .array []),
        ("additionalProperties", .boolean false)])])])]

/-- Which documents stand in for their source, and where. -/
theorem standsIn_iff {p q : Provider} :
    p.StandsIn q ↔ p = q ∨ p = ollama ∨ (p = anthropic ∧ q = openAI) := by
  constructor
  · intro h
    -- Of the other pairs, OpenAI loses what is optional, Anthropic the open object, and
    -- Gemini leaves an order in the map, so that each of them writes `telling`
    -- differently.
    have htelling := h telling
    cases p <;> cases q <;> simp <;> cases htelling
  · rintro (rfl | rfl | ⟨rfl, rfl⟩)
    · exact standsIn_self p
    · exact standsIn_of_overlooks ollama q q.overlooks_ollama
    · exact standsIn_of_overlooks anthropic openAI OpenAI.overlooks_anthropic

end Provider

end StructuredOutput

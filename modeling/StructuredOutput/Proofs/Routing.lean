import StructuredOutput.Config.Basic

/-!
# Who serves a model

The provider of a model, said without a router: a provider claims the models whose names
begin with one of its beginnings, and of those that claim a model the first in the order of
precedence serves it. The main statement, `Routing.route_router`, is that the router of a
routing finds just this provider. Two consequences go with it: the beginnings of a provider
matter as a set only, and a new one can take no model away from anybody but for its own
provider.
-/

namespace StructuredOutput

namespace Router

theorem begins_iff {model beginning : String} :
    begins model beginning ↔ ∃ rest, model = beginning ++ rest := by
  rw [begins, List.isPrefixOf_iff_prefix]
  constructor
  · rintro ⟨rest, h⟩
    refine ⟨String.ofList rest, ?_⟩
    rw [← String.toList_inj, String.toList_append, String.toList_ofList, h]
  · rintro ⟨rest, rfl⟩
    exact ⟨rest.toList, String.toList_append.symm⟩

theorem route_eq (r : Router) (model : String) :
    r.route model
      = ((r.routes.find? fun route => begins model route.1).map Prod.snd).getD
        r.fallback := by
  unfold route
  cases r.routes.find? fun route => begins model route.1 <;> rfl

end Router

namespace Routing

/-! ## Claims -/

/-- A provider claims the models whose names begin with one of its beginnings. -/
def Claims (r : Routing) (p : Provider) (model : String) : Prop :=
  ∃ beginning ∈ r.beginnings p, ∃ rest, model = beginning ++ rest

theorem claims_iff {r : Routing} {p : Provider} {model : String} :
    r.Claims p model ↔ ∃ beginning ∈ r.beginnings p, Router.begins model beginning := by
  simp only [Claims, Router.begins_iff]

instance (r : Routing) (p : Provider) (model : String) : Decidable (r.Claims p model) :=
  decidable_of_iff (∃ beginning ∈ r.beginnings p, Router.begins model beginning)
    claims_iff.symm

/-- The routes of one provider hit just the models that it claims. -/
theorem find?_routes_of_provider (r : Routing) (p : Provider) (model : String) :
    (((r.beginnings p).map (·, p)).find? fun route =>
        Router.begins model route.1).map Prod.snd
      = if r.Claims p model then some p else none := by
  simp only [claims_iff]
  induction r.beginnings p with
  | nil => rfl
  | cons beginning rest ih =>
    rw [List.map_cons, List.find?_cons]
    by_cases h : Router.begins model beginning
    · simp [h]
    · simpa [h] using ih

/-- The routes of several providers hit the first that claims the model. -/
theorem find?_routes (r : Routing) (providers : List Provider) (model : String) :
    ((providers.flatMap fun p => (r.beginnings p).map (·, p)).find? fun route =>
        Router.begins model route.1).map Prod.snd
      = providers.find? fun p => r.Claims p model := by
  induction providers with
  | nil => rfl
  | cons p rest ih =>
    rw [List.flatMap_cons, List.find?_append, Option.map_or, ih, find?_routes_of_provider,
      List.find?_cons]
    by_cases h : r.Claims p model
    · simp [h]
    · simp [h]

theorem route_eq_find? (r : Routing) (model : String) :
    r.router.route model
      = (precedence.find? fun p => r.Claims p model).getD r.fallback := by
  rw [Router.route_eq, router, find?_routes]

/-! ## Two routings -/

/-- Two routings in which each provider has the same beginnings, in whatever order and
however often. -/
structure SameBeginnings (r s : Routing) : Prop where
  mem_iff : ∀ p beginning, beginning ∈ s.beginnings p ↔ beginning ∈ r.beginnings p
  fallback : s.fallback = r.fallback

/-- The second routing has one more beginning for a provider, anywhere among the others. -/
structure Adds (p : Provider) (beginning : String) (r s : Routing) : Prop where
  mem_iff : ∀ q other,
    other ∈ s.beginnings q ↔ other ∈ r.beginnings q ∨ q = p ∧ other = beginning
  fallback : s.fallback = r.fallback

theorem route_congr {r s : Routing} {model : String}
    (hclaims : ∀ p, s.Claims p model ↔ r.Claims p model)
    (hfallback : s.fallback = r.fallback) :
    s.router.route model = r.router.route model := by
  rw [route_eq_find?, route_eq_find?, hfallback]
  simp only [hclaims]

theorem SameBeginnings.route_eq {r s : Routing} (h : SameBeginnings r s) (model : String) :
    s.router.route model = r.router.route model := by
  apply route_congr _ h.fallback
  intro p
  simp only [Claims, h.mem_iff]

theorem Adds.claims_iff {p : Provider} {beginning : String} {r s : Routing}
    (h : Adds p beginning r s) (q : Provider) (model : String) :
    s.Claims q model
      ↔ r.Claims q model ∨ q = p ∧ ∃ rest, model = beginning ++ rest := by
  constructor
  · rintro ⟨other, hother, hbegins⟩
    rcases (h.mem_iff q other).mp hother with hold | ⟨hq, rfl⟩
    · exact .inl ⟨other, hold, hbegins⟩
    · exact .inr ⟨hq, hbegins⟩
  · rintro (⟨other, hother, hbegins⟩ | ⟨hq, hbegins⟩)
    · exact ⟨other, (h.mem_iff q other).mpr (.inl hother), hbegins⟩
    · exact ⟨beginning, (h.mem_iff q beginning).mpr (.inr ⟨hq, rfl⟩), hbegins⟩

/-- Where a search accepts one more provider, it finds that one or what it found before. -/
theorem find?_or {f g : Provider → Bool} {p : Provider}
    (h : ∀ q, g q = (f q || decide (q = p))) (providers : List Provider) :
    providers.find? g = providers.find? f ∨ providers.find? g = some p := by
  induction providers with
  | nil => exact .inl rfl
  | cons q rest ih =>
    rw [List.find?_cons, List.find?_cons, h q]
    by_cases hq : q = p
    · subst hq
      simp
    · cases hf : f q with
      | true => exact .inl rfl
      | false => simpa [hq] using ih

theorem Adds.route_eq_or {p : Provider} {beginning : String} {r s : Routing}
    (h : Adds p beginning r s) {model : String}
    (hbegins : ∃ rest, model = beginning ++ rest) :
    s.router.route model = r.router.route model ∨ s.router.route model = p := by
  have hmore : ∀ q, decide (s.Claims q model)
      = (decide (r.Claims q model) || decide (q = p)) := by
    intro q
    simp [h.claims_iff, hbegins]
  rw [route_eq_find?, route_eq_find?, h.fallback]
  rcases find?_or hmore precedence with hsame | hnew
  · exact .inl (by rw [hsame])
  · exact .inr (by rw [hnew]; rfl)

/-- The router of a routing finds the first provider that claims the model, local ones
first, and the fallback if none does. So it is the same router for any order and repetition
of beginnings, and a new beginning changes no route but those of the models it begins, and
these only in favour of its provider. -/
theorem route_router (r : Routing) (model : String) :
    r.router.route model
        = (([.ollama, .openAI, .anthropic, .gemini] : List Provider).find? fun p =>
          r.Claims p model).getD r.fallback
      ∧ (∀ s, SameBeginnings r s → s.router.route model = r.router.route model)
      ∧ ∀ p beginning s, Adds p beginning r s →
        ((¬ ∃ rest, model = beginning ++ rest) →
          s.router.route model = r.router.route model)
          ∧ (s.router.route model = r.router.route model ∨ s.router.route model = p) := by
  refine ⟨route_eq_find? r model, fun s h => h.route_eq model, fun p beginning s h => ?_⟩
  have haway : (¬ ∃ rest, model = beginning ++ rest) →
      s.router.route model = r.router.route model := by
    intro hnot
    apply route_congr _ h.fallback
    intro q
    rw [h.claims_iff]
    simp [hnot]
  refine ⟨haway, ?_⟩
  by_cases hbegins : ∃ rest, model = beginning ++ rest
  · exact h.route_eq_or hbegins
  · exact .inl (haway hbegins)

/-- The default routing, with the beginnings of one provider in another order and one of
them twice. -/
def reordered : Routing :=
  { default with openAI := ["o4", "gpt-", "o1", "gpt-", "o3", "chatgpt-"] }

/-- The default routing, with a beginning for models that are served locally but named like
hosted ones. -/
def withOpenModels : Routing := { default with ollama := ["gpt-oss"] }

theorem sameBeginnings_reordered : SameBeginnings default reordered where
  mem_iff p beginning := by
    have hhosted : hosted .openAI = ["gpt-", "chatgpt-", "o1", "o3", "o4"] := rfl
    cases p with
    | openAI =>
      simp only [reordered, default, beginnings, hhosted, List.mem_cons, List.not_mem_nil]
      grind
    | _ => exact Iff.rfl
  fallback := rfl

theorem adds_withOpenModels : Adds .ollama "gpt-oss" default withOpenModels where
  mem_iff q other := by
    have hhosted : hosted .ollama = [] := rfl
    cases q with
    | ollama => simp [withOpenModels, default, beginnings, hhosted]
    | _ => simp [withOpenModels, beginnings]
  fallback := rfl

/-- Hosted models go where they went, and a local one may leave its place for the local
provider. -/
theorem route_router_withOpenModels :
    reordered.router.route "gpt-4o" = default.router.route "gpt-4o"
      ∧ withOpenModels.router.route "gpt-4o" = default.router.route "gpt-4o"
      ∧ (withOpenModels.router.route "gpt-oss:20b" = default.router.route "gpt-oss:20b"
        ∨ withOpenModels.router.route "gpt-oss:20b" = .ollama) := by
  obtain ⟨-, hsame, hadds⟩ := route_router default "gpt-4o"
  have hnot : ¬ ∃ rest, "gpt-4o" = "gpt-oss" ++ rest := by
    rw [← Router.begins_iff]
    decide
  have hlocal := (route_router default "gpt-oss:20b").2.2 _ _ _ adds_withOpenModels
  exact ⟨hsame _ sameBeginnings_reordered, (hadds _ _ _ adds_withOpenModels).1 hnot,
    hlocal.2⟩

/-- The model leaves its hosted place indeed. -/
example : default.router.route "gpt-oss:20b" = .openAI
    ∧ ({ default with ollama := ["gpt-oss"] } : Routing).router.route
      "gpt-oss:20b" = .ollama := by
  decide

end Routing

end StructuredOutput

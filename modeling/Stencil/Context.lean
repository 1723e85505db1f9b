import Stencil.Fault

/-!
# Contexts

A context is the title of a template and the providers that bind values to names. The first provider
that knows a name decides, also if it binds it to nothing, and the default handlers come last.
-/

namespace Stencil

/-- Names with their values. -/
abbrev Provider := List (String × Value)

/-- Whether a provider knows a name. -/
def Provider.binds (p : Provider) (name : String) : Bool :=
  (p.lookup name).isSome

/-- The model behind every list of providers, which binds nothing. -/
def defaultModel : Provider := []

/-- The handlers behind every list of providers. -/
def defaultHandlers : Provider :=
  Handler.all.map fun h => (h.name, .handler h)

/-- A list of providers with the defaults behind it. -/
def withDefaults (providers : List Provider) : List Provider :=
  providers ++ [defaultModel, defaultHandlers]

/-- What a part is rendered with. -/
@[ext] structure Context where
  template : Title
  providers : List Provider

namespace Context

/-- The context over the given providers and the defaults. -/
def build (template : Title) (providers : List Provider) : Context :=
  ⟨template, withDefaults providers⟩

/-- The value that the first provider with this name binds to it. -/
def find? (ctx : Context) (name : String) : Option Value :=
  ctx.providers.findSome? (·.lookup name)

/-- The value of a name, or the fault that it has none. -/
def lookup (ctx : Context) (name : String) : Except Fault Value :=
  match ctx.find? name with
  | some v => .ok v
  | none => .error (.unbound name ctx.template)

/-- Whether any provider knows a name. -/
def binds (ctx : Context) (name : String) : Bool :=
  ctx.providers.any (·.binds name)

/-- A name has a value exactly if some provider knows it. -/
theorem find?_isSome (ctx : Context) (name : String) :
    (ctx.find? name).isSome = ctx.binds name :=
  List.isSome_findSome?

theorem lookup_eq_ok_iff {ctx : Context} {name : String} {v : Value} :
    ctx.lookup name = .ok v ↔ ctx.find? name = some v := by
  unfold lookup
  cases ctx.find? name <;> simp

theorem lookup_eq_error_iff {ctx : Context} {name : String} {fault : Fault} :
    ctx.lookup name = .error fault ↔
      ctx.binds name = false ∧ fault = .unbound name ctx.template := by
  rw [← find?_isSome]
  unfold lookup
  cases ctx.find? name <;> simp [eq_comm]

end Context

/-- What a caller fills a template with. The model comes first, then the handlers, then the other
providers. -/
structure Filling where
  model : Option Provider
  handlers : Option Provider
  providers : List Provider

namespace Filling

/-- The providers in their order of precedence. -/
def layers (f : Filling) : List Provider :=
  f.model.toList ++ f.handlers.toList ++ f.providers

/-- The context of a template over its filling. -/
def context (f : Filling) (template : Title) : Context :=
  .build template f.layers

end Filling

end Stencil

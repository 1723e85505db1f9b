import Stencil.Compiled
import Stencil.Proofs.Resolution

/-!
# Layers of providers

The providers of a context lie in layers, those of the caller in front and the default handlers
behind them. A name is looked up in one layer after the other until a layer has it as a key, so
layers behind that one play no part for this name, and neither do layers without it. Main statement:
every context over some providers finds in these layers what the first layer with a name binds to
it, refuses the names that it does not contain, and does so whatever other layers play no part.

## Implementation notes

A layer has a name if the name is one of its keys. Whether it binds the name to nothing is not
asked, neither by the look-up nor by the question whether the context contains the name.
-/

namespace Stencil

namespace Provider

variable {p : Provider} {name : String}

/-- The names that a provider knows. -/
def keys (p : Provider) : List String := p.map (·.1)

theorem binds_iff_mem_keys : p.binds name = true ↔ name ∈ p.keys := by
  rw [binds, List.lookup_isSome_iff, keys, List.mem_map]
  simp only [beq_iff_eq, eq_comm (a := name)]

theorem lookup_eq_none_iff_notMem_keys : p.lookup name = none ↔ name ∉ p.keys := by
  rw [← binds_iff_mem_keys, binds, Option.not_isSome_iff_eq_none]

/-- The default handlers are found under their names. -/
theorem lookup_defaultHandlers (name : String) :
    defaultHandlers.lookup name = (Handler.named? name).map .handler := by
  simp only [defaultHandlers, Handler.named?]
  induction Handler.all with
  | nil => rfl
  | cons h hs ih =>
      rw [List.map_cons, List.lookup_cons, List.find?_cons, ih]
      by_cases here : name = h.name
      · subst here
        simp
      · have missed : (name == h.name) = false := by simp [here]
        have other : (h.name == name) = false := by simp [Ne.symm here]
        rw [missed, other]

end Provider

/-- More layers behind the ones that decide change nothing. -/
theorem FirstBinds.append {providers : List Provider} {name : String} {v : Value}
    (h : FirstBinds providers name v) (more : List Provider) :
    FirstBinds (providers ++ more) name v := by
  obtain ⟨before, p, after, rfl, found, missed⟩ := h
  exact ⟨before, p, after ++ more, by simp, found, missed⟩

namespace Context

variable {template : Title} {providers before after : List Provider} {q : Provider} {name : String}

/-- The caller's layers decide, and the default handlers do where these know nothing. -/
theorem find?_build (template : Title) (providers : List Provider) (name : String) :
    (build template providers).find? name =
      (providers.findSome? (·.lookup name)).or ((Handler.named? name).map .handler) := by
  rw [find?, build, withDefaults, List.findSome?_append, List.findSome?_cons]
  rw [defaultModel, List.lookup_nil, List.findSome?_singleton, Provider.lookup_defaultHandlers]

theorem binds_iff_mem_keys {ctx : Context} :
    ctx.binds name = true ↔ ∃ p ∈ ctx.providers, name ∈ p.keys := by
  simp only [binds, List.any_eq_true, Provider.binds_iff_mem_keys]

/-- A layer plays no part for a name that it does not have or that a layer in front of it has. -/
theorem find?_build_insert (idle : name ∉ q.keys ∨ ∃ p ∈ before, name ∈ p.keys) :
    (build template (before ++ q :: after)).find? name =
      (build template (before ++ after)).find? name := by
  rw [find?_build, find?_build, List.findSome?_append, List.findSome?_append,
    List.findSome?_cons]
  rcases idle with unknown | ⟨p, member, known⟩
  · rw [Provider.lookup_eq_none_iff_notMem_keys.mpr unknown]
  · have decided : (before.findSome? (·.lookup name)).isSome = true :=
      List.findSome?_isSome_iff.mpr ⟨p, member, Provider.binds_iff_mem_keys.mpr known⟩
    obtain ⟨v, found⟩ := Option.isSome_iff_exists.mp decided
    simp only [found, Option.some_or]

/-- How a context finds names in layers of providers. -/
structure Layered (ctx : Context) (template : Title) (providers : List Provider) : Prop where
  /-- A name has the value that the first layer with this name binds to it. -/
  value (name : String) (v : Value) :
    ctx.lookup name = .ok v ↔ FirstBinds (providers ++ [defaultModel, defaultHandlers]) name v
  /-- Only a name that is not contained is refused, and it is refused as unbound. -/
  refused (name : String) (fault : Fault) :
    ctx.lookup name = .error fault ↔ ctx.binds name = false ∧ fault = .unbound name template
  /-- A name is contained if some layer has it. -/
  contained (name : String) :
    ctx.binds name = true ↔ ∃ p ∈ providers ++ [defaultModel, defaultHandlers], name ∈ p.keys
  /-- A layer of the caller hides the default handlers. -/
  hidden {name : String} {v : Value} : FirstBinds providers name v → ctx.lookup name = .ok v
  /-- A default handler that no layer of the caller hides is found. -/
  reachable (h : Handler) :
    (∀ p ∈ providers, h.name ∉ p.keys) → ctx.lookup h.name = .ok (.handler h)

theorem layered_build (template : Title) (providers : List Provider) :
    (build template providers).Layered template providers where
  value _ _ := lookup_eq_ok_iff.trans find?_eq_some_iff
  refused _ _ := lookup_eq_error_iff
  contained _ := binds_iff_mem_keys
  hidden binds := lookup_eq_ok_iff.mpr (find?_eq_some_iff.mpr (binds.append _))
  reachable h free := by
    have none : providers.findSome? (·.lookup h.name) = none := by
      rw [List.findSome?_eq_none_iff]
      intro p member
      exact Provider.lookup_eq_none_iff_notMem_keys.mpr (free p member)
    rw [lookup_eq_ok_iff, find?_build, none, Handler.named?_name]
    rfl

/-- A context that is built over some providers looks names up in them, and then in the default
handlers. A template that is rendered over a model, handlers and other providers looks them up in
those that are given, in this order. Another provider, anywhere between the others, changes no
answer about a name that it does not have or that a provider in front of it has. -/
theorem build_layers :
    (∀ template providers, (build template providers).Layered template providers) ∧
    (∀ (c : Compiled) (model handlers : Option Provider) (providers : List Provider),
      c.render ⟨model, handlers, providers⟩ =
        renderParts c.parts
          (build (some c.name) (model.toList ++ handlers.toList ++ providers))) ∧
    ∀ (template : Title) (before after : List Provider) (q : Provider) (name : String),
      name ∉ q.keys ∨ (∃ p ∈ before, name ∈ p.keys) →
      let narrow := build template (before ++ after)
      let wide := build template (before ++ q :: after)
      wide.lookup name = narrow.lookup name ∧ wide.binds name = narrow.binds name := by
  refine ⟨layered_build, ?_, ?_⟩
  · intro c model handlers providers
    rfl
  · intro template before after q name idle narrow wide
    have found : wide.find? name = narrow.find? name := find?_build_insert idle
    constructor
    · rw [lookup, lookup, found]
      rfl
    · rw [← find?_isSome, found, find?_isSome]

/-- A caller who binds a default handler's name to nothing hides this handler and no other. A layer
in the middle, which has one name that is taken already, changes nothing about this name and about
the one that it does not have. -/
theorem build_layers_hidden_handler :
    let front : List Provider := [[("a", .int 1)], [("upper", .none), ("a", .int 2)]]
    let back : List Provider := [[("upper", .text "x")]]
    let q : Provider := [("a", .int 3), ("lower", .text "y")]
    let narrow := build (some "t") (front ++ back)
    let wide := build (some "t") (front ++ q :: back)
    (FirstBinds (front ++ back) "upper" .none ∧ narrow.lookup "upper" = .ok .none) ∧
    ((∀ p ∈ front ++ back, Handler.lower.name ∉ p.keys) ∧
      narrow.lookup "lower" = .ok (.handler .lower)) ∧
    (narrow.binds "b" = false ∧ narrow.lookup "b" = .error (.unbound "b" (some "t"))) ∧
    ("upper" ∉ q.keys ∧ wide.lookup "upper" = narrow.lookup "upper") ∧
    ((∃ p ∈ front, "a" ∈ p.keys) ∧ wide.lookup "a" = narrow.lookup "a") := by
  intro front back q narrow wide
  obtain ⟨layered, _, insert⟩ := build_layers
  have looks := layered (some "t") (front ++ back)
  have upper : FirstBinds (front ++ back) "upper" .none := by
    refine ⟨[[("a", .int 1)]], _, back, rfl, rfl, ?_⟩
    intro p member
    rw [List.mem_singleton.mp member]
    rfl
  have lower : ∀ p ∈ front ++ back, Handler.lower.name ∉ p.keys := by
    simp [front, back, Provider.keys, Handler.name]
  have unknown : narrow.binds "b" = false := by rfl
  have missing : "upper" ∉ q.keys := by decide
  have taken : ∃ p ∈ front, "a" ∈ p.keys := ⟨_, List.mem_cons_self, by decide⟩
  refine ⟨⟨upper, looks.hidden upper⟩, ⟨lower, looks.reachable .lower lower⟩, ⟨unknown, ?_⟩,
    ⟨missing, ?_⟩, taken, ?_⟩
  · exact (looks.refused "b" _).mpr ⟨unknown, rfl⟩
  · exact (insert (some "t") front back q "upper" (.inl missing)).1
  · exact (insert (some "t") front back q "a" (.inr taken)).1

end Context

end Stencil

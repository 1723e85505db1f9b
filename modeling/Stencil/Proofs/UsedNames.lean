import Stencil.Proofs.Precedence
import Stencil.Proofs.PathGrammar

/-!
# Names that a template uses

A template whose slots hold paths looks up the head of each path and nothing else. Everything behind
the head is selected in the value that is found, and the rest of a context only serves messages.
Main statement: in contexts that agree on the title and on the heads a template has the same output,
with the same events, or fails with the same fault; so entries under other names play no part,
wherever they stand.

## Implementation notes

A head ends before the first dot. So a name that holds a dot is never used, even if it is the path
of a slot.
-/

namespace Stencil

/-- The content of a slot in front of its first dot. -/
def Segment.head (s : Segment) : String := .ofList (s.content.toList.takeWhile (· != '.'))

/-- The names that the slots of a template look up. -/
def Parsed.usedNames (p : Parsed) : List String := p.slots.map (·.head)

/-- The entries of a provider under some names. -/
def Provider.only (names : List String) (q : Provider) : Provider := q.filter (·.1 ∈ names)

/-- The entries of some providers under some names, without the providers that have none. -/
def bindingsOf (names : List String) (providers : List Provider) : List Provider :=
  (providers.map (Provider.only names)).filter fun q => !q.isEmpty

section Bindings

variable {names : List String} {name : String}

theorem Provider.lookup_only (used : name ∈ names) (q : Provider) :
    (q.only names).lookup name = q.lookup name := by
  induction q with
  | nil => rfl
  | cons entry q ih =>
      obtain ⟨key, v⟩ := entry
      by_cases here : name = key
      · subst here
        simp [only, used]
      · have other : (name == key) = false := by simp [here]
        rw [only, List.filter_cons, List.lookup_cons, other]
        split
        · rw [List.lookup_cons, other]
          exact ih
        · exact ih

/-- A name that is kept is bound as before: a provider without entries under the names, which is
left out, knows none of them. -/
theorem findSome?_bindingsOf (used : name ∈ names) (providers : List Provider) :
    (bindingsOf names providers).findSome? (·.lookup name) =
      providers.findSome? (·.lookup name) := by
  induction providers with
  | nil => rfl
  | cons q providers ih =>
      rw [bindingsOf] at ih
      rw [bindingsOf, List.map_cons, List.filter_cons, List.findSome?_cons,
        ← Provider.lookup_only used q, ← ih]
      split
      · rw [List.findSome?_cons]
      · rename_i empty
        have nothing : q.only names = [] := by simpa using empty
        rw [nothing]
        rfl

end Bindings

section Agreement

variable {ctx ctx' : Context}

theorem Context.lookup_eq_of_bindingsOf {names : List String} {name : String}
    (used : name ∈ names) {title : Title} {providers providers' : List Provider}
    (same : bindingsOf names providers = bindingsOf names providers') :
    (Context.mk title providers).lookup name = (Context.mk title providers').lookup name := by
  have found : (Context.mk title providers).find? name =
      (Context.mk title providers').find? name := by
    rw [find?, find?, ← findSome?_bindingsOf used providers, same, findSome?_bindingsOf used]
  rw [lookup, lookup, found]

/-- The head of a path is what stands in front of the first dot. -/
theorem Segment.head_eq {s : Segment} {p : Path} (path : Path.ofString? s.content = some p) :
    s.head = p.head := by
  simp only [Path.ofString?] at path
  split at path
  · rw [← Option.some.inj path, head, Path.cutAt_fst]
  · cases path

/-- A path depends on its head and, in messages, on the title. -/
theorem Path.part_congr {host : Host} {p : Path} (template : ctx.template = ctx'.template)
    (head : ctx.lookup p.head = ctx'.lookup p.head) : p.part host ctx = p.part host ctx' := by
  rw [part, part, resolve, resolve, head, template]

/-- So does the part of a segment. -/
theorem Segment.Becomes.part_congr {host : Host} {s : Segment} {recover : Recovery} {title : Title}
    {part : Part} (h : s.Becomes (Path.reader host) recover title part)
    (template : ctx.template = ctx'.template)
    (head : s.kind = .slot → ctx.lookup s.head = ctx'.lookup s.head) : part ctx = part ctx' := by
  cases h with
  | static _ => rfl
  | slot kind accepted =>
      obtain ⟨p, spells, rfl⟩ := Path.reader_outcome_eq_ok_iff.mp accepted
      have known := head kind
      rw [s.head_eq (Path.ofString?_eq_some_iff.mpr spells)] at known
      exact Path.part_congr template known
  | error _ _ => rfl

/-- Parts of segments whose heads are known alike are rendered alike. -/
theorem renderParts_congr_of_becomes {host : Host} {segments : List Segment} {parts : List Part}
    {recover : Recovery} {title : Title}
    (becomes : List.Forall₂ (Segment.Becomes (Path.reader host) recover title) segments parts)
    (template : ctx.template = ctx'.template)
    (heads : ∀ s ∈ segments, s.kind = .slot → ctx.lookup s.head = ctx'.lookup s.head) :
    renderParts parts ctx = renderParts parts ctx' := by
  apply renderParts_congr template
  induction becomes with
  | nil => exact nofun
  | cons here _ ih =>
      obtain ⟨head, later⟩ := List.forall_mem_cons.mp heads
      exact List.forall_mem_cons.mpr ⟨here.part_congr template head, ih later⟩

end Agreement

/-- A template whose slots all hold paths, with a recovery that gives an answer for every error, can
be compiled. Compiled in any way, it is rendered alike in any two contexts with the same title in
which the heads of its slots are bound to the same values or not at all. So it is rendered alike
over any providers with the same entries under these heads, none of which holds a dot. -/
theorem Parsed.renderIn_congr (host : Host) (p : Parsed)
    (accepted : ∀ s ∈ p.segments, s.kind = .slot → (Path.reader host).Accepts s)
    (recover : Option Recovery) (label : Option String) :
    ((∀ s ∈ p.segments, s.kind = .error →
        ∃ text, ((recover.getD .refuse) (s.start.diagnostic (some (p.heading label))
          s.content)).outcome = .ok text) →
      ∃ c, (p.compile (Path.reader host) recover label).outcome = .ok c) ∧
    ∀ c, (p.compile (Path.reader host) recover label).outcome = .ok c →
      (∀ ctx ctx' : Context, ctx.template = ctx'.template →
        (∀ s ∈ p.segments, s.kind = .slot → ctx.lookup s.head = ctx'.lookup s.head) →
        c.renderIn ctx = c.renderIn ctx') ∧
      (∀ (title : Title) (providers providers' : List Provider),
        bindingsOf p.usedNames providers = bindingsOf p.usedNames providers' →
        c.renderIn ⟨title, providers⟩ = c.renderIn ⟨title, providers'⟩) ∧
      ∀ name ∈ p.usedNames, '.' ∉ name.toList := by
  refine ⟨?_, ?_⟩
  · intro recovered
    have becomes : ∀ s ∈ p.segments,
        ∃ part, s.Becomes (Path.reader host) (recover.getD .refuse) (some (p.heading label))
          part := by
      intro s member
      exact Segment.exists_becomes (accepted s member) (recovered s member)
    obtain ⟨parts, compiled⟩ := exists_forall₂ becomes
    exact ⟨⟨p.name, parts⟩, compile_outcome_eq_ok_iff.mpr ⟨rfl, compiled⟩⟩
  · intro c compiled
    obtain ⟨_, becomes⟩ := compile_outcome_eq_ok_iff.mp compiled
    have overContexts : ∀ ctx ctx' : Context, ctx.template = ctx'.template →
        (∀ s ∈ p.segments, s.kind = .slot → ctx.lookup s.head = ctx'.lookup s.head) →
        c.renderIn ctx = c.renderIn ctx' := by
      intro ctx ctx' template heads
      exact renderParts_congr_of_becomes becomes template heads
    refine ⟨overContexts, ?_, ?_⟩
    · intro title providers providers' same
      refine overContexts ⟨title, providers⟩ ⟨title, providers'⟩ rfl ?_
      intro s member kind
      have used : s.head ∈ p.usedNames := List.mem_map_of_mem (mem_slots.mpr ⟨member, kind⟩)
      exact Context.lookup_eq_of_bindingsOf used same
    · intro name member
      obtain ⟨s, _, rfl⟩ := List.mem_map.mp member
      rw [Segment.head, String.toList_ofList, ← Path.cutAt_fst]
      exact Path.not_mem_of_mem_cutAt '.' _ _ List.mem_cons_self

/-- A template with a dotted path and a name, over few providers and over more of them. The key that
is the dotted path itself, the key that is the other part of it and an empty provider change
nothing. -/
theorem Parsed.renderIn_congr_dotted_key :
    let read := Path.reader .bare
    let p : Parsed := ⟨"t", Dialect.standard.segments "<%x.y%>-<%z%>"⟩
    let x := Value.dict [(.text "y", .int 1)]
    let few : List Provider := [[("x", x)], [("z", .text "2")]]
    let many : List Provider := [[("x.y", .int 7), ("w", .none)], [("x", x), ("y", .int 8)], [],
      [("z", .text "2"), ("x.y", .none)]]
    (∀ s ∈ p.segments, s.kind = .slot → read.Accepts s) ∧
    (∀ s ∈ p.segments, s.kind = .error →
      ∃ text, (Recovery.refuse (s.start.diagnostic (some (p.heading none)) s.content)).outcome =
        .ok text) ∧
    (∀ s ∈ p.segments, s.kind = .slot →
      (Context.mk (some "t") few).lookup s.head = (Context.mk (some "t") many).lookup s.head) ∧
    p.usedNames = ["x", "z"] ∧ bindingsOf p.usedNames few = bindingsOf p.usedNames many ∧
    (∃ c, (p.compile read none none).outcome = .ok c) ∧
    ∀ c, (p.compile read none none).outcome = .ok c →
      c.renderIn ⟨some "t", few⟩ = c.renderIn ⟨some "t", many⟩ ∧
      c.renderIn ⟨none, few⟩ = c.renderIn ⟨none, many⟩ ∧ '.' ∉ "x".toList := by
  intro read p x few many
  have slots : p.slots = [.slot "x.y" ⟨1, 3, 3⟩, .slot "z" ⟨1, 11, 11⟩] := by decide
  have closed : ∀ s ∈ p.segments, s.kind ≠ .error := by decide
  have isSlot {s : Segment} (member : s ∈ p.segments) (kind : s.kind = .slot) :
      s = .slot "x.y" ⟨1, 3, 3⟩ ∨ s = .slot "z" ⟨1, 11, 11⟩ := by
    have known := mem_slots.mpr ⟨member, kind⟩
    rw [slots] at known
    exact List.mem_pair.mp known
  have accepted : ∀ s ∈ p.segments, s.kind = .slot → read.Accepts s := by
    intro s member kind
    rcases isSlot member kind with rfl | rfl
    · exact ⟨Path.part .bare ⟨"x", ["y"]⟩, rfl⟩
    · exact ⟨Path.part .bare ⟨"z", []⟩, rfl⟩
  have recovered : ∀ s ∈ p.segments, s.kind = .error →
      ∃ text, (Recovery.refuse (s.start.diagnostic (some (p.heading none)) s.content)).outcome =
        .ok text := by
    intro s member kind
    exact absurd kind (closed s member)
  have heads : ∀ s ∈ p.segments, s.kind = .slot →
      (Context.mk (some "t") few).lookup s.head = (Context.mk (some "t") many).lookup s.head := by
    intro s member kind
    rcases isSlot member kind with rfl | rfl
    · rfl
    · rfl
  have used : p.usedNames = ["x", "z"] := by
    rw [usedNames, slots]
    rfl
  have same : bindingsOf p.usedNames few = bindingsOf p.usedNames many := by
    rw [used]
    rfl
  obtain ⟨compiles, alike⟩ := renderIn_congr .bare p accepted none none
  refine ⟨accepted, recovered, heads, used, same, compiles recovered, ?_⟩
  intro c compiled
  obtain ⟨overContexts, overProviders, undotted⟩ := alike c compiled
  refine ⟨overContexts _ _ rfl heads, overProviders none few many same, undotted "x" ?_⟩
  rw [used]
  exact List.mem_cons_self

end Stencil

import Mathlib.Data.List.Nodup
import Stencil.Proofs.Numerals
import Stencil.Proofs.Options
import Stencil.Session

/-!
# Names that a session draws

A command draws a name if it asks for nothing else, or if it parses a source that is in order and
brings no name along. A drawn name is used up even if the template is not compiled or rendered
afterwards; apart from that it counts like a name that the caller gave. All other commands leave the
supply alone and do the same with any supply. Main statement: the names that a session draws from a
fresh supply are numbered in the order in which they are drawn, whatever its commands are and
whichever of them fail.

## Implementation notes

Whether a name is drawn is said of the command alone, before it is done. So the names of a session
are known without what compiling and rendering come to.
-/

namespace Stencil

namespace NameSupply

theorem numbered_injective : Function.Injective numbered := by
  intro m n same
  apply toDigits_injective
  apply String.ofList_injective
  simpa [numbered, toString, Nat.repr_eq_ofList_toDigits] using same

theorem nameFor_of_ne_empty (supply : NameSupply) {name : String} (nonempty : name ≠ "") :
    supply.nameFor (some name) = (name, supply) := by
  rw [nameFor, if_neg nonempty]

theorem nameFor_of_unnamed (supply : NameSupply) {name : Option String}
    (unnamed : name = none ∨ name = some "") : supply.nameFor name = supply.draw := by
  rcases unnamed with rfl | rfl <;> rfl

end NameSupply

namespace Source

/-- A source that is in order and brings no name along. -/
structure NeedsName (source : Source) : Prop where
  isText : ∃ text, source.text = .text text
  inOrder : ∃ d : Dialect, source.escape = .text (.singleton d.escape) ∧ source.tab = .int d.tab
  unnamed : source.name = none ∨ source.name = some ""

/-- The source with a name that the caller gives. -/
def named (name : String) (source : Source) : Source := { source with name := some name }

variable {source : Source}

theorem NeedsName.exists_inDialect (needs : source.NeedsName) :
    ∃ d text, source = inDialect d text source.name := by
  obtain ⟨⟨text, isText⟩, ⟨d, escape, tab⟩, _⟩ := needs
  refine ⟨d, text, ?_⟩
  cases source
  cases isText
  cases escape
  cases tab
  rfl

/-- A source that needs a name is parsed as if the caller had given the one that is drawn. -/
theorem NeedsName.parse_eq (needs : source.NeedsName) (supply : NameSupply) :
    source.parse supply = (((source.named supply.draw.1).parse supply).1, supply.draw.2) := by
  obtain ⟨d, text, isSource⟩ := needs.exists_inDialect
  have given := supply.nameFor_of_ne_empty (NameSupply.numbered_ne_empty (supply.drawn + 1))
  have isNamed : source.named supply.draw.1 = inDialect d text (some supply.draw.1) := by
    rw [isSource]
    rfl
  rw [isNamed, isSource, parse_inDialect, parse_inDialect,
    supply.nameFor_of_unnamed needs.unnamed, NameSupply.draw, given]

/-- Any other source is parsed in the same way with any supply, which is left alone. -/
theorem exists_parse_eq (needsNone : ¬ source.NeedsName) :
    ∃ parsed, ∀ supply, source.parse supply = (parsed, supply) := by
  rcases source.exists_refused_or with ⟨fault, wrong⟩ | ⟨d, text, isSource⟩
  · refine ⟨Traced.fail fault, ?_⟩
    intro supply
    rw [parse, check_of_refused wrong]
  · cases given : source.name with
    | none =>
        rw [isSource] at needsNone
        exact absurd ⟨⟨text, rfl⟩, ⟨d, rfl, rfl⟩, .inl given⟩ needsNone
    | some name =>
        have nonempty : name ≠ "" := by
          rintro rfl
          rw [isSource] at needsNone
          exact needsNone ⟨⟨text, rfl⟩, ⟨d, rfl, rfl⟩, .inr given⟩
        refine ⟨(source.parse .fresh).1, ?_⟩
        intro supply
        rw [isSource, given, parse_inDialect, parse_inDialect,
          NameSupply.nameFor_of_ne_empty _ nonempty, NameSupply.nameFor_of_ne_empty _ nonempty]

end Source

namespace Session

namespace Command

/-- The source that a command parses, if it parses any. -/
def source? : Command → Option Source
  | parse source _ | compileSource source _ _ _ | renderSource source _ _ _ => some source
  | _ => none

/-- The command with a name that the caller gives to its source. -/
def named (name : String) : Command → Command
  | parse source into => parse (source.named name) into
  | compileSource source read recover into => compileSource (source.named name) read recover into
  | renderSource source read recover filling =>
    renderSource (source.named name) read recover filling
  | c => c

/-- The commands that a name is drawn for. -/
inductive NeedsName : Command → Prop where
  | drawName : NeedsName drawName
  | source {c : Command} {source : Source} :
      c.source? = some source → source.NeedsName → NeedsName c

end Command

variable {s : Session} {c : Command}

/-- A command draws a name: it takes the next one from the supply, and the rest of what it does, if
it parses a source, is as if the caller had given this name. -/
inductive Draws (s : Session) : Command → String → Prop where
  | alone {name : String} {supply : NameSupply} :
      s.supply.draw = (name, supply) →
      s.perform .drawName = (pure (.name name), { s with supply }) →
      Draws s .drawName name
  | source {c : Command} {source : Source} {name : String} {supply : NameSupply} :
      c.source? = some source →
      s.supply.draw = (name, supply) →
      s.perform c =
        ((s.perform (c.named name)).1, { (s.perform (c.named name)).2 with supply }) →
      Draws s c name

/-- A command leaves the supply alone: with any other supply it does the same. -/
def Keeps (s : Session) (c : Command) : Prop :=
  ∀ supply, { s with supply }.perform c = ((s.perform c).1, { (s.perform c).2 with supply })

/-- The names that commands draw, in order. -/
inductive Naming : Session → List Command → List String → Prop where
  | nil (s : Session) : Naming s [] []
  | draws {s : Session} {c : Command} {cs : List Command} {name : String} {names : List String} :
      c.NeedsName → s.Draws c name → Naming (s.perform c).2 cs names →
      Naming s (c :: cs) (name :: names)
  | keeps {s : Session} {c : Command} {cs : List Command} {names : List String} :
      ¬ c.NeedsName → s.Keeps c → Naming (s.perform c).2 cs names → Naming s (c :: cs) names

/-- Keeping a template has nothing to do with the supply. -/
theorem keepParsed_supply (s : Session) (supply : NameSupply) (into : String) (p : Traced Parsed) :
    { s with supply }.keepParsed into p = { s.keepParsed into p with supply } := by
  unfold keepParsed
  cases p.outcome <;> rfl

theorem keepCompiled_supply (s : Session) (supply : NameSupply) (into : String)
    (c : Traced Compiled) :
    { s with supply }.keepCompiled into c = { s.keepCompiled into c with supply } := by
  unfold keepCompiled
  cases c.outcome <;> rfl

/-- A command that needs a name draws the next one. -/
theorem draws_of_needsName (s : Session) (needs : c.NeedsName) : s.Draws c s.supply.draw.1 := by
  cases needs with
  | drawName => exact .alone rfl rfl
  | @source _ source isSource needs =>
      have drawn : s.supply.draw = (s.supply.draw.1, s.supply.draw.2) := rfl
      apply Draws.source isSource drawn
      cases c with
      | parse other into =>
          obtain rfl := Option.some.inj isSource
          simp only [Command.named, perform, needs.parse_eq s.supply, keepParsed_supply]
      | compileSource other read recover into =>
          obtain rfl := Option.some.inj isSource
          simp only [Command.named, perform, Source.compile, needs.parse_eq s.supply,
            keepCompiled_supply]
      | renderSource other read recover filling =>
          obtain rfl := Option.some.inj isSource
          simp only [Command.named, perform, Source.render, Source.compile,
            needs.parse_eq s.supply]
      | _ => cases isSource

/-- A command that needs no name leaves the supply alone. -/
theorem keeps_of_not_needsName (s : Session) (needsNone : ¬ c.NeedsName) : s.Keeps c := by
  intro supply
  cases c with
  | drawName => exact absurd .drawName needsNone
  | parse source into =>
      obtain ⟨parsed, eq⟩ := Source.exists_parse_eq fun needs => needsNone (.source rfl needs)
      simp only [perform, eq, keepParsed_supply]
  | compileSource source read recover into =>
      obtain ⟨parsed, eq⟩ := Source.exists_parse_eq fun needs => needsNone (.source rfl needs)
      simp only [perform, Source.compile, eq, keepCompiled_supply]
  | renderSource source read recover filling =>
      obtain ⟨parsed, eq⟩ := Source.exists_parse_eq fun needs => needsNone (.source rfl needs)
      simp only [perform, Source.render, Source.compile, eq]
  | compile parsed read recover label into => simp only [perform, keepCompiled_supply]
  | pull stream =>
      simp only [perform]
      cases s.streams.lookup stream <;> rfl
  | _ => rfl

theorem Draws.supply_eq {name : String} (h : s.Draws c name) :
    s.supply.draw = (name, (s.perform c).2.supply) := by
  cases h with
  | alone drawn performed => rw [performed, drawn]
  | source _ drawn performed => rw [performed, drawn]

theorem Keeps.supply_eq (h : s.Keeps c) : (s.perform c).2.supply = s.supply := by
  have same := h s.supply
  exact congrArg (fun result => result.2.supply) same

/-- Every session has its names, whatever its commands come to. -/
theorem exists_naming (s : Session) (commands : List Command) :
    ∃ names, Naming s commands names := by
  induction commands generalizing s with
  | nil => exact ⟨[], .nil s⟩
  | cons c cs ih =>
      obtain ⟨names, later⟩ := ih (s.perform c).2
      by_cases needs : c.NeedsName
      · exact ⟨_, .draws needs (s.draws_of_needsName needs) later⟩
      · exact ⟨names, .keeps needs (s.keeps_of_not_needsName needs) later⟩

/-- Names go on from the number of those that were drawn before. -/
theorem Naming.names_eq {commands : List Command} {names : List String}
    (h : Naming s commands names) :
    names = (List.range names.length).map (fun i => NameSupply.numbered (s.supply.drawn + i + 1)) ∧
      (s.performAll commands).2.supply = ⟨s.supply.drawn + names.length⟩ := by
  induction h with
  | nil s => exact ⟨rfl, rfl⟩
  | @draws s c cs name names _ draws _ ih =>
      obtain ⟨numbered, supply⟩ := ih
      have drawn := draws.supply_eq
      simp only [NameSupply.draw, Prod.mk.injEq] at drawn
      obtain ⟨first, next⟩ := drawn
      rw [← next] at numbered supply
      have counts (i : Nat) : s.supply.drawn + 1 + i + 1 = s.supply.drawn + (i + 1) + 1 := by omega
      have total : s.supply.drawn + 1 + names.length = s.supply.drawn + (names.length + 1) := by
        omega
      constructor
      · rw [List.length_cons, List.range_succ_eq_map, List.map_cons, List.map_map]
        simp only [counts] at numbered
        rw [← first]
        exact congrArg _ numbered
      · rw [performAll_cons, supply, List.length_cons, total]
  | @keeps s c cs names _ keeps _ ih =>
      rw [keeps.supply_eq] at ih
      exact ih

end Session

/-- From a fresh supply on, whatever else a session has kept, each command of it draws a name or
draws none, as it needs one or not, also if it fails. The names that are drawn are numbered in their
order, so no two of them are the same, and the supply counts them. -/
theorem Session.naming_numbered (s : Session) (commands : List Command) :
    let start : Session := { s with supply := .fresh }
    (∃ names, Naming start commands names) ∧
    ∀ names, Naming start commands names →
      names = (List.range names.length).map (fun i => s!"template__{i + 1}") ∧ names.Nodup ∧
        (start.performAll commands).2.supply.drawn = names.length := by
  intro start
  refine ⟨start.exists_naming commands, ?_⟩
  intro names naming
  obtain ⟨numbered, supply⟩ := naming.names_eq
  have fresh (i : Nat) : start.supply.drawn + i + 1 = i + 1 := by
    change 0 + i + 1 = i + 1
    omega
  simp only [fresh] at numbered
  have distinct : ((List.range names.length).map fun i => NameSupply.numbered (i + 1)).Nodup := by
    apply List.Nodup.map ?_ List.nodup_range
    intro i j same
    exact Nat.succ.inj (NameSupply.numbered_injective same)
  rw [← numbered] at distinct
  refine ⟨numbered, distinct, ?_⟩
  rw [supply]
  exact Nat.zero_add _

/-- The name of a template whose slot is refused stays drawn, and a value that is no text draws
none. -/
example :
    let source := Source.inDialect .standard "<%x%>" none
    let refuse : SlotReader := fun slot => Traced.fail (.slotSyntax slot.start "refused" none)
    (Session.fresh.performAll [.compileSource source refuse none "c",
      .parse { source with text := .none } "p", .drawName]).1[2]? =
        some (pure (.name "template__2")) := by
  rfl

end Stencil

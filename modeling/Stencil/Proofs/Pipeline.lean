import Stencil.Compiled
import Stencil.Proofs.Parsing
import Stencil.Proofs.Tracing

/-!
# From a text to its output

Compiling and rendering a text in a dialect, for any slot reader and any recovery. Parsing such a
source cannot fail, so its output is the one of its segments, compiled and rendered under the name
that was given or drawn.
-/

namespace Stencil

/-- Whether a reader turns a slot into a part. -/
def SlotReader.Accepts (read : SlotReader) (slot : Segment) : Prop :=
  ∃ part, (read slot).outcome = .ok part

namespace Segment

/-- The part that a segment becomes: the text of a static one, what the reader makes of a slot, and
the text that the recovery gives for an error. -/
inductive Becomes (read : SlotReader) (recover : Recovery) (template : Title) (s : Segment) :
    Part → Prop where
  | static : s.kind = .static → Becomes read recover template s (.constant s.content)
  | slot {part : Part} :
      s.kind = .slot → (read s).outcome = .ok part → Becomes read recover template s part
  | error {text : String} :
      s.kind = .error → (recover (s.start.diagnostic template s.content)).outcome = .ok text →
      Becomes read recover template s (.constant text)

/-- The fault of a segment that becomes nothing, which is the reader's or the recovery's. -/
inductive Fails (read : SlotReader) (recover : Recovery) (template : Title) (s : Segment) :
    Fault → Prop where
  | slot {fault : Fault} :
      s.kind = .slot → (read s).outcome = .error fault → Fails read recover template s fault
  | error {fault : Fault} :
      s.kind = .error → (recover (s.start.diagnostic template s.content)).outcome = .error fault →
      Fails read recover template s fault

/-- The events of the call that is made for a segment. A static text needs no call. -/
def calls (read : SlotReader) (recover : Recovery) (template : Title) (s : Segment) : List Event :=
  match s.kind with
  | .static => []
  | .slot => (read s).events
  | .error => (recover (s.start.diagnostic template s.content)).events

variable {read : SlotReader} {recover : Recovery} {template : Title} {s : Segment}

theorem compile_events :
    (s.compile read recover template).events = s.calls read recover template := by
  unfold compile calls
  cases s.kind <;> simp [Traced.map_eq]

theorem compile_of_becomes {part : Part} (h : s.Becomes read recover template part) :
    (s.compile read recover template).outcome = .ok part := by
  cases h with
  | static kind => simp [compile, kind]
  | slot kind accepted => simp [compile, kind, accepted]
  | error kind recovered => simp [compile, kind, Traced.map_eq, recovered, Except.map]

theorem compile_of_fails {fault : Fault} (h : s.Fails read recover template fault) :
    (s.compile read recover template).outcome = .error fault := by
  cases h with
  | slot kind refused => simp [compile, kind, refused]
  | error kind refused => simp [compile, kind, Traced.map_eq, refused, Except.map]

/-- A segment that becomes nothing has a fault. -/
theorem exists_fails (silent : ∀ part, ¬ s.Becomes read recover template part) :
    ∃ fault, s.Fails read recover template fault := by
  cases kind : s.kind with
  | static => exact absurd (.static kind) (silent _)
  | slot =>
      obtain ⟨fault, refused⟩ := Traced.exists_fault fun part accepted =>
        silent part (.slot kind accepted)
      exact ⟨fault, .slot kind refused⟩
  | error =>
      obtain ⟨fault, refused⟩ := Traced.exists_fault fun text recovered =>
        silent (.constant text) (.error kind recovered)
      exact ⟨fault, .error kind refused⟩

/-- If only static text stands behind an error, no error stands before anything else. -/
theorem closed_before {before after : List Segment}
    (ordered : (before ++ s :: after).Pairwise fun s t => s.kind = .error → t.kind = .static)
    (kind : s.kind ≠ .static) : ∀ t ∈ before, t.kind ≠ .error := by
  intro t member error
  exact kind ((List.pairwise_append.mp ordered).2.2 t member s List.mem_cons_self error)

end Segment

section Compiling

variable {read : SlotReader} {recover : Recovery} {template : Title} {parts : List Part}

/-- Compiling goes through all segments in order if each becomes a part. -/
theorem compileSegments_of_becomes {segments : List Segment}
    (becomes : List.Forall₂ (Segment.Becomes read recover template) segments parts) :
    compileSegments read recover template segments =
      ⟨segments.flatMap (Segment.calls read recover template) ++
        [.compiled parts.length template], .ok parts⟩ := by
  have compiled := becomes.imp fun _ _ => Segment.compile_of_becomes
  rw [compileSegments, Traced.mapM_of_ok compiled]
  simp only [Segment.compile_events]
  rfl

/-- Compiling ends with the first segment that fails, whatever comes behind it. -/
theorem compileSegments_of_fails {before : List Segment} {s : Segment} {fault : Fault}
    (becomes : List.Forall₂ (Segment.Becomes read recover template) before parts)
    (fails : s.Fails read recover template fault) (after : List Segment) :
    compileSegments read recover template (before ++ s :: after) =
      ⟨before.flatMap (Segment.calls read recover template) ++ s.calls read recover template,
        .error fault⟩ := by
  have compiled := becomes.imp fun _ _ => Segment.compile_of_becomes
  rw [compileSegments, Traced.mapM_of_error compiled (Segment.compile_of_fails fails)]
  simp only [Segment.compile_events]
  rfl

/-- Segments are compiled to nothing else than what they become. -/
theorem compileSegments_outcome_eq_ok_iff {segments : List Segment} :
    (compileSegments read recover template segments).outcome = .ok parts ↔
      List.Forall₂ (Segment.Becomes read recover template) segments parts := by
  constructor
  · intro compiled
    rcases forall₂_or_first (Segment.Becomes read recover template) segments with
      ⟨others, becomes⟩ | ⟨before, s, after, others, rfl, becomes, silent⟩
    · rw [compileSegments_of_becomes becomes] at compiled
      cases compiled
      exact becomes
    · obtain ⟨fault, fails⟩ := Segment.exists_fails silent
      rw [compileSegments_of_fails becomes fails] at compiled
      cases compiled
  · intro becomes
    rw [compileSegments_of_becomes becomes]

end Compiling

section Rendering

variable {ctx : Context} {texts : List String}

/-- Rendering joins what the parts write if none of them fails. -/
theorem renderParts_of_ok {parts : List Part}
    (written : List.Forall₂ (fun part text => (part ctx).outcome = .ok text) parts texts) :
    renderParts parts ctx =
      ⟨.rendering parts.length ctx.template :: parts.flatMap fun part => (part ctx).events,
        .ok (String.join texts)⟩ := by
  rw [renderParts, Traced.mapM_of_ok written]
  simp [Traced.note]

/-- Rendering ends with the first part that fails. -/
theorem renderParts_of_error {before : List Part} {part : Part} {fault : Fault}
    (written : List.Forall₂ (fun part text => (part ctx).outcome = .ok text) before texts)
    (fails : (part ctx).outcome = .error fault) (after : List Part) :
    renderParts (before ++ part :: after) ctx =
      ⟨.rendering (before ++ part :: after).length ctx.template ::
        (before.flatMap fun part => (part ctx).events) ++ (part ctx).events, .error fault⟩ := by
  rw [renderParts, Traced.mapM_of_error written fails]
  rfl

/-- Parts that do the same in two contexts of one template are rendered in the same way. -/
theorem renderParts_congr {parts : List Part} {ctx' : Context}
    (template : ctx.template = ctx'.template) (same : ∀ part ∈ parts, part ctx = part ctx') :
    renderParts parts ctx = renderParts parts ctx' := by
  rw [renderParts, renderParts, template, Traced.mapM_congr same]

end Rendering

/-- What segments become under a title: they are compiled as a whole, then their parts are
rendered. -/
def renderSegments (read : SlotReader) (recover : Recovery) (title : String) (filling : Filling)
    (segments : List Segment) : Traced String := do
  let parts ← compileSegments read recover (some title) segments
  renderParts parts (filling.context (some title))

theorem Parsed.compile_render (p : Parsed) (read : SlotReader) (recover : Option Recovery)
    (filling : Filling) :
    (p.compile read recover none >>= fun c => c.render filling) =
      renderSegments read (recover.getD .refuse) p.name filling p.segments := by
  simp only [Parsed.compile, bind_assoc, pure_bind]
  rfl

/-- The title that heads the messages of a template: the label if it is given and not empty. -/
def Parsed.heading (p : Parsed) (label : Option String) : String :=
  match label with
  | some l => if l = "" then p.name else l
  | none => p.name

/-- A template is compiled exactly to its name and the parts that its segments become, under the
heading of its messages. -/
theorem Parsed.compile_outcome_eq_ok_iff {p : Parsed} {read : SlotReader}
    {recover : Option Recovery} {label : Option String} {c : Compiled} :
    (p.compile read recover label).outcome = .ok c ↔
      c.name = p.name ∧
        List.Forall₂ (Segment.Becomes read (recover.getD .refuse) (some (p.heading label)))
          p.segments c.parts := by
  have compiled : p.compile read recover label =
      (compileSegments read (recover.getD .refuse) (some (p.heading label)) p.segments >>=
        fun parts => pure ⟨p.name, parts⟩) := rfl
  rw [compiled, Traced.bind_outcome, ← compileSegments_outcome_eq_ok_iff]
  obtain ⟨name, parts⟩ := c
  generalize (compileSegments read (recover.getD .refuse) (some (p.heading label))
    p.segments).outcome = outcome
  cases outcome with
  | error fault => simp [Except.bind]
  | ok others => simp [Except.bind, eq_comm]

/-- A source in a dialect gives off the events of its error, then its segments are rendered. -/
theorem Source.render_inDialect (d : Dialect) (text : String) (name : Option String)
    (supply : NameSupply) (read : SlotReader) (recover : Option Recovery) (filling : Filling) :
    ((inDialect d text name).render supply read recover filling).1 =
      Traced.mk ((d.segments text).filterMap Event.ofSegment?) (.ok ()) >>= fun _ =>
        renderSegments read (recover.getD .refuse) (supply.nameFor name).1 filling
          (d.segments text) := by
  simp only [render, compile, parse_inDialect, bind_assoc]
  rw [Traced.bind_ok, Traced.bind_ok, Parsed.compile_render]

/-- Such a source is compiled to the parts that its segments become under its title. -/
theorem Source.compile_outcome {d : Dialect} {text title : String} {name : Option String}
    {supply : NameSupply} (titled : Titled supply name title) {read : SlotReader}
    {recover : Option Recovery} {parts : List Part}
    (compiled : List.Forall₂ (Segment.Becomes read (recover.getD .refuse) (some title))
      (d.segments text) parts) :
    ((inDialect d text name).compile supply read recover).1.outcome = .ok ⟨title, parts⟩ := by
  simp only [compile, parse_inDialect, Traced.bind_ok, Parsed.compile, ← titled.eq_nameFor,
    compileSegments_of_becomes compiled]
  rfl

/-- The output of such a source is the one of its segments under its title. -/
theorem Source.render_outcome {d : Dialect} {text title : String} {name : Option String}
    {supply : NameSupply} (titled : Titled supply name title) (read : SlotReader)
    (recover : Option Recovery) (filling : Filling) :
    ((inDialect d text name).render supply read recover filling).1.outcome =
      (renderSegments read (recover.getD .refuse) title filling (d.segments text)).outcome := by
  rw [render_inDialect, Traced.bind_ok, titled.eq_nameFor]

end Stencil

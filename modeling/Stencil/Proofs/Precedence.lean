import Stencil.Path
import Stencil.Proofs.Options
import Stencil.Proofs.Pieces
import Stencil.Proofs.Pipeline

/-!
# What goes wrong first

Between a text and its output there are five things that can fail: the kind of the text, its
options, the reader of a slot, the recovery from the error, and a part that is rendered. `Course`
lists what can become of a source, with the events of all calls on the way: each case says that
nothing before it failed, and no call is made for anything behind it. Main statement: rendering
takes the course of its source, for any reader, recovery and filling.

## Implementation notes

Readers, recoveries and parts leave what events they like, so the events of a course tell which of
them were called, how often and in which order.
-/

namespace Stencil

namespace Parsed

variable (p : Parsed) (read : SlotReader) (recover : Recovery) (filling : Filling)

/-- The slots of a template in order. -/
def slots : List Segment := p.segments.filter (·.isSlot)

/-- What a recovery is asked about the error of a template. -/
def diagnostic (error : Segment) : String := error.start.diagnostic (some p.name) error.content

/-- What a part of a template writes over a filling. -/
def write (part : Part) : Traced String := part (filling.context (some p.name))

/-- The events of the calls while a template is compiled to the end: its slots are read one after
the other, then the recovery is asked if there is an error. -/
def calls : List Event :=
  p.slots.flatMap (fun slot => (read slot).events) ++
    p.error?.toList.flatMap fun error => (recover (p.diagnostic error)).events

/-- The notices between compiling a template and rendering it. -/
def notices (parts : List Part) : List Event :=
  [.compiled parts.length (some p.name), .rendering parts.length (some p.name)]

/-- What compiling and rendering a template comes to, with the events on the way. -/
inductive Course : Traced String → Prop where
  | refused {before after : List Segment} {slot : Segment} {fault : Fault} :
      p.slots = before ++ slot :: after → (∀ s ∈ before, read.Accepts s) →
      (read slot).outcome = .error fault →
      Course ⟨before.flatMap (fun s => (read s).events) ++ (read slot).events, .error fault⟩
  | unrecovered {error : Segment} {fault : Fault} :
      (∀ s ∈ p.slots, read.Accepts s) → p.error? = some error →
      (recover (p.diagnostic error)).outcome = .error fault →
      Course ⟨p.calls read recover, .error fault⟩
  | unwritten {before after : List Part} {part : Part} {texts : List String} {fault : Fault} :
      List.Forall₂ (Segment.Becomes read recover (some p.name)) p.segments
        (before ++ part :: after) →
      List.Forall₂ (fun part text => (p.write filling part).outcome = .ok text) before texts →
      (p.write filling part).outcome = .error fault →
      Course ⟨p.calls read recover ++ p.notices (before ++ part :: after) ++
        before.flatMap (fun part => (p.write filling part).events) ++
        (p.write filling part).events, .error fault⟩
  | written {parts : List Part} {texts : List String} :
      List.Forall₂ (Segment.Becomes read recover (some p.name)) p.segments parts →
      List.Forall₂ (fun part text => (p.write filling part).outcome = .ok text) parts texts →
      Course ⟨p.calls read recover ++ p.notices parts ++
        parts.flatMap (fun part => (p.write filling part).events), .ok (String.join texts)⟩

/-- Only static text stands behind an error. -/
def Ordered : Prop := p.segments.Pairwise fun s t => s.kind = .error → t.kind = .static

theorem ordered_segments (title : String) (d : Dialect) (text : String) :
    (Parsed.mk title (d.segments text)).Ordered :=
  (Pieces.of_segments d text).static_behind_error

end Parsed

namespace Segment

variable {read : SlotReader} {recover : Recovery} {template : Title} {segments : List Segment}

/-- A segment whose call succeeds becomes a part. -/
theorem exists_becomes {s : Segment} (accepted : s.kind = .slot → read.Accepts s)
    (recovered : s.kind = .error →
      ∃ text, (recover (s.start.diagnostic template s.content)).outcome = .ok text) :
    ∃ part, s.Becomes read recover template part := by
  cases kind : s.kind with
  | static => exact ⟨_, .static kind⟩
  | slot =>
      obtain ⟨part, accepted⟩ := accepted kind
      exact ⟨part, .slot kind accepted⟩
  | error =>
      obtain ⟨text, recovered⟩ := recovered kind
      exact ⟨_, .error kind recovered⟩

/-- Segments without an error become parts if the reader accepts their slots. -/
theorem exists_parts (closed : ∀ s ∈ segments, s.kind ≠ .error)
    (accepted : ∀ s ∈ segments, s.kind = .slot → read.Accepts s) :
    ∃ parts, List.Forall₂ (Becomes read recover template) segments parts := by
  apply exists_forall₂
  intro s member
  exact exists_becomes (accepted s member) fun kind => absurd kind (closed s member)

/-- A recovery has no part in what becomes of other segments. -/
theorem Becomes.of_closed {s : Segment} {part : Part} (h : s.Becomes read recover template part)
    (closed : s.kind ≠ .error) (other : Recovery) : s.Becomes read other template part := by
  cases h with
  | static kind => exact .static kind
  | slot kind accepted => exact .slot kind accepted
  | error kind _ => exact absurd kind closed

theorem forall₂_becomes_of_closed {parts : List Part}
    (h : List.Forall₂ (Becomes read recover template) segments parts)
    (closed : ∀ s ∈ segments, s.kind ≠ .error) (other : Recovery) :
    List.Forall₂ (Becomes read other template) segments parts := by
  induction h with
  | nil => exact .nil
  | cons becomes _ ih =>
      obtain ⟨here, later⟩ := List.forall_mem_cons.mp closed
      exact .cons (becomes.of_closed here other) (ih later)

/-- Without an error the calls are those of the reader for each slot. -/
theorem flatMap_calls_of_closed (closed : ∀ s ∈ segments, s.kind ≠ .error) :
    segments.flatMap (calls read recover template) =
      (segments.filter (·.isSlot)).flatMap fun s => (read s).events := by
  induction segments with
  | nil => rfl
  | cons s rest ih =>
      obtain ⟨here, later⟩ := List.forall_mem_cons.mp closed
      rw [List.flatMap_cons, ih later]
      cases kind : s.kind with
      | static => simp [calls, isSlot, kind]
      | slot => simp [calls, isSlot, kind]
      | error => exact absurd kind here

theorem filter_isSlot_of_static (static : ∀ s ∈ segments, s.kind = .static) :
    segments.filter (·.isSlot) = [] := by
  rw [List.filter_eq_nil_iff]
  intro s member
  simp [isSlot, static s member]

theorem flatMap_calls_of_static (static : ∀ s ∈ segments, s.kind = .static) :
    segments.flatMap (calls read recover template) = [] := by
  rw [List.flatMap_eq_nil_iff]
  intro s member
  simp [calls, static s member]

end Segment

namespace Parsed

variable {p : Parsed} {read : SlotReader} {recover : Recovery} {filling : Filling}

theorem mem_slots {s : Segment} : s ∈ p.slots ↔ s ∈ p.segments ∧ s.kind = .slot := by
  simp [slots, Segment.isSlot]

/-- A slot stands among the segments behind the slots before it. -/
theorem exists_of_slots {before after : List Segment} {slot : Segment}
    (h : p.slots = before ++ slot :: after) :
    ∃ front back, p.segments = front ++ slot :: back ∧ front.filter (·.isSlot) = before ∧
      slot.kind = .slot := by
  obtain ⟨front, rest, segments, rfl, tail⟩ := List.filter_eq_append_iff.mp h
  obtain ⟨between, back, rfl, none, isSlot, _⟩ := List.filter_eq_cons_iff.mp tail
  refine ⟨front ++ between, back, by simpa using segments, ?_,
    by simpa [Segment.isSlot] using isSlot⟩
  rw [List.filter_append, List.filter_eq_nil_iff.mpr none, List.append_nil]

theorem error?_eq_none_iff : p.error? = none ↔ ∀ s ∈ p.segments, s.kind ≠ .error := by
  simp [error?, Segment.isError]

/-- An error stands behind all slots, with only static text behind it. -/
theorem exists_of_error? (ordered : p.Ordered) {error : Segment} (h : p.error? = some error) :
    ∃ before after, p.segments = before ++ error :: after ∧ (∀ s ∈ before, s.kind ≠ .error) ∧
      error.kind = .error ∧ ∀ s ∈ after, s.kind = .static := by
  obtain ⟨isError, before, after, split, none⟩ := List.find?_eq_some_iff_append.mp h
  have kind : error.kind = .error := by simpa [Segment.isError] using isError
  rw [Ordered, split] at ordered
  obtain ⟨_, behind, _⟩ := List.pairwise_append.mp ordered
  refine ⟨before, after, split, by simpa [Segment.isError] using none, kind, ?_⟩
  intro s member
  exact List.rel_of_pairwise_cons behind member kind

/-- The calls for all segments are those for the slots and then the one for the error. -/
theorem flatMap_calls (ordered : p.Ordered) :
    p.segments.flatMap (Segment.calls read recover (some p.name)) = p.calls read recover := by
  cases h : p.error? with
  | none =>
      rw [Segment.flatMap_calls_of_closed (error?_eq_none_iff.mp h), calls, h]
      exact (List.append_nil _).symm
  | some error =>
      obtain ⟨before, after, split, closed, kind, static⟩ := exists_of_error? ordered h
      have slots : p.slots = before.filter (·.isSlot) := by
        rw [Parsed.slots, split, List.filter_append, List.filter_cons,
          Segment.filter_isSlot_of_static static]
        simp [Segment.isSlot, kind]
      have asked : error.calls read recover (some p.name) =
          (recover (p.diagnostic error)).events := by
        simp [Segment.calls, kind, diagnostic]
      rw [split, List.flatMap_append, List.flatMap_cons, Segment.flatMap_calls_of_closed closed,
        Segment.flatMap_calls_of_static static, asked, calls, slots, h]
      simp

/-- A template is rendered as its course says. -/
theorem Course.renderSegments_eq (ordered : p.Ordered) {r : Traced String}
    (h : p.Course read recover filling r) :
    renderSegments read recover p.name filling p.segments = r := by
  cases h with
  | @refused before after slot fault split accepted refused =>
      obtain ⟨front, back, segments, rfl, kind⟩ := exists_of_slots split
      have closed : ∀ s ∈ front, s.kind ≠ .error := by
        rw [Ordered, segments] at ordered
        exact Segment.closed_before ordered (by simp [kind])
      have accepts : ∀ s ∈ front, s.kind = .slot → read.Accepts s := by
        intro s member isSlot
        exact accepted s (by simp [Segment.isSlot, member, isSlot])
      obtain ⟨parts, compiled⟩ := Segment.exists_parts closed accepts
      rw [renderSegments, segments, compileSegments_of_fails compiled (.slot kind refused),
        Segment.flatMap_calls_of_closed closed]
      simp [Segment.calls, kind]
  | @unrecovered error fault accepted found refused =>
      obtain ⟨before, after, split, closed, kind, static⟩ := exists_of_error? ordered found
      have accepts : ∀ s ∈ before, s.kind = .slot → read.Accepts s := by
        intro s member isSlot
        exact accepted s (mem_slots.mpr ⟨by simp [split, member], isSlot⟩)
      obtain ⟨parts, compiled⟩ := Segment.exists_parts closed accepts
      rw [← flatMap_calls ordered, renderSegments, split,
        compileSegments_of_fails compiled (.error kind refused), List.flatMap_append,
        List.flatMap_cons, Segment.flatMap_calls_of_static static, List.append_nil]
      rfl
  | @unwritten before after part texts fault compiled written fails =>
      rw [renderSegments, compileSegments_of_becomes compiled, Traced.bind_ok,
        renderParts_of_error written fails, flatMap_calls ordered]
      simp [notices, write, Filling.context, Context.build]
  | @written parts texts compiled written =>
      rw [renderSegments, compileSegments_of_becomes compiled, Traced.bind_ok,
        renderParts_of_ok written, flatMap_calls ordered]
      simp [notices, write, Filling.context, Context.build]

/-- Without an error the course does not depend on the recovery. -/
theorem Course.of_closed {r : Traced String} (h : p.Course read recover filling r)
    (none : p.error? = none) (other : Recovery) : p.Course read other filling r := by
  have closed := error?_eq_none_iff.mp none
  have calls : p.calls read recover = p.calls read other := by
    rw [Parsed.calls, Parsed.calls, none]
    rfl
  cases h with
  | refused split accepted refused => exact .refused split accepted refused
  | unrecovered accepted found refused =>
      rw [none] at found
      cases found
  | unwritten compiled written fails =>
      rw [calls]
      exact .unwritten (Segment.forall₂_becomes_of_closed compiled closed other) written fails
  | written compiled written =>
      rw [calls]
      exact .written (Segment.forall₂_becomes_of_closed compiled closed other) written

end Parsed

namespace Source

/-- What becomes of a source, with the events on the way. -/
inductive Course (source : Source) (supply : NameSupply) (read : SlotReader) (recover : Recovery)
    (filling : Filling) : Traced String → Prop where
  | notText :
      (∀ text, source.text ≠ .text text) →
      Course source supply read recover filling ⟨[], .error (.notText source.text.kind)⟩
  | options {text : String} {fault : Fault} :
      source.text = .text text → Dialect.OptionFault source.escape source.tab fault →
      Course source supply read recover filling ⟨[], .error fault⟩
  | parsed {d : Dialect} {text title : String} {r : Traced String} :
      source = inDialect d text source.name → Titled supply source.name title →
      (Parsed.mk title (d.segments text)).Course read recover filling r →
      Course source supply read recover filling
        ⟨(d.segments text).filterMap Event.ofSegment? ++ r.events, r.outcome⟩

variable {source : Source} {supply : NameSupply} {read : SlotReader} {filling : Filling}

theorem render_of_refused {fault : Fault} (h : source.Refused fault)
    (recover : Option Recovery) :
    (source.render supply read recover filling).1 = ⟨[], .error fault⟩ := by
  simp only [render, compile, parse, check_of_refused h]
  rfl

/-- A source in a dialect takes the course of its template, behind the event of its error. -/
theorem render_of_course {d : Dialect} {text title : String} {name : Option String}
    {recover : Option Recovery} {r : Traced String} (titled : Titled supply name title)
    (course : (Parsed.mk title (d.segments text)).Course read (recover.getD .refuse) filling r) :
    ((inDialect d text name).render supply read recover filling).1 =
      ⟨(d.segments text).filterMap Event.ofSegment? ++ r.events, r.outcome⟩ := by
  have ordered := Parsed.ordered_segments title d text
  rw [render_inDialect, Traced.bind_ok, ← titled.eq_nameFor, course.renderSegments_eq ordered]

end Source

end Stencil

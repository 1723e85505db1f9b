import Stencil.Proofs.Parsing

/-!
# The shape of a row of segments

Reading alternates between the two zones, and each segment that comes out on the way is of the kind
of the zone that it ends. So the kinds of all segments of a text are known up to their number: the
run ends either in static text or in a slot that is not closed. Main statement: these are the two
cases, and the zone behind the last character tells which one it is.
-/

namespace Stencil

open Segmentation

/-- The kind of the segments that a zone becomes. -/
def Zone.kind : Zone → Segment.Kind
  | static => .static
  | slot => .slot

@[simp] theorem Zone.segment_kind (z : Zone) (content : String) (start : Location) :
    (z.segment content start).kind = z.kind := by
  cases z <;> rfl

/-- Segments that lead from one zone to another, each of the kind of its zone. -/
inductive Alternates : Zone → List Segment → Zone → Prop where
  | nil (z : Zone) : Alternates z [] z
  | cons {z y : Zone} {s : Segment} {segments : List Segment} :
      s.kind = z.kind → Alternates z.other segments y → Alternates z (s :: segments) y

namespace Segmentation.State

/-- One character either completes the delimiter, so that the segment of the zone comes out and the
other zone begins empty, or leaves the zone and its beginning as they are. -/
theorem read_cases (d : Dialect) (s : State) (c : Char) :
    (∃ content, s.read d c =
      (⟨s.zone.other, [], "", s.here.after d.tab c, s.here.after d.tab c⟩,
        some (s.zone.segment content s.start))) ∨
    (∃ held content, s.read d c =
      (⟨s.zone, held, content, s.start, s.here.after d.tab c⟩, none)) := by
  simp only [read]
  split
  · exact .inl ⟨_, rfl⟩
  · exact .inr ⟨_, _, rfl⟩

/-- The segments of a run lead from its first zone to its last one. -/
theorem readAll_alternates (d : Dialect) (s : State) (cs : List Char) :
    Alternates s.zone (s.readAll d cs).2 (s.readAll d cs).1.zone := by
  induction cs generalizing s with
  | nil => exact .nil s.zone
  | cons c cs ih =>
      rw [readAll_cons]
      rcases read_cases d s c with ⟨content, closed⟩ | ⟨held, content, inner⟩
      · rw [closed]
        have later := ih ⟨s.zone.other, [], "", s.here.after d.tab c, s.here.after d.tab c⟩
        exact .cons (Zone.segment_kind s.zone content s.start) later
      · rw [inner]
        exact ih ⟨s.zone, held, content, s.start, s.here.after d.tab c⟩

end Segmentation.State

namespace Segment.Kind

/-- A static text and a slot, so many times. -/
def pairs (n : Nat) : List Segment.Kind := (List.replicate n [static, slot]).flatten

theorem pairs_succ (n : Nat) : pairs (n + 1) = static :: slot :: pairs n := by
  simp [pairs, List.replicate_succ]

end Segment.Kind

/-- The kinds of the segments that a zone has in front of it since the last slot. -/
def Zone.unpaired : Zone → List Segment.Kind
  | static => []
  | slot => [.static]

namespace Alternates

variable {z y : Zone} {segments : List Segment}

/-- Counted from the last slot before them, alternating segments are pairs of a text and a slot, and
those that end in a slot have one more text. -/
theorem kinds (h : Alternates z segments y) :
    ∃ n, z.unpaired ++ segments.map (·.kind) = Segment.Kind.pairs n ++ y.unpaired := by
  induction h with
  | nil z => exact ⟨0, by simp [Segment.Kind.pairs]⟩
  | @cons z y s segments kind _ ih =>
      obtain ⟨n, ih⟩ := ih
      cases z with
      | static =>
          refine ⟨n, ?_⟩
          rw [← ih, List.map_cons, kind]
          rfl
      | slot =>
          refine ⟨n + 1, ?_⟩
          rw [Segment.Kind.pairs_succ, List.cons_append, List.cons_append, ← ih, List.map_cons,
            kind]
          rfl

theorem filter_isError (h : Alternates z segments y) : segments.filter (·.isError) = [] := by
  induction h with
  | nil z => rfl
  | @cons z y s segments kind _ ih =>
      have inner : s.isError = false := by
        rw [Segment.isError, kind]
        cases z <;> rfl
      rw [List.filter_cons, inner, ih]
      rfl

end Alternates

namespace Segment

/-- Static texts and slots in turn, with a static text at both ends. -/
def Whole (segments : List Segment) : Prop :=
  ∃ n, segments.map (·.kind) = Kind.pairs n ++ [.static]

/-- Static texts and slots in turn, then an error after a static text and one empty static text. -/
def Broken (segments : List Segment) (error : Segment) : Prop :=
  ∃ whole last, segments = whole ++ [error, .static "" last] ∧ Whole whole ∧ error.kind = .error

variable {segments : List Segment} {error : Segment}

theorem Whole.head?_kind (h : Whole segments) : segments.head?.map (·.kind) = some .static := by
  obtain ⟨n, kinds⟩ := h
  rw [← List.head?_map, kinds]
  cases n with
  | zero => rfl
  | succ n =>
      rw [Kind.pairs_succ]
      rfl

theorem Whole.getLast?_kind (h : Whole segments) :
    segments.getLast?.map (·.kind) = some .static := by
  obtain ⟨n, kinds⟩ := h
  rw [← List.getLast?_map, kinds]
  simp

theorem Broken.head?_kind (h : Broken segments error) :
    segments.head?.map (·.kind) = some .static := by
  obtain ⟨whole, last, rfl, shape, _⟩ := h
  have head := shape.head?_kind
  cases whole with
  | nil => simp at head
  | cons s whole => exact head

theorem Broken.getLast?_kind (h : Broken segments error) :
    segments.getLast?.map (·.kind) = some .static := by
  obtain ⟨whole, last, rfl, _, _⟩ := h
  simp [static]

end Segment

/-- The zone behind the last character of a text. -/
def Dialect.lastZone (d : Dialect) (text : String) : Zone :=
  (State.initial.readAll d text.toList).1.zone

namespace Dialect

variable (d : Dialect) (text : String)

/-- The segments that come out on the way, then what is left of the last zone. -/
theorem exists_alternates :
    ∃ s : State, s.zone = d.lastZone text ∧
      ∃ closed, Alternates .static closed s.zone ∧ d.segments text = closed ++ s.finish :=
  ⟨_, rfl, _, State.initial.readAll_alternates d text.toList, segments_eq d text⟩

/-- A text that ends in static text has no error. -/
theorem whole_of_static (h : d.lastZone text = .static) :
    Segment.Whole (d.segments text) ∧ (d.segments text).filter (·.isError) = [] := by
  obtain ⟨s, zone, closed, run, split⟩ := d.exists_alternates text
  rw [zone, h] at run
  rw [split, State.finish, zone, h]
  constructor
  · obtain ⟨n, kinds⟩ := run.kinds
    refine ⟨n, ?_⟩
    rw [List.map_append]
    exact congrArg (· ++ [.static]) (kinds.trans (List.append_nil _))
  · rw [List.filter_append, run.filter_isError]
    rfl

/-- A text that ends in a slot has an error, second to last, and no other one. -/
theorem broken_of_slot (h : d.lastZone text = .slot) :
    ∃ error, Segment.Broken (d.segments text) error ∧
      (d.segments text).filter (·.isError) = [error] := by
  obtain ⟨s, zone, closed, run, split⟩ := d.exists_alternates text
  rw [zone, h] at run
  rw [split, State.finish, zone, h]
  refine ⟨_, ⟨_, _, rfl, ?_, rfl⟩, ?_⟩
  · obtain ⟨n, kinds⟩ := run.kinds
    exact ⟨n, kinds⟩
  · rw [List.filter_append, run.filter_isError]
    rfl

end Dialect

/-- A row of segments starts and ends with a static text. In between, static texts and slots take
turns, and there is an error, second to last and before an empty text, exactly if reading is in a
slot behind the last character. This error is the one that the parsed template has. -/
theorem Source.parse_shape (d : Dialect) (text : String) (name : Option String)
    (supply : NameSupply) :
    ∃ p, ((inDialect d text name).parse supply).1.outcome = .ok p ∧
      p.segments = d.segments text ∧
      p.segments.head?.map (·.kind) = some .static ∧
      p.segments.getLast?.map (·.kind) = some .static ∧
      match d.lastZone text with
      | .static =>
        Segment.Whole p.segments ∧ p.segments.filter (·.isError) = [] ∧ p.error? = none
      | .slot =>
        ∃ error, Segment.Broken p.segments error ∧ p.segments.filter (·.isError) = [error] ∧
          p.error? = some error := by
  refine ⟨⟨_, d.segments text⟩, by rw [parse_inDialect], rfl, ?_⟩
  have first : (d.segments text).find? (·.isError) =
      ((d.segments text).filter (·.isError)).head? := List.head?_filter.symm
  cases zone : d.lastZone text with
  | static =>
      obtain ⟨whole, errors⟩ := d.whole_of_static text zone
      rw [errors] at first
      exact ⟨whole.head?_kind, whole.getLast?_kind, whole, errors, first⟩
  | slot =>
      obtain ⟨error, broken, errors⟩ := d.broken_of_slot text zone
      rw [errors] at first
      exact ⟨broken.head?_kind, broken.getLast?_kind, error, broken, errors, first⟩

end Stencil

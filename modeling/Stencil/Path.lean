import Stencil.Part

/-!
# Dotted paths

A dotted path is a row of names with dots between them. The head is looked up in the context, and
each further name selects something in the value before it, as the host has it.

## Implementation notes

Whether a text is a path is decided in one pass over its characters; `cutAt` then cuts it at its
dots.
-/

namespace Stencil

/-- A name starts with a letter of the ASCII alphabet or an underscore. -/
def isNameStart (c : Char) : Bool := c.isAlpha || c == '_'

/-- A name goes on with ASCII letters, digits and underscores. -/
def isNameChar (c : Char) : Bool := c.isAlphanum || c == '_'

/-- The names of a path. -/
@[ext] structure Path where
  head : String
  rest : List String
deriving DecidableEq, Repr

namespace Path

mutual

/-- Whether a name starts here and names and dots go on to the end. -/
def startsName : List Char → Bool
  | [] => false
  | c :: cs => isNameStart c && continuesName cs

/-- Whether the name before goes on to the end or to a dot with another name behind it. -/
def continuesName : List Char → Bool
  | [] => true
  | c :: cs => if c = '.' then startsName cs else isNameChar c && continuesName cs

end

/-- The pieces between the separators: the first one and the others. -/
def cutAt (separator : Char) : List Char → List Char × List (List Char)
  | [] => ([], [])
  | c :: cs =>
    let rest := cutAt separator cs
    if c = separator then ([], rest.1 :: rest.2) else (c :: rest.1, rest.2)

/-- Joining the pieces of a text gives the text. -/
theorem intercalate_cutAt (separator : Char) (cs : List Char) :
    [separator].intercalate ((cutAt separator cs).1 :: (cutAt separator cs).2) = cs := by
  induction cs with
  | nil => rfl
  | cons c cs ih =>
      simp only [cutAt]
      split
      · rename_i h
        rw [List.intercalate_cons_cons, ih, h]
        rfl
      · cases h : (cutAt separator cs).2 with
        | nil =>
            rw [h, List.intercalate_singleton] at ih
            rw [List.intercalate_singleton, ih]
        | cons next pieces =>
            rw [h, List.intercalate_cons_cons, List.append_assoc] at ih
            rw [List.intercalate_cons_cons, List.append_assoc, List.cons_append, ih]

/-- No piece holds the separator. -/
theorem not_mem_of_mem_cutAt (separator : Char) (cs : List Char) :
    ∀ piece ∈ (cutAt separator cs).1 :: (cutAt separator cs).2, separator ∉ piece := by
  induction cs with
  | nil => simp [cutAt]
  | cons c cs ih =>
      simp only [cutAt]
      split
      · simpa using ih
      · rename_i h
        simp only [List.mem_cons, forall_eq_or_imp, not_or] at ih ⊢
        exact ⟨⟨fun hc => h hc.symm, ih.1⟩, ih.2⟩

/-- The path that a text spells. -/
def ofString? (s : String) : Option Path :=
  let pieces := cutAt '.' s.toList
  if startsName s.toList then some ⟨.ofList pieces.1, pieces.2.map .ofList⟩ else none

/-- The names of a path in order. -/
def names (p : Path) : List String := p.head :: p.rest

/-- The text that spells a path. -/
def spelling (p : Path) : String := ".".intercalate p.names

/-- Goes from a value along names. If one of them selects nothing, the whole path `spelled` is
unbound. -/
def walk (host : Host) (spelled : String) (template : Title) :
    Value → List String → Except Fault Value
  | v, [] => .ok v
  | v, name :: names =>
    match host.select? v name with
    | some w => walk host spelled template w names
    | none => .error (.unbound spelled template)

/-- The value of a path in a context. -/
def resolve (host : Host) (p : Path) (ctx : Context) : Except Fault Value :=
  match ctx.lookup p.head with
  | .error fault => .error fault
  | .ok v => walk host p.spelling ctx.template v p.rest

/-- The text that a value puts into a slot; nothing is put there for `none`. -/
def filled (host : Host) : Value → String
  | .none => ""
  | v => host.shown v

/-- The part that writes the value of a path. -/
def part (host : Host) (p : Path) : Part := fun ctx =>
  Traced.ofExcept ((p.resolve host ctx).map (filled host))

/-- The advice for a slot that holds no path. -/
def hint : String := "slots hold a name or dotted path, e.g. <% user.name %>"

/-- Reads slots that hold a dotted path and refuses all others. -/
def reader (host : Host) : SlotReader := fun slot =>
  match ofString? slot.content with
  | some p => pure (p.part host)
  | none =>
    Traced.fail
      (.slotSyntax slot.start s!"invalid slot name {Text.quoted slot.content}" (some hint))

end Path

end Stencil

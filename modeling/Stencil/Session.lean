import Stencil.Compiled
import Stencil.Stream

/-!
# Sessions

A session runs commands one after the other. It keeps the supply of generated names and, under names
that the commands choose, the parsed templates, compiled templates and streams that later commands
go on with. A command that fails leaves them as they were; only a name that it drew stays drawn.
-/

namespace Stencil

/-- Things kept under names; the latest one under a name hides the earlier ones. -/
abbrev Shelf (α : Type) := List (String × α)

/-- What a session remembers between its commands. -/
structure Session where
  supply : NameSupply
  parsed : Shelf Parsed
  compiled : Shelf Compiled
  streams : Shelf Stream

namespace Session

/-- The session before its first command. -/
def fresh : Session := ⟨.fresh, [], [], []⟩

/-- What a session can be told to do. The name behind `into` is the one under which the result is
kept. -/
inductive Command where
  | drawName
  | scan (escape tab : Value) (text : String)
  | parse (source : Source) (into : String)
  | compile (parsed : String) (read : SlotReader) (recover : Option Recovery)
      (label : Option String) (into : String)
  | compileSource (source : Source) (read : SlotReader) (recover : Option Recovery)
      (into : String)
  | renderSource (source : Source) (read : SlotReader) (recover : Option Recovery)
      (filling : Filling)
  | render (compiled : String) (filling : Filling)
  | renderIn (compiled : String) (ctx : Context)
  | renderPart (compiled : String) (index : Int) (ctx : Context)
  | renderSlice (compiled : String) (first last : Int) (ctx : Context)
  | openStream (escape tab : Value) (text : String) (into : String)
  | pull (stream : String)

/-- What a command answers. -/
inductive Reply where
  | name (s : String)
  | segments (segments : List Segment)
  | parsed (p : Parsed)
  | compiled (c : Compiled)
  | output (s : String)
  | opened
  | pulled (segment : Option Segment)

/-- The thing kept under a name. -/
def find {α : Type} (shelf : Shelf α) (name : String) : Traced α :=
  match shelf.lookup name with
  | some a => pure a
  | none => Traced.fail (.noEntry name)

/-- Keeps a parsed template if there is one. -/
def keepParsed (s : Session) (into : String) (p : Traced Parsed) : Session :=
  match p.outcome with
  | .ok p => { s with parsed := (into, p) :: s.parsed }
  | .error _ => s

/-- Keeps a compiled template if there is one. -/
def keepCompiled (s : Session) (into : String) (c : Traced Compiled) : Session :=
  match c.outcome with
  | .ok c => { s with compiled := (into, c) :: s.compiled }
  | .error _ => s

/-- The place that a number means among `n` things in a row. A negative number counts from the end,
but not beyond the start. -/
def place (n : Nat) (i : Int) : Nat :=
  if i < 0 then (n + i).toNat else i.toNat

/-- The part at a place, if there is one. -/
def partAt? (parts : List Part) (i : Int) : Option Part :=
  if i < -parts.length then none else parts[place parts.length i]?

/-- The parts from one place up to another. -/
def slice (parts : List Part) (first last : Int) : List Part :=
  parts.extract (place parts.length first) (place parts.length last)

/-- Does one command. -/
def perform (s : Session) : Command → Traced Reply × Session
  | .drawName =>
    let (name, supply) := s.supply.draw
    (pure (.name name), { s with supply })
  | .scan escape tab text => (Reply.segments <$> Source.segments escape tab text, s)
  | .parse source into =>
    let (parsed, supply) := source.parse s.supply
    (Reply.parsed <$> parsed, { s with supply }.keepParsed into parsed)
  | .compile parsed read recover label into =>
    let compiled := find s.parsed parsed >>= fun p => p.compile read recover label
    (Reply.compiled <$> compiled, s.keepCompiled into compiled)
  | .compileSource source read recover into =>
    let (compiled, supply) := source.compile s.supply read recover
    (Reply.compiled <$> compiled, { s with supply }.keepCompiled into compiled)
  | .renderSource source read recover filling =>
    let (output, supply) := source.render s.supply read recover filling
    (Reply.output <$> output, { s with supply })
  | .render compiled filling =>
    (find s.compiled compiled >>= fun c => Reply.output <$> c.render filling, s)
  | .renderIn compiled ctx =>
    (find s.compiled compiled >>= fun c => Reply.output <$> c.renderIn ctx, s)
  | .renderPart compiled index ctx =>
    let part := find s.compiled compiled >>= fun c =>
      match partAt? c.parts index with
      | some part => part ctx
      | none => Traced.fail (.noEntry compiled)
    (Reply.output <$> part, s)
  | .renderSlice compiled first last ctx =>
    (find s.compiled compiled >>= fun c =>
      Reply.output <$> renderParts (slice c.parts first last) ctx, s)
  | .openStream escape tab text into =>
    (pure .opened, { s with streams := (into, .unchecked escape tab text) :: s.streams })
  | .pull stream =>
    match s.streams.lookup stream with
    | none => (Traced.fail (.noEntry stream), s)
    | some st =>
      let (step, st') := st.pull
      (Reply.pulled <$> step, { s with streams := (stream, st') :: s.streams })

/-- Does commands in order and lists their replies. -/
def performAll (s : Session) : List Command → List (Traced Reply) × Session
  | [] => ([], s)
  | c :: cs =>
    let (reply, s₁) := s.perform c
    let (replies, s₂) := performAll s₁ cs
    (reply :: replies, s₂)

theorem performAll_cons (s : Session) (c : Command) (cs : List Command) :
    s.performAll (c :: cs) =
      ((s.perform c).1 :: ((s.perform c).2.performAll cs).1, ((s.perform c).2.performAll cs).2) :=
  rfl

end Session

end Stencil

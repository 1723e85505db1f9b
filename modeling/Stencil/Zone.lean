/-!
# Zones and withheld characters

A template alternates between static text and slots. Either zone ends with its own delimiter, and
the escape character takes a delimiter's meaning away, or its own. A character that may begin a
delimiter or an escape is withheld until the next one shows what it is.
-/

namespace Stencil

/-- The delimiter that opens a slot. -/
def openDelimiter : List Char := ['<', '%']

/-- The delimiter that closes a slot. -/
def closeDelimiter : List Char := ['%', '>']

/-- What the reader of a template is in the middle of. -/
inductive Zone where
  | static
  | slot
deriving DecidableEq, Repr

/-- What one piece of text brings about: the characters that are released into the content, those
that stay withheld, and whether the delimiter of the zone is complete. -/
@[ext] structure Reaction where
  released : List Char
  held : List Char
  found : Bool
deriving DecidableEq, Repr

namespace Zone

/-- The zone on the other side of the delimiter. -/
def other : Zone → Zone
  | static => slot
  | slot => static

/-- The delimiter that ends the zone. -/
def delimiter : Zone → List Char
  | static => openDelimiter
  | slot => closeDelimiter

/-- The first character of the delimiter. -/
def lead : Zone → Char
  | static => '<'
  | slot => '%'

/-- The character that completes the delimiter. -/
def follow : Zone → Char
  | static => '%'
  | slot => '>'

theorem delimiter_eq (z : Zone) : z.delimiter = [z.lead, z.follow] := by
  cases z <;> rfl

/-- Feeds one piece of text to the withheld characters. The escapes are the same in both zones: a
doubled escape character stands for itself, an escaped delimiter for the delimiter, and any other
sequence for all of its characters. Whatever else is withheld counts as the lead of the delimiter,
which only its follower completes. -/
def feed (z : Zone) (escape held piece : List Char) : Reaction :=
  if held = [] then
    if piece = escape ∨ piece = [z.lead] then ⟨[], piece, false⟩ else ⟨piece, [], false⟩
  else if held = escape then
    if piece = escape then ⟨escape, [], false⟩
    else if piece = ['<'] ∨ piece = ['%'] then ⟨[], held ++ piece, false⟩
    else ⟨held ++ piece, [], false⟩
  else if held = escape ++ ['<'] then
    if piece = ['%'] then ⟨openDelimiter, [], false⟩ else ⟨held ++ piece, [], false⟩
  else if held = escape ++ ['%'] then
    if piece = ['>'] then ⟨closeDelimiter, [], false⟩ else ⟨held ++ piece, [], false⟩
  else if piece = [z.follow] then ⟨[], [], true⟩
  else ⟨held ++ piece, [], false⟩

end Zone

end Stencil

/-!
# Generated names

Templates without a name get a generated one. The names of one supply are numbered in the order in
which they are drawn.
-/

namespace Stencil

/-- A supply that remembers how many names were drawn from it. -/
@[ext] structure NameSupply where
  drawn : Nat
deriving DecidableEq, Repr

namespace NameSupply

/-- The supply from which no name was drawn. -/
def fresh : NameSupply := ⟨0⟩

/-- The generated name with a number. -/
def numbered (n : Nat) : String := s!"template__{n}"

/-- Draws the next name. -/
def draw (supply : NameSupply) : String × NameSupply :=
  (numbered (supply.drawn + 1), ⟨supply.drawn + 1⟩)

/-- The given name, or the next generated one if none is given or it is empty. -/
def nameFor (supply : NameSupply) : Option String → String × NameSupply
  | none => supply.draw
  | some name => if name = "" then supply.draw else (name, supply)

end NameSupply

end Stencil

import Stencil.Parsed

/-!
# Parsing a text in a dialect

Every dialect can be asked for by the values of its escape character and its tab width, so a source
with a text and those options is always parsed, whatever the text is. Its title is the name that it
brings along, or else a generated one.
-/

namespace Stencil

/-- The source of a text whose options ask for a dialect. -/
def Source.inDialect (d : Dialect) (text : String) (name : Option String) : Source :=
  ⟨.text text, name, .text (String.singleton d.escape), .int d.tab⟩

/-- A title is the given name unless that is missing or empty, else the next generated one. -/
inductive Titled (supply : NameSupply) : Option String → String → Prop where
  | given {name : String} : name ≠ "" → Titled supply (some name) name
  | missing : Titled supply none (NameSupply.numbered (supply.drawn + 1))
  | empty : Titled supply (some "") (NameSupply.numbered (supply.drawn + 1))

theorem Titled.nameFor (supply : NameSupply) (name : Option String) :
    Titled supply name (supply.nameFor name).1 := by
  cases name with
  | none => exact .missing
  | some name =>
      by_cases h : name = ""
      · subst h
        exact .empty
      · simp only [NameSupply.nameFor, if_neg h]
        exact .given h

theorem Titled.eq_nameFor {supply : NameSupply} {name : Option String} {title : String}
    (h : Titled supply name title) : title = (supply.nameFor name).1 := by
  cases h with
  | given nonempty => simp [NameSupply.nameFor, nonempty]
  | missing => rfl
  | empty => rfl

theorem NameSupply.numbered_ne_empty (n : Nat) : numbered n ≠ "" := by
  intro h
  have length := congrArg String.length h
  simp [numbered] at length

namespace Dialect

theorem checkEscape_singleton (d : Dialect) :
    checkEscape (.text (String.singleton d.escape)) =
      .ok ⟨d.escape, d.escape_free, d.escape_visible⟩ := by
  simp [checkEscape, d.escape_free, d.escape_visible]

theorem checkTab_int (d : Dialect) : checkTab (.int d.tab) = .ok ⟨d.tab, d.one_le_tab⟩ := by
  simp [checkTab, d.one_le_tab]

/-- The options of a dialect are accepted and give that dialect. -/
theorem check_options (d : Dialect) :
    check (.text (String.singleton d.escape)) (.int d.tab) = .ok d := by
  rw [check, checkEscape_singleton, checkTab_int]

end Dialect

namespace Source

theorem check_inDialect (d : Dialect) (text : String) (name : Option String) :
    (inDialect d text name).check = .ok (text, d) := by
  simp only [inDialect, check, d.check_options]
  rfl

/-- Parsing such a source keeps or draws a name and reads the segments of the text. -/
theorem parse_inDialect (d : Dialect) (text : String) (name : Option String)
    (supply : NameSupply) :
    (inDialect d text name).parse supply =
      (⟨(d.segments text).filterMap Event.ofSegment?,
        .ok ⟨(supply.nameFor name).1, d.segments text⟩⟩, (supply.nameFor name).2) := by
  rw [parse, check_inDialect]
  simp only [Traced.map_eq]
  rfl

end Source

end Stencil

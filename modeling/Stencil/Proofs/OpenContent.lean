import Stencil.Proofs.EscapeParity

/-!
# The content that is still open

Between two delimiters, reading takes the text apart into words. A word is complete as soon as
nothing is withheld any more, and then it gets into the content, without the escape character that
an escape sequence begins with. So at every moment the text since the start of the open content is
known from the words that were completed and from what is withheld. Main statement: wherever reading
stands, one of five sequences is withheld, and the open content is made of the words of its text and
of nothing else.

## Implementation notes

Words are noted down while reading goes on and do not take part in it. They are the sequences that
the reader takes as complete, and not the ones that a grammar would find in the text.
-/

namespace Stencil

open Segmentation

namespace Zone

/-- The beginnings of tokens that a zone can withhold. -/
def beginnings (e : Char) (z : Zone) : List (List Char) :=
  [[], [e], [z.lead], [e, '<'], [e, '%']]

/-- What is withheld belongs to none of the cases that are asked for before the last one. -/
def LastCase (escape held : List Char) : Prop :=
  held ≠ [] ∧ held ≠ escape ∧ held ≠ escape ++ ['<'] ∧ held ≠ escape ++ ['%']

theorem withheld_iff_mem_beginnings {e : Char} {z : Zone} {w : List Char} :
    Withheld e z w ↔ w ∈ z.beginnings e := by
  constructor
  · intro h
    cases h with
    | nothing => simp [beginnings]
    | escape => simp [beginnings]
    | escapedLead y => cases y <;> simp [beginnings, lead]
    | lead => simp [beginnings]
  · intro member
    simp only [beginnings, List.mem_cons, List.not_mem_nil, or_false] at member
    rcases member with rfl | rfl | rfl | rfl | rfl
    · exact .nothing
    · exact .escape
    · exact .lead
    · exact .escapedLead .static
    · exact .escapedLead .slot

variable {d : Dialect} {z : Zone} {w : List Char} {c : Char}

theorem nodup_beginnings (d : Dialect) (z : Zone) : (z.beginnings d.escape).Nodup := by
  have lead := d.escape_ne_lead z
  simp [beginnings, lead]

/-- The last case is there for the lead of the delimiter only. -/
theorem lastCase_iff (h : Withheld d.escape z w) : LastCase [d.escape] w ↔ w = [z.lead] := by
  constructor
  · rintro ⟨some, escape, opener, closer⟩
    cases h with
    | nothing => exact absurd rfl some
    | escape => exact absurd rfl escape
    | escapedLead y =>
        cases y with
        | static => exact absurd rfl opener
        | slot => exact absurd rfl closer
    | lead => rfl
  · rintro rfl
    have lead := (d.escape_ne_lead z).symm
    simp [LastCase, lead]

/-- A character that finds the reader in the last case is compared with the follower only. -/
theorem feed_of_lastCase {escape held : List Char} (last : LastCase escape held) (z : Zone)
    (piece : List Char) :
    z.feed escape held piece =
      if piece = [z.follow] then ⟨[], [], true⟩ else ⟨held ++ piece, [], false⟩ := by
  obtain ⟨some, escape, opener, closer⟩ := last
  rw [feed, if_neg some, if_neg escape, if_neg opener, if_neg closer]

end Zone

namespace Segmentation.State

/-- The words that are completed while some characters are read. Each time that nothing is withheld
any more, what was withheld and the character that came to it are a word. -/
def words (d : Dialect) (s : State) : List Char → List (List Char)
  | [] => []
  | c :: cs =>
    let next := (s.read d c).1
    (if next.held = [] then [s.held ++ [c]] else []) ++ words d next cs

variable {d : Dialect} {s : State}

theorem words_cons (c : Char) (cs : List Char) :
    s.words d (c :: cs) =
      (if (s.read d c).1.held = [] then [s.held ++ [c]] else []) ++ (s.read d c).1.words d cs := rfl

/-- One character ends the zone, goes on with what is withheld, or completes a word, which gets
into the content. -/
theorem read_word_cases (h : Withheld d.escape s.zone s.held) (c : Char) :
    (s.held = [s.zone.lead] ∧ c = s.zone.follow ∧
      s.read d c = (s.crossed d [c], some (s.zone.segment s.content s.start))) ∨
    s.read d c = (⟨s.zone, s.held ++ [c], s.content, s.start, s.here.after d.tab c⟩, none) ∨
    s.read d c = (⟨s.zone, [], s.content ++ .ofList (unescaped d.escape (s.held ++ [c])), s.start,
      s.here.after d.tab c⟩, none) := by
  rcases Zone.feed_cases h c with ⟨lead, follow, closed⟩ | ⟨_, waits⟩ | settled
  · refine .inl ⟨lead, follow, ?_⟩
    simp [read, closed, crossed]
  · refine .inr (.inl ?_)
    simp [read, waits]
  · refine .inr (.inr ?_)
    simp [read, settled]

/-- As long as no delimiter is complete, what was withheld and the characters that are read are the
completed words and what is withheld now, and the words have got into the content. -/
theorem readAll_words (h : Withheld d.escape s.zone s.held) {cs : List Char}
    (inner : (s.readAll d cs).2 = []) :
    s.held ++ cs = (s.words d cs).flatten ++ (s.readAll d cs).1.held ∧
    (s.readAll d cs).1.content =
      s.content ++ .ofList ((s.words d cs).flatMap (unescaped d.escape)) := by
  induction cs generalizing s with
  | nil => simp [words]
  | cons c cs ih =>
      rw [readAll_cons] at inner ⊢
      obtain ⟨here, later⟩ := List.append_eq_nil_iff.mp inner
      obtain ⟨source, content⟩ := ih (withheld_read h c) later
      rw [words_cons, List.flatten_append, List.flatMap_append, List.append_assoc, ← source,
        content]
      rcases read_word_cases h c with ⟨_, _, closed⟩ | waits | settled
      · simp [closed] at here
      · simp [waits]
      · simp [settled, String.ofList_append, String.append_assoc]

/-- Wherever reading stands, the open content began behind a part of the text, with nothing
withheld, and no delimiter is complete since. -/
theorem exists_opening (d : Dialect) (cs : List Char) :
    ∃ before source z, cs = before ++ source ∧
      (initial.readAll d before).1 = opening d z before ∧
      (opening d z before).readAll d source = ((initial.readAll d cs).1, []) ∧
      (initial.readAll d cs).1.start = .behind d.tab before := by
  induction cs using List.reverseRecOn with
  | nil => exact ⟨[], [], .static, rfl, rfl, rfl, rfl⟩
  | append_singleton cs c ih =>
      obtain ⟨before, source, z, cut, opened, run, start⟩ := ih
      rw [readAll_concat]
      rcases read_cases d (initial.readAll d cs).1 c with
        ⟨content, closed⟩ | ⟨held, content, inner⟩
      · rw [readAll_initial_here, ← Location.behind_concat] at closed
        refine ⟨cs ++ [c], [], (initial.readAll d cs).1.zone.other, (List.append_nil _).symm,
          ?_, ?_, ?_⟩
        · rw [readAll_concat, closed]
          rfl
        · rw [closed]
          rfl
        · rw [closed]
      · refine ⟨before, source ++ [c], z, ?_, opened, ?_, ?_⟩
        · rw [cut, List.append_assoc]
        · rw [readAll_concat, run, inner]
          rfl
        · rw [inner]
          exact start

/-- The zone changes only behind a complete delimiter, and then the other zone begins empty. -/
theorem read_of_zone_ne {c : Char} (changed : (s.read d c).1.zone ≠ s.zone) :
    (s.read d c).1 = s.crossed d [c] := by
  rcases read_cases d s c with ⟨content, closed⟩ | ⟨held, content, inner⟩
  · rw [closed]
    rfl
  · rw [inner] at changed
    exact absurd rfl changed

theorem read_zone_ne_iff (h : Withheld d.escape s.zone s.held) (c : Char) :
    (s.read d c).1.zone ≠ s.zone ↔ s.held = [s.zone.lead] ∧ c = s.zone.follow := by
  constructor
  · intro changed
    rcases read_word_cases h c with ⟨lead, follow, _⟩ | waits | settled
    · exact ⟨lead, follow⟩
    · rw [waits] at changed
      exact absurd rfl changed
    · rw [settled] at changed
      exact absurd rfl changed
  · rintro ⟨lead, follow⟩
    have closed : s.zone.feed [d.escape] s.held [c] = ⟨[], [], true⟩ := by
      rw [lead, follow, Zone.feed_lead_follow]
    have other : s.zone.other ≠ s.zone := by cases s.zone <;> decide
    simp [read, closed, other]

end Segmentation.State

namespace Dialect

variable (d : Dialect) (text : String)

/-- The characters in front of the open content. -/
def closedText : List Char := text.toList.take ((d.stateBehind text).start.offset - 1).toNat

/-- The characters since the open content began. -/
def openText : List Char := text.toList.drop ((d.stateBehind text).start.offset - 1).toNat

/-- The words that were completed since the open content began. -/
def openWords : List (List Char) :=
  (d.stateBehind (.ofList (d.closedText text))).words d (d.openText text)

/-- The open content and what is withheld come from the text since the open content began, in
words. -/
theorem openText_eq :
    d.openText text = (d.openWords text).flatten ++ (d.stateBehind text).held ∧
    (d.stateBehind text).content.toList =
      (d.openWords text).flatMap (unescaped d.escape) := by
  obtain ⟨before, source, z, cut, opened, run, start⟩ := State.exists_opening d text.toList
  have length : ((d.stateBehind text).start.offset - 1).toNat = before.length := by
    rw [stateBehind, start]
    simp only [Location.behind]
    omega
  have front : d.stateBehind (.ofList (d.closedText text)) = .opening d z before := by
    rw [closedText, length, cut, List.take_left, stateBehind, String.toList_ofList, opened]
  have rest : d.openText text = source := by
    rw [openText, length, cut, List.drop_left]
  have inner : ((State.opening d z before).readAll d source).2 = [] := by rw [run]
  obtain ⟨words, content⟩ := State.readAll_words .nothing inner
  rw [run] at words content
  have collected : (d.stateBehind text).content =
      .ofList (((State.opening d z before).words d source).flatMap (unescaped d.escape)) :=
    content.trans String.empty_append
  rw [collected, String.toList_ofList, openWords, front, rest]
  exact ⟨words, rfl⟩

end Dialect

/-- Behind whatever text reading stands, one of five different sequences is withheld, and only the
lead of the delimiter gets as far as the last case of the table, where only the follower counts. The
zone changes where the follower comes to this lead, and then nothing is withheld and nothing
collected. The text since the open content began consists of the words that were completed and of
what is withheld, and the content consists of the same words, without the first character of each
doubled escape and of each escaped delimiter. -/
theorem Dialect.stateBehind_accounted (d : Dialect) (text : String) :
    let s := d.stateBehind text
    let words := d.openWords text
    (s.held ∈ s.zone.beginnings d.escape ∧ (s.zone.beginnings d.escape).Nodup) ∧
    (Zone.LastCase [d.escape] s.held ↔ s.held = [s.zone.lead]) ∧
    (Zone.LastCase [d.escape] s.held → ∀ piece, s.zone.feed [d.escape] s.held piece =
      if piece = [s.zone.follow] then ⟨[], [], true⟩ else ⟨s.held ++ piece, [], false⟩) ∧
    (∀ c, let next := d.stateBehind (text.push c)
      (next.zone ≠ s.zone ↔ s.held = [s.zone.lead] ∧ c = s.zone.follow) ∧
      (next.zone ≠ s.zone → next.held = [] ∧ next.content = "")) ∧
    d.openText text = words.flatten ++ s.held ∧
    s.content.toList = words.flatMap (unescaped d.escape) := by
  intro s words
  have withheld := d.withheld_stateBehind text
  refine ⟨⟨Zone.withheld_iff_mem_beginnings.mp withheld, Zone.nodup_beginnings d s.zone⟩,
    Zone.lastCase_iff withheld, ?_, ?_, d.openText_eq text⟩
  · intro last piece
    exact Zone.feed_of_lastCase last s.zone piece
  · intro c next
    have step : next = (s.read d c).1 := d.stateBehind_push text c
    rw [step]
    refine ⟨State.read_zone_ne_iff withheld c, ?_⟩
    intro changed
    rw [State.read_of_zone_ne changed]
    exact ⟨rfl, rfl⟩

/-- A text that breaks off in an escape sequence, behind an escape sequence of either form and a
lead that takes the escape character along, and the two characters that end the slot in this
text. -/
theorem Dialect.stateBehind_accounted_escapes :
    let text := "a<%x%>b\\\\\\<%<\\c\\%"
    let words := [['b'], ['\\', '\\'], ['\\', '<', '%'], ['<', '\\'], ['c']]
    let inner := standard.stateBehind "a<%x%"
    let next := standard.stateBehind ("a<%x%".push '>')
    (standard.openText text = words.flatten ++ ['\\', '%'] ∧
      (standard.stateBehind text).content.toList = words.flatMap (unescaped '\\')) ∧
    (Zone.LastCase ['\\'] inner.held ∧
      inner.zone.feed ['\\'] inner.held ['>'] = ⟨[], [], true⟩) ∧
    (next.zone ≠ inner.zone ∧ next.held = [] ∧ next.content = "") := by
  intro text words inner next
  obtain ⟨_, _, _, _, source, content⟩ := stateBehind_accounted standard text
  obtain ⟨_, lastCase, last, changes, _⟩ := stateBehind_accounted standard "a<%x%"
  have completed : standard.openWords text = words := by decide
  have withheld : (standard.stateBehind text).held = ['\\', '%'] := by decide
  have lead : inner.held = [inner.zone.lead] := by decide
  have changed : next.zone ≠ inner.zone := by decide
  rw [completed, withheld] at source
  rw [completed] at content
  exact ⟨⟨source, content⟩, ⟨lastCase.mpr lead, last (lastCase.mpr lead) ['>']⟩, changed,
    (changes '>').2 changed⟩

end Stencil

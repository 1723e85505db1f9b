import Stencil.Proofs.Continuation
import Stencil.Proofs.PathRendering
import Stencil.Sample.Script
import Stencil.Sample.Template

/-!
# Sample templates are sound

What holds of every template that can be drawn, whatever numbers its source of randomness gives. A
drawn piece of static text leaves nothing open, and the backslashes that are cut off behind the last
piece are escaped ones together with their escapes. So no static text touches the slots around it.
Main statement: a sample is read as its slots and the static texts around them, its slots hold
exactly its names, and it can be compiled, and rendered wherever its names are bound.

## Implementation notes

`Always` ranges over all states of all sources of randomness, so each draw may give each of its
results. Nothing is said about how often it does.
-/

namespace Stencil.Sample

section Drawing

variable {σ α β : Type} {P : α → Prop} {Q : β → Prop}

/-- The result of a draw has a property, whatever state the draw begins in. -/
def Always (draw : StateM σ α) (P : α → Prop) : Prop :=
  ∀ s, P (draw.run s).1

namespace Always

theorem pure {a : α} (h : P a) : Always (pure a : StateM σ α) P :=
  fun _ => h

theorem any (draw : StateM σ α) : Always draw fun _ => True :=
  fun _ => trivial

theorem bind {draw : StateM σ α} {next : α → StateM σ β} (first : Always draw P)
    (later : ∀ a, P a → Always (next a) Q) : Always (draw >>= next) Q := by
  intro s
  exact later _ (first s) (draw.run s).2

theorem mono {draw : StateM σ α} {R : α → Prop} (h : Always draw P) (weaker : ∀ a, P a → R a) :
    Always draw R :=
  fun s => weaker _ (h s)

/-- One of some elements has a property if they all have it. -/
theorem pick [DrawSource σ] {first : α} {others : List α} (h : ∀ a ∈ first :: others, P a) :
    Always (pick first others : StateM σ α) P := by
  refine bind (any (DrawSource.upTo others.length)) ?_
  intro i _
  exact pure (h _ (List.getElem_mem _))

/-- The results of draws in a row have a property if the result of each draw has it. -/
theorem times {draw : StateM σ α} (h : Always draw P) (n : Nat) :
    Always (times n draw) fun as => ∀ a ∈ as, P a := by
  induction n with
  | zero => exact pure nofun
  | succ n ih =>
      refine bind h ?_
      intro a first
      refine bind ih ?_
      intro as others
      exact pure (List.forall_mem_cons.mpr ⟨first, others⟩)

end Always

end Drawing

theorem dropLastBackslashes_append_pair (cs : List Char) :
    dropLastBackslashes (cs ++ ['\\', '\\']) = dropLastBackslashes cs := by
  simp [dropLastBackslashes]

theorem dropLastBackslashes_eq_self {cs : List Char} (last : cs.getLast? ≠ some '\\') :
    dropLastBackslashes cs = cs := by
  have back : cs.reverse.dropWhile (· == '\\') = cs.reverse := by
    apply Text.dropWhile_eq_self
    intro c head
    rw [List.head?_reverse] at head
    rw [beq_eq_false_iff_ne]
    rintro rfl
    exact last head
  rw [dropLastBackslashes, back, List.reverse_reverse]

/-- A piece of static text that leaves nothing open. If it ends in a backslash, it is an escaped
backslash and nothing else. -/
structure Whole (cs : List Char) : Prop where
  phrase : ∃ m, Phrase '\\' .static cs m
  last : cs = ['\\', '\\'] ∨ cs.getLast? ≠ some '\\'

/-- Whether a character begins neither an escape nor the opener of a slot. -/
def isPlain (c : Char) : Bool := c != '\\' && c != Zone.static.lead

namespace Whole

theorem of_plain {cs : List Char} (plain : ∀ c ∈ cs, isPlain c = true) : Whole cs := by
  have free : ∀ c ∈ cs, c ≠ '\\' ∧ c ≠ Zone.static.lead := by
    intro c member
    simpa [isPlain] using plain c member
  refine ⟨⟨cs, .of_plain free⟩, .inr ?_⟩
  intro last
  exact (free '\\' (List.mem_of_getLast? last)).1 rfl

theorem of_token {t : Token} (complete : t.Complete '\\' .static) (inner : t ≠ .boundary)
    (last : t.spelling '\\' .static = ['\\', '\\'] ∨
      (t.spelling '\\' .static).getLast? ≠ some '\\') : Whole (t.spelling '\\' .static) :=
  ⟨⟨_, .single complete inner⟩, last⟩

/-- Each pitfall is one token or plain text. -/
theorem of_pitfall {cs : List Char} (h : cs ∈ escapedOpen :: laterPitfalls) : Whole cs := by
  have opener : Whole "\\<%".toList :=
    of_token (t := .escaped openDelimiter) (.delimiter .static) nofun (by decide)
  have closer : Whole "\\%>".toList :=
    of_token (t := .escaped closeDelimiter) (.delimiter .slot) nofun (by decide)
  have backslash : Whole "\\\\".toList :=
    of_token (t := .escaped ['\\']) .escape nofun (by decide)
  have letter : Whole "\\x".toList :=
    of_token (t := .plain ['\\', 'x']) (.escapedPlain (by decide) (by rintro ⟨⟩ <;> decide)) nofun
      (by decide)
  have lead : Whole "<x".toList :=
    of_token (t := .plain ['<', 'x']) (.lead (z := .static) (by decide)) nofun (by decide)
  simp only [escapedOpen, laterPitfalls, List.mem_cons, List.not_mem_nil, or_false] at h
  rcases h with rfl | rfl | rfl | rfl | rfl | rfl | rfl | rfl | rfl
  · exact opener
  · exact closer
  · exact backslash
  · exact letter
  · exact of_plain (List.all_eq_true.mp (by decide))
  · exact of_plain (List.all_eq_true.mp (by decide))
  · exact of_plain (List.all_eq_true.mp (by decide))
  · exact lead
  · exact of_plain (List.all_eq_true.mp (by decide))

variable {pieces : List (List Char)}

/-- Whole pieces in a row leave nothing open. -/
theorem exists_phrase_flatten (h : ∀ cs ∈ pieces, Whole cs) :
    ∃ m, Phrase '\\' .static pieces.flatten m := by
  induction pieces with
  | nil => exact ⟨[], .nil⟩
  | cons cs pieces ih =>
      obtain ⟨first, others⟩ := List.forall_mem_cons.mp h
      obtain ⟨m, phrase⟩ := first.phrase
      obtain ⟨n, rest⟩ := ih others
      exact ⟨m ++ n, phrase.append rest⟩

/-- Whole pieces in a row leave nothing open without the backslashes at their end either: these are
escaped ones, and each is dropped with its escape, so that the pieces in front of it decide. -/
theorem exists_phrase_dropLastBackslashes (h : ∀ cs ∈ pieces, Whole cs) :
    ∃ m, Phrase '\\' .static (dropLastBackslashes pieces.flatten) m := by
  induction pieces using List.reverseRecOn with
  | nil => exact ⟨[], .nil⟩
  | append_singleton pieces cs ih =>
      have front := ih fun piece member => h piece (List.mem_append_left _ member)
      have all := exists_phrase_flatten h
      have back : Whole cs := h cs (List.mem_append_right _ (List.mem_singleton_self cs))
      rw [List.flatten_append, List.flatten_singleton] at all ⊢
      rcases back.last with rfl | last
      · rwa [dropLastBackslashes_append_pair]
      · by_cases empty : cs = []
        · rwa [empty, List.append_nil]
        · rwa [dropLastBackslashes_eq_self]
          rwa [List.getLast?_append_of_ne_nil _ empty]

end Whole

/-- A name with some padding on either side. -/
def padded (name : List Char) (padding : Nat) : List Char :=
  List.replicate padding ' ' ++ name ++ List.replicate padding ' '

theorem slotText_eq (name : List Char) (padding : Nat) :
    slotText name padding = openDelimiter ++ padded name padding ++ closeDelimiter := by
  simp [slotText, padded, openDelimiter, closeDelimiter]

section Padded

variable {name : List Char} (chars : NameChars name) (padding : Nat)
include chars

/-- The padding is trimmed off a name. -/
theorem trim_padded : Text.trim (.ofList (padded name padding)) = .ofList name := by
  have blank : ∀ c ∈ List.replicate padding ' ', Text.isBlank c = true :=
    List.forall_mem_replicate.mpr (.inr (by decide))
  have visible : ∀ c ∈ name, Text.isBlank c = false := by
    intro c member
    exact isBlank_of_isNameChar (chars.forall_isNameChar c member)
  have trimmed : Text.trimBoth Text.isBlank (padded name padding) = name :=
    calc
      Text.trimBoth Text.isBlank (padded name padding) =
          Text.trimBoth Text.isBlank (List.replicate padding ' ' ++ name) :=
        Text.trimBoth_append_blank blank _
      _ = Text.trimBoth Text.isBlank name := Text.trimBoth_blank_append blank name
      _ = name := Text.trimBoth_eq_self visible
  rw [Text.trim, String.toList_ofList, trimmed]

/-- A padded name holds neither an escape nor the beginning of a delimiter. -/
theorem phrase_padded : Phrase '\\' .slot (padded name padding) (padded name padding) := by
  have blank : Phrase '\\' .slot (List.replicate padding ' ') (List.replicate padding ' ') := by
    apply Phrase.of_plain
    exact List.forall_mem_replicate.mpr (.inr (by decide))
  have inner : Phrase '\\' .slot name name := by
    apply Phrase.of_plain
    intro c member
    have char := chars.forall_isNameChar c member
    constructor
    · rintro rfl
      exact absurd char (by decide)
    · rintro rfl
      exact absurd char (by decide)
  exact (blank.append inner).append blank

end Padded

/-- A slot with a name in it, and static text behind it that leaves nothing open. -/
inductive SlotAndText : List Char × List Char → Prop where
  | mk {name cs m : List Char} (padding : Nat) :
      NameChars name → Phrase '\\' .static cs m →
      SlotAndText (slotText name padding ++ cs, name)

section Draws

variable {σ : Type} [DrawSource σ]

theorem name_always : Always (name : StateM σ (List Char)) NameChars := by
  have starts : ∀ c ∈ 'a' :: laterNameStarts, isNameStart c = true :=
    List.all_eq_true.mp (by decide)
  have goesOn : ∀ c ∈ 'a' :: laterNameChars, isNameChar c = true :=
    List.all_eq_true.mp (by decide)
  refine .bind (.pick starts) ?_
  intro head start
  refine .bind (.any (DrawSource.upTo 8)) ?_
  intro n _
  refine .bind (.times (.pick goesOn) n) ?_
  intro tail rest
  exact .pure (.mk start rest)

theorem piece_always : Always (piece : StateM σ (List Char)) Whole := by
  have plain : ∀ c ∈ 'a' :: laterPlainChars, isPlain c = true :=
    List.all_eq_true.mp (by decide)
  refine .bind (.any DrawSource.part) ?_
  intro r _
  split
  · exact .pick fun _ => Whole.of_pitfall
  · refine .bind (.any (DrawSource.upTo 12)) ?_
    intro n _
    exact .mono (.times (.pick plain) n) fun _ => Whole.of_plain

theorem staticText_always :
    Always (staticText : StateM σ (List Char)) fun cs => ∃ m, Phrase '\\' .static cs m := by
  refine .bind (.any (DrawSource.upTo 4)) ?_
  intro n _
  refine .bind (.times piece_always n) ?_
  intro pieces whole
  exact .pure (Whole.exists_phrase_dropLastBackslashes whole)

theorem slotAndText_always :
    Always (slotAndText : StateM σ (List Char × List Char)) SlotAndText := by
  refine .bind name_always ?_
  intro name chars
  refine .bind (.any (DrawSource.upTo 2)) ?_
  intro padding _
  refine .bind staticText_always ?_
  rintro cs ⟨m, phrase⟩
  exact .pure (.mk padding chars phrase)

end Draws

/-- Static texts with slots between them that hold the given names. -/
inductive NamedSlots : List String → List Segment → Prop where
  | last (content : String) (start : Location) : NamedSlots [] [.static content start]
  | slot (content : String) (start inside : Location) {name : String} {names : List String}
      {segments : List Segment} :
      NamedSlots names segments →
      NamedSlots (name :: names) (.static content start :: ⟨.slot, name, inside⟩ :: segments)

namespace NamedSlots

variable {names : List String} {segments : List Segment}

theorem closed (h : NamedSlots names segments) : ∀ s ∈ segments, s.kind ≠ .error := by
  induction h with
  | last content start => simp [Segment.static]
  | slot content start inside _ ih => simpa [Segment.static] using ih

theorem length_eq (h : NamedSlots names segments) : segments.length = 2 * names.length + 1 := by
  induction h with
  | last content start => rfl
  | slot content start inside _ ih =>
      simp only [List.length_cons, ih]
      omega

theorem slots_eq (h : NamedSlots names segments) :
    (segments.filter (·.isSlot)).map (·.content) = names := by
  induction h with
  | last content start => rfl
  | slot content start inside _ ih => simpa [Segment.static, Segment.isSlot] using ih

theorem content_mem (h : NamedSlots names segments) {s : Segment} (member : s ∈ segments)
    (kind : s.kind = .slot) : s.content ∈ names := by
  rw [← h.slots_eq]
  exact List.mem_map_of_mem (List.mem_filter.mpr ⟨member, by simp [Segment.isSlot, kind]⟩)

end NamedSlots

/-- Slots with static text around them are read as those slots, whatever is in front. Behind the
closer of a slot, reading goes on in the text that was drawn with it. -/
theorem exists_pieces {d : Dialect} (backslash : d.escape = '\\')
    {slots : List (List Char × List Char)} (h : ∀ slot ∈ slots, SlotAndText slot)
    {first m : List Char} (phrase : Phrase '\\' .static first m) (before : List Char) :
    ∃ segments, Pieces d before .static (first ++ slots.flatMap (·.1)) segments ∧
      NamedSlots (slots.map fun slot => .ofList slot.2) segments := by
  induction slots generalizing first m before with
  | nil =>
      rw [← backslash] at phrase
      refine ⟨_, ?_, .last (.ofList m) (.behind d.tab before)⟩
      simpa using Pieces.of_phrase phrase before
  | cons slot slots ih =>
      obtain ⟨here, later⟩ := List.forall_mem_cons.mp h
      obtain @⟨name, cs, n, padding, chars, text⟩ := here
      have inner := phrase_padded chars padding
      obtain ⟨segments, pieces, named⟩ := ih later text
        (before ++ first ++ openDelimiter ++ padded name padding ++ closeDelimiter)
      rw [← backslash] at phrase inner
      have whole := Pieces.closed phrase (z := .static) (.closed inner pieces)
      have content : ∀ start, Zone.slot.segment (.ofList (padded name padding)) start =
          ⟨.slot, .ofList name, start⟩ := by
        intro start
        rw [Zone.segment, Segment.slot, trim_padded chars padding]
      rw [Zone.other, content] at whole
      have split : first ++ ((slotText name padding ++ cs, name) :: slots).flatMap (·.1) =
          first ++ openDelimiter ++
            (padded name padding ++ closeDelimiter ++ (cs ++ slots.flatMap (·.1))) := by
        simp [slotText_eq]
      rw [split]
      exact ⟨_, whole, .slot _ _ _ named⟩

section Filled

variable {host : Host} {ctx : Context} {names : List String} {segments : List Segment}

/-- A slot with a name that is bound has something to write. -/
theorem exists_writes {s : Segment} (kind : s.kind = .slot) (chars : NameChars s.content.toList)
    (binds : ctx.binds s.content = true) : ∃ text, s.Writes host ctx.providers text := by
  rw [← Context.find?_isSome, Option.isSome_iff_exists] at binds
  obtain ⟨v, found⟩ := binds
  have spells := Path.spells_of_nameChars chars
  have denotes : (⟨s.content, []⟩ : Path).Denotes host ctx.providers v :=
    ⟨v, Context.find?_eq_some_iff.mp found, .stop v⟩
  by_cases nothing : v = .none
  · rw [nothing] at denotes
    exact ⟨"", .empty kind spells denotes⟩
  · exact ⟨host.shown v, .value kind spells denotes nothing⟩

/-- Segments with named slots can be rendered wherever the names are bound. -/
theorem exists_render (named : NamedSlots names segments)
    (chars : ∀ name ∈ names, NameChars name.toList)
    (binds : ∀ name ∈ names, ctx.binds name = true) :
    ∃ text, (renderParts (segments.map (Segment.pathPart host)) ctx).outcome = .ok text := by
  have writes : ∀ s ∈ segments, ∃ text, s.Writes host ctx.providers text := by
    intro s member
    cases kind : s.kind with
    | static => exact ⟨s.content, .static kind⟩
    | error => exact absurd kind (named.closed s member)
    | slot =>
        have inside := named.content_mem member kind
        exact exists_writes kind (chars s.content inside) (binds s.content inside)
  obtain ⟨texts, written⟩ := exists_forall₂ writes
  rw [renderParts_of_ok (Rendering.forall₂_written written)]
  exact ⟨_, rfl⟩

end Filled

/-- What a template promises in a dialect: it is read without an error, as its slots and the static
texts around them; its slots hold its names, which the reader of paths accepts; it is compiled, and
rendered wherever its names are bound, whichever the host is. -/
structure Sound (d : Dialect) (sample : Sample) : Prop where
  closed : ∀ s ∈ d.segments sample.source, s.kind ≠ .error
  length : (d.segments sample.source).length = 2 * sample.names.length + 1
  slots : ((d.segments sample.source).filter (·.isSlot)).map (·.content) = sample.names
  accepted : ∀ host, ∀ name ∈ sample.names, ∀ start,
    (Path.reader host).Accepts ⟨.slot, name, start⟩
  compiled : ∀ (host : Host) (title : Option String) (supply : NameSupply)
      (recover : Option Recovery),
    ∃ c, ((Source.inDialect d sample.source title).compile supply (Path.reader host)
        recover).1.outcome = .ok c ∧
      ∀ filling : Filling,
        (∀ name ∈ sample.names, (filling.context (some c.name)).binds name = true) →
        ∃ text, (c.render filling).outcome = .ok text

theorem Sound.of_namedSlots {d : Dialect} {sample : Sample}
    (named : NamedSlots sample.names (d.segments sample.source))
    (chars : ∀ name ∈ sample.names, NameChars name.toList) : Sound d sample where
  closed := named.closed
  length := named.length_eq
  slots := named.slots_eq
  accepted := by
    intro host name member start
    have spells := Path.spells_of_nameChars (chars name member)
    exact ⟨_, Path.reader_outcome_eq_ok_iff.mpr ⟨_, spells, rfl⟩⟩
  compiled := by
    intro host title supply recover
    have readable : ∀ s ∈ d.segments sample.source, s.Readable := by
      intro s member kind
      have inside := named.content_mem member kind
      exact ⟨⟨s.content, []⟩, Path.spells_of_nameChars (chars s.content inside)⟩
    have titled := Titled.nameFor supply title
    have parts := Rendering.forall₂_pathPart host (recover.getD .refuse) (supply.nameFor title).1
      readable named.closed
    refine ⟨_, Source.compile_outcome titled parts, ?_⟩
    intro filling binds
    exact exists_render named chars binds

section Templates

variable {d : Dialect} (backslash : d.escape = '\\')
include backslash

theorem template_always (σ : Type) [DrawSource σ] :
    Always (template : StateM σ Sample) (Sound d) := by
  refine .bind staticText_always ?_
  rintro first ⟨m, phrase⟩
  refine .bind (.any (DrawSource.upTo 5)) ?_
  intro n _
  refine .bind (.times slotAndText_always n) ?_
  intro slots drawn
  refine .pure ?_
  obtain ⟨segments, pieces, named⟩ := exists_pieces backslash drawn phrase []
  apply Sound.of_namedSlots
  · rwa [pieces.segments_ofList]
  · intro name member
    obtain ⟨slot, inside, rfl⟩ := List.mem_map.mp member
    obtain ⟨padding, chars, _⟩ := drawn slot inside
    rwa [String.toList_ofList]

/-- Whatever numbers are drawn, a template is sound in every dialect with the backslash, and each of
its static texts is by itself one static segment that ends clean. So the templates that a seed gives
are sound. -/
theorem templates_sound :
    (∀ (σ : Type) [DrawSource σ],
      Always (template : StateM σ Sample) (Sound d) ∧
      Always (staticText : StateM σ (List Char)) fun cs =>
        (∃ content, d.segments (.ofList cs) = [.static content .origin]) ∧
          d.EndsClean (.ofList cs)) ∧
    ∀ seed count, ∀ sample ∈ templates seed count, Sound d sample := by
  constructor
  · intro σ _
    refine ⟨template_always backslash σ, .mono staticText_always ?_⟩
    rintro cs ⟨m, phrase⟩
    rw [← backslash] at phrase
    exact ⟨⟨_, (Pieces.of_phrase phrase []).segments_ofList⟩, Dialect.endsClean_of_phrase phrase⟩
  · intro seed count
    exact Always.times (template_always backslash Twister) count (Twister.ofSeed seed)

end Templates

/-- A drawn template with tabs of four columns. An escaped opener stands before its slot, an escaped
backslash between them is cut off, and a bracket stands behind the slot. -/
theorem templates_sound_scripted :
    let d : Dialect := ⟨'\\', 4, by decide, by decide, by decide⟩
    let script := Script.ofList [2, 0, 0, 0, 2, 1, 23, 1, 28, 2, 1, 0, 7]
    let sample : Sample := ⟨"\\<%<%  x1  %><x", ["x1"]⟩
    d.escape = '\\' ∧ (template.run script).1 = sample ∧ Sound d sample := by
  intro d script sample
  have drawn : (template.run script).1 = sample := by decide
  obtain ⟨sound, _⟩ := (templates_sound (d := d) rfl).1 Script
  refine ⟨rfl, drawn, ?_⟩
  rw [← drawn]
  exact sound script

end Stencil.Sample

/-!
# Blank characters

The characters that count as white space, and trimming them off the ends of a text.
-/

namespace Stencil.Text

/-- The characters that separate words or lines: the ASCII controls and separators among them,
the next-line control, and the spaces and separators of Unicode. A zero-width space is none. -/
def isBlank (c : Char) : Bool :=
  let n := c.toNat
  (0x09 ≤ n && n ≤ 0x0D) || (0x1C ≤ n && n ≤ 0x20) || n == 0x85 || n == 0xA0 || n == 0x1680 ||
    (0x2000 ≤ n && n ≤ 0x200A) || n == 0x2028 || n == 0x2029 || n == 0x202F || n == 0x205F ||
    n == 0x3000

/-- The characters without the longest runs at both ends on which `p` holds. -/
def trimBoth (p : Char → Bool) (cs : List Char) : List Char :=
  ((cs.dropWhile p).reverse.dropWhile p).reverse

/-- The text without blanks at its ends. -/
def trim (s : String) : String :=
  String.ofList (trimBoth isBlank s.toList)

@[simp] theorem toList_trim (s : String) : (trim s).toList = trimBoth isBlank s.toList := by
  simp [trim]

@[simp] theorem trimBoth_nil (p : Char → Bool) : trimBoth p [] = [] := rfl

theorem head?_dropWhile_eq_false {p : Char → Bool} {cs : List Char} {c : Char}
    (h : (cs.dropWhile p).head? = some c) : p c = false := by
  induction cs with
  | nil => simp at h
  | cons d ds ih =>
      rw [List.dropWhile_cons] at h
      split at h
      · exact ih h
      · simp_all

theorem dropWhile_eq_self {p : Char → Bool} {cs : List Char}
    (h : ∀ c, cs.head? = some c → p c = false) : cs.dropWhile p = cs := by
  cases cs with
  | nil => rfl
  | cons c cs => simp [h c rfl]

/-- The trimmed characters are where the ones without the run in front begin. -/
theorem trimBoth_append (p : Char → Bool) (cs : List Char) :
    ∃ run, cs.dropWhile p = trimBoth p cs ++ run := by
  refine ⟨((cs.dropWhile p).reverse.takeWhile p).reverse, ?_⟩
  rw [trimBoth, ← List.reverse_append, List.takeWhile_append_dropWhile, List.reverse_reverse]

/-- Trimming again changes nothing. -/
@[simp] theorem trimBoth_trimBoth (p : Char → Bool) (cs : List Char) :
    trimBoth p (trimBoth p cs) = trimBoth p cs := by
  have front : (trimBoth p cs).dropWhile p = trimBoth p cs := by
    apply dropWhile_eq_self
    intro c h
    obtain ⟨run, hrun⟩ := trimBoth_append p cs
    have head : (cs.dropWhile p).head? = some c := by
      rw [hrun, List.head?_append, h]
      rfl
    exact head?_dropWhile_eq_false head
  have back : (trimBoth p cs).reverse.dropWhile p = (trimBoth p cs).reverse := by
    apply dropWhile_eq_self
    intro c h
    rw [trimBoth, List.reverse_reverse] at h
    exact head?_dropWhile_eq_false h
  rw [trimBoth, front, back, List.reverse_reverse]

/-- A blank at the end is trimmed off. -/
theorem trimBoth_concat {p : Char → Bool} {c : Char} (blank : p c = true) (cs : List Char) :
    trimBoth p (cs ++ [c]) = trimBoth p cs := by
  rw [trimBoth, trimBoth, List.dropWhile_append]
  cases h : cs.dropWhile p with
  | nil => simp [blank]
  | cons d ds => simp [List.dropWhile_append, blank]

/-- Blanks at the front are trimmed off. -/
theorem trimBoth_blank_append {p : Char → Bool} {pad : List Char} (blank : ∀ c ∈ pad, p c = true)
    (cs : List Char) : trimBoth p (pad ++ cs) = trimBoth p cs := by
  rw [trimBoth, List.dropWhile_append_of_pos blank, trimBoth]

/-- Blanks at the end are trimmed off. -/
theorem trimBoth_append_blank {p : Char → Bool} {pad : List Char} (blank : ∀ c ∈ pad, p c = true)
    (cs : List Char) : trimBoth p (cs ++ pad) = trimBoth p cs := by
  induction pad generalizing cs with
  | nil => rw [List.append_nil]
  | cons c pad ih =>
      obtain ⟨first, others⟩ := List.forall_mem_cons.mp blank
      rw [List.append_cons, ih others, trimBoth_concat first]

/-- Nothing is trimmed off a text without blanks. -/
theorem trimBoth_eq_self {p : Char → Bool} {cs : List Char} (visible : ∀ c ∈ cs, p c = false) :
    trimBoth p cs = cs := by
  have front : cs.dropWhile p = cs :=
    dropWhile_eq_self fun c head => visible c (List.mem_of_head? head)
  have back : cs.reverse.dropWhile p = cs.reverse := by
    apply dropWhile_eq_self
    intro c head
    exact visible c (List.mem_reverse.mp (List.mem_of_head? head))
  rw [trimBoth, front, back, List.reverse_reverse]

section Rewriting

variable {p : Char → Bool} {f : Char → List Char}

/-- A run in front stays one if each character is written as characters of the same class. -/
theorem dropWhile_flatMap (alike : ∀ c, ∀ x ∈ f c, p x = p c) (written : ∀ c, f c ≠ [])
    (cs : List Char) : (cs.flatMap f).dropWhile p = (cs.dropWhile p).flatMap f := by
  induction cs with
  | nil => rfl
  | cons c cs ih =>
      rw [List.flatMap_cons]
      cases class_c : p c with
      | true =>
          have run : ∀ x ∈ f c, p x = true := by
            intro x member
            rw [alike c x member, class_c]
          rw [List.dropWhile_append_of_pos run, ih, List.dropWhile_cons_of_pos class_c]
      | false =>
          have outside : ¬ p c = true := by simp [class_c]
          obtain ⟨x, xs, split⟩ := List.exists_cons_of_ne_nil (written c)
          have first : ¬ p x = true := by
            rw [alike c x (by simp [split])]
            exact outside
          rw [List.dropWhile_cons_of_neg outside, List.flatMap_cons, split, List.cons_append,
            List.dropWhile_cons_of_neg first]

/-- Trimming and writing each character as characters of the same class go in either order. -/
theorem trimBoth_flatMap (alike : ∀ c, ∀ x ∈ f c, p x = p c) (written : ∀ c, f c ≠ [])
    (cs : List Char) : trimBoth p (cs.flatMap f) = (trimBoth p cs).flatMap f := by
  have alikeBack : ∀ c, ∀ x ∈ (List.reverse ∘ f) c, p x = p c := by
    intro c x member
    exact alike c x (List.mem_reverse.mp member)
  have writtenBack : ∀ c, (List.reverse ∘ f) c ≠ [] := by
    intro c
    simpa using written c
  rw [trimBoth, dropWhile_flatMap alike written, List.reverse_flatMap,
    dropWhile_flatMap alikeBack writtenBack, trimBoth, List.flatMap_reverse]

end Rewriting

@[simp] theorem trim_trim (s : String) : trim (trim s) = trim s := by
  simp [trim]

/-- Nothing is left of a single character exactly if it is blank. -/
theorem trim_singleton_eq_empty_iff {c : Char} :
    trim (.singleton c) = "" ↔ isBlank c = true := by
  rw [← String.toList_inj, toList_trim]
  cases blank : isBlank c <;> simp [trimBoth, blank]

end Stencil.Text

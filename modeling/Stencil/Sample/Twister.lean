import Stencil.Sample.Draw

/-!
# The twister

A generator of pseudo-random words with 624 words of state, seeded by the words of a number. Words
are refreshed all at once after every 624 outputs, and an output is a word whose bits are mixed.

## Implementation notes

Positions in the state are counted modulo its size, so the word behind the last one is the first.
-/

namespace Stencil.Sample

/-- The number of words of state. -/
abbrev stateSize : Nat := 624

/-- The words of state and the number of them that were put out since they were last refreshed. -/
structure Twister where
  words : Vector UInt32 stateSize
  spent : Nat

namespace Twister

/-- Every position in the state, in order. -/
def positions : List (Fin stateSize) := List.finRange stateSize

/-- The word before a position, its high bits folded into the low ones. -/
def folded (words : Vector UInt32 stateSize) (i : Fin stateSize) : UInt32 :=
  let w := words.get (i - 1)
  w ^^^ (w >>> 30)

/-- The state that grows from one word. -/
def spread (seed : UInt32) : Vector UInt32 stateSize :=
  positions.tail.foldl
    (fun words (i : Fin stateSize) =>
      words.set i (1812433253 * folded words i + UInt32.ofNat i.val))
    (Vector.replicate stateSize seed)

/-- After the last position the walk goes on at position one; position zero takes the last word. -/
def stepOver (words : Vector UInt32 stateSize) (i : Fin stateSize) :
    Vector UInt32 stateSize × Fin stateSize :=
  if i + 1 = 0 then (words.set 0 (words.get i), 1) else (words, i + 1)

/-- Mixes `n` words of the key into the state, one position at a time. -/
def mixKey (key : List UInt32) (n : Nat) (words : Vector UInt32 stateSize) (i : Fin stateSize) :
    Vector UInt32 stateSize × Fin stateSize :=
  (List.range n).foldl
    (fun (words, i) k =>
      let j := k % key.length
      let word := (words.get i ^^^ (folded words i * 1664525)) + key.getD j 0 + UInt32.ofNat j
      stepOver (words.set i word) i)
    (words, i)

/-- Mixes the positions into the state, `n` of them. -/
def mixPositions (n : Nat) (words : Vector UInt32 stateSize) (i : Fin stateSize) :
    Vector UInt32 stateSize × Fin stateSize :=
  (List.range n).foldl
    (fun (words, i) _ =>
      let word := (words.get i ^^^ (folded words i * 1566083941)) - UInt32.ofNat i.val
      stepOver (words.set i word) i)
    (words, i)

/-- The state that a key of one or more words gives. -/
def ofKey (key : List UInt32) : Twister :=
  let (words, i) := mixKey key (max stateSize key.length) (spread 19650218) 1
  let (words, _) := mixPositions (stateSize - 1) words i
  ⟨words.set 0 0x80000000, stateSize⟩

/-- The number of different words. -/
abbrev wordCount : Nat := 0x100000000

/-- The words of a number from the lowest one up, none for zero. -/
def wordsOf (n : Nat) : List UInt32 :=
  if n = 0 then [] else UInt32.ofNat n :: wordsOf (n / wordCount)
termination_by n
decreasing_by simp only [wordCount]; omega

/-- The state that a seed gives. Its sign does not matter, and zero counts as one word. -/
def ofSeed (seed : Int) : Twister :=
  ofKey (if seed = 0 then [0] else wordsOf seed.natAbs)

/-- Refreshes all words in order, each from itself, its successor and a word further on. -/
def refresh (words : Vector UInt32 stateSize) : Vector UInt32 stateSize :=
  positions.foldl
    (fun words (i : Fin stateSize) =>
      let y := (words.get i &&& 0x80000000) ||| (words.get (i + 1) &&& 0x7FFFFFFF)
      let twist : UInt32 := if y &&& 1 = 0 then 0 else 0x9908B0DF
      words.set i (words.get (i + 397) ^^^ (y >>> 1) ^^^ twist))
    words

/-- Mixes the bits of a word for output. -/
def temper (y : UInt32) : UInt32 :=
  let y := y ^^^ (y >>> 11)
  let y := y ^^^ ((y <<< 7) &&& 0x9D2C5680)
  let y := y ^^^ ((y <<< 15) &&& 0xEFC60000)
  y ^^^ (y >>> 18)

/-- Puts out the next word. -/
def next : StateM Twister UInt32 := fun t =>
  if h : t.spent < stateSize then (temper t.words[t.spent], ⟨t.words, t.spent + 1⟩)
  else
    let words := refresh t.words
    (temper words[0], ⟨words, 1⟩)

/-- Draws words of as many bits as `n + 1` has until one is at most `n`. No more than half of the
words are too large; after `tries` of them in a row the number is zero. -/
def attempt (n : Nat) : Nat → StateM Twister (Fin (n + 1))
  | 0 => return 0
  | tries + 1 => do
    let bits := Nat.log2 (n + 1) + 1
    let d := (← next).toNat >>> (32 - bits)
    if h : d < n + 1 then return ⟨d, h⟩ else attempt n tries

instance : DrawSource Twister where
  upTo n := attempt n 1000
  part := do
    let high := (← next).toNat >>> 5
    let low := (← next).toNat >>> 6
    return ⟨(high <<< 26) + low, 1 <<< 53⟩

end Twister

end Stencil.Sample

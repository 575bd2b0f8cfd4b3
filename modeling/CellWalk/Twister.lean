/-!
# The Mersenne Twister

Random programs are drawn from MT19937, seeded by the 32-bit words of a number's size. A number
below a bound is drawn by taking as many top bits as the bound has until they are below it. Each
rejected draw has its top bit set; the top bits form a linear sequence of order 19937 and full
period, in which no longer run of ones occurs, so `Twister.maxDraws` draws always suffice.
-/

namespace CellWalk
set_option autoImplicit false

/-- The generator's 624 words and the position of the next one. -/
structure Twister where
  words : Array UInt32
  next : Nat

namespace Twister

/-- The number of words of state. -/
def size : Nat := 624

/-- The distance of the word that is mixed in. -/
def shift : Nat := 397

private def word (a : Array UInt32) (i : Nat) : UInt32 := a.getD i 0

/-- The state that a single word sets up. -/
def ofWord (seed : UInt32) : Array UInt32 :=
  (List.range (size - 1)).foldl (fun a i =>
    let prev := word a i
    a.push ((prev ^^^ (prev >>> 30)) * 1812433253 + UInt32.ofNat (i + 1))) #[seed]

/-- The base-2^32 digits of a number, lowest first; 0 has one. -/
def keyWords (n : Nat) : List UInt32 :=
  if n < 0x100000000 then [UInt32.ofNat n] else UInt32.ofNat n :: keyWords (n / 0x100000000)
termination_by n
decreasing_by omega

/-- Where the mixing of a key stands: the words, and the word to mix next. -/
structure Mixing where
  words : Array UInt32
  i : Nat

/-- Goes on to the next word; after the last one the first is set to the last. -/
def Mixing.advance (s : Mixing) : Mixing :=
  if s.i + 1 < size then { s with i := s.i + 1 }
  else ⟨s.words.setIfInBounds 0 (word s.words (size - 1)), 1⟩

/-- Mixes one word of the key into the state. -/
def Mixing.addKey (s : Mixing) (key : UInt32 × Nat) : Mixing :=
  let prev := word s.words (s.i - 1)
  let mixed := (word s.words s.i ^^^ ((prev ^^^ (prev >>> 30)) * 1664525)) + key.1 +
    UInt32.ofNat key.2
  advance { s with words := s.words.setIfInBounds s.i mixed }

/-- Mixes a word's own position into the state. -/
def Mixing.addPosition (s : Mixing) : Mixing :=
  let prev := word s.words (s.i - 1)
  let mixed := (word s.words s.i ^^^ ((prev ^^^ (prev >>> 30)) * 1566083941)) - UInt32.ofNat s.i
  advance { s with words := s.words.setIfInBounds s.i mixed }

/-- The state that a key sets up. -/
def ofKey (key : List UInt32) : Twister :=
  let steps := (List.range (max size key.length)).map fun k =>
    (key.getD (k % key.length) 0, k % key.length)
  let keyed := steps.foldl Mixing.addKey ⟨ofWord 19650218, 1⟩
  let mixed := (List.range (size - 1)).foldl (fun s _ => s.addPosition) keyed
  ⟨mixed.words.setIfInBounds 0 0x80000000, size⟩

/-- The generator for a seed; a seed and its negative give the same one. -/
def ofSeed (seed : Int) : Twister := ofKey (keyWords seed.natAbs)

/-- Two words joined at the top bit and multiplied by the generator's matrix. -/
def twist (high low : UInt32) : UInt32 :=
  let y := (high &&& 0x80000000) ||| (low &&& 0x7FFFFFFF)
  (y >>> 1) ^^^ (if y &&& 1 = 0 then 0 else 0x9908B0DF)

/-- The next 624 words. -/
def refill (words : Array UInt32) : Array UInt32 :=
  (List.range size).foldl (fun a i =>
    a.setIfInBounds i
      (word a ((i + shift) % size) ^^^ twist (word a i) (word a ((i + 1) % size)))) words

/-- The output that a word of state gives. -/
def temper (x : UInt32) : UInt32 :=
  let x := x ^^^ (x >>> 11)
  let x := x ^^^ ((x <<< 7) &&& 0x9D2C5680)
  let x := x ^^^ ((x <<< 15) &&& 0xEFC60000)
  x ^^^ (x >>> 18)

/-- The next output. -/
def draw (t : Twister) : UInt32 × Twister :=
  let t := if t.next < size then t else ⟨refill t.words, 0⟩
  (temper (word t.words t.next), { t with next := t.next + 1 })

/-- One more than the longest run of rejected draws. -/
def maxDraws : Nat := 19938

/-- Draws the top `bits` bits until they are below the bound, at most `fuel` times. -/
def drawBelow (bound bits : Nat) : Nat → Twister → Nat × Twister
  | 0, t => (0, t)
  | fuel + 1, t =>
    let (x, t) := t.draw
    let r := x.toNat >>> (32 - bits)
    if r < bound then (r, t) else drawBelow bound bits fuel t

/-- A number below the bound. -/
def below (t : Twister) (bound : Nat) : Nat × Twister :=
  drawBelow bound (Nat.log2 bound + 1) maxDraws t

theorem drawBelow_lt {bound : Nat} (pos : 0 < bound) (bits fuel : Nat) (t : Twister) :
    (drawBelow bound bits fuel t).1 < bound := by
  induction fuel generalizing t with
  | zero => exact pos
  | succ fuel ih =>
    simp only [drawBelow]
    split
    · assumption
    · exact ih _

theorem below_lt {bound : Nat} (pos : 0 < bound) (t : Twister) : (t.below bound).1 < bound :=
  drawBelow_lt pos _ _ _

/-- One of the given items, the default if there are none. -/
def choose {α : Type} [Inhabited α] (t : Twister) (items : List α) : α × Twister :=
  let (k, t) := t.below items.length
  (items.getD k default, t)

end Twister

end CellWalk

import InlineDice.Random.Source

namespace InlineDice

/-- The state of a Mersenne Twister (MT19937): its 624 words, and how many of them have been put
out since they were last mixed. -/
structure Twister where
  words : Array UInt32
  used : Nat

namespace Twister

def size : Nat := 624

def word (words : Array UInt32) (i : Nat) : UInt32 := words.getD i 0

/-- The words begun by one seed word. -/
def initial (seed : UInt32) : Array UInt32 :=
  (List.range (size - 1)).foldl (fun (words : Array UInt32) i =>
    let last := word words i
    words.push ((1812433253 : UInt32) * (last ^^^ (last >>> 30)) + UInt32.ofNat (i + 1))) #[seed]

/-- The place after `i` in the seeding order, which goes round the places 1 to 623. -/
def following (words : Array UInt32) (i : Nat) : Array UInt32 × Nat :=
  if i + 1 < size then (words, i + 1)
  else (words.setIfInBounds 0 (word words (size - 1)), 1)

/-- What place `i` is mixed with when the words are seeded. -/
def neighbour (words : Array UInt32) (i : Nat) (factor : UInt32) : UInt32 :=
  let last := word words (i - 1)
  word words i ^^^ ((last ^^^ (last >>> 30)) * factor)

/-- Seeds the words by a key of at least one word. -/
def ofKey (key : Array UInt32) : Twister :=
  let first := (List.range (max size key.size)).foldl (fun (words, i) step =>
    let j := step % key.size
    let mixed := neighbour words i 1664525 + word key j + UInt32.ofNat j
    following (words.setIfInBounds i mixed) i) (initial 19650218, 1)
  let second := (List.range (size - 1)).foldl (fun (words, i) _ =>
    following (words.setIfInBounds i (neighbour words i 1566083941 - UInt32.ofNat i)) i) first
  ⟨second.1.setIfInBounds 0 0x80000000, size⟩

/-- The key is the magnitude of the seed in 32-bit words, least significant first. -/
def ofSeed (seed : Int) : Twister :=
  let n := seed.natAbs
  ofKey ((List.range (n.log2 / 32 + 1)).map fun i => UInt32.ofNat (n >>> (32 * i))).toArray

/-- Mixes all words anew. -/
def mix (words : Array UInt32) : Array UInt32 :=
  (List.range size).foldl (fun (words : Array UInt32) i =>
    let joined := (word words i &&& 0x80000000) ||| (word words ((i + 1) % size) &&& 0x7FFFFFFF)
    let twisted := word words ((i + 397) % size) ^^^ (joined >>> 1)
    words.setIfInBounds i (if joined % 2 = 0 then twisted else twisted ^^^ 0x9908B0DF)) words

/-- What a word is put out as. -/
def temper (y : UInt32) : UInt32 :=
  let y := y ^^^ (y >>> 11)
  let y := y ^^^ ((y <<< 7) &&& 0x9D2C5680)
  let y := y ^^^ ((y <<< 15) &&& 0xEFC60000)
  y ^^^ (y >>> 18)

/-- Puts out one word of 32 bits. -/
def output (t : Twister) : UInt32 × Twister :=
  let t := if t.used < size then t else ⟨mix t.words, 0⟩
  (temper (word t.words t.used), { t with used := t.used + 1 })

/-- A number of `k + 1` random bits: whole words from the least significant up, of the last one the
upper bits. -/
def bits (k : Nat) (t : Twister) : Nat × Twister :=
  let full := (List.range (k / 32)).foldl (fun (n, t) i =>
    let (w, t) := output t
    (n + w.toNat <<< (32 * i), t)) (0, t)
  let (last, t) := output full.2
  (full.1 + (last.toNat >>> (31 - k % 32)) <<< (32 * (k / 32)), t)

/-- A number below `width`: numbers of just enough bits are drawn until one is. After `tries` of
them the last is reduced, which happens to fewer than one request in `2 ^ tries`. -/
def below (width : Nat) : (tries : Nat) → Twister → Nat × Twister
  | 0, t => let (n, t) := bits width.log2 t; (n % width, t)
  | tries + 1, t =>
    let (n, t) := bits width.log2 t
    if n < width then (n, t) else below width tries t

theorem below_lt {width : Nat} (positive : 0 < width) (tries : Nat) (t : Twister) :
    (below width tries t).1 < width := by
  induction tries generalizing t with
  | zero => exact Nat.mod_lt _ positive
  | succ tries ih =>
    simp only [below]
    split
    · assumption
    · exact ih _

instance : RandomSource Twister where
  draw low high t :=
    if low ≤ high then
      let (n, t) := below (high - low + 1).toNat 1000 t
      (some (low + n), t)
    else (none, t)

theorem honest : RandomSource.Honest Twister := by
  intro low high t order
  have bound := @below_lt (high - low + 1).toNat (by omega) 1000 t
  refine ⟨low + (below (high - low + 1).toNat 1000 t).1, by simp [RandomSource.draw, order], ?_, ?_⟩ <;>
    omega

end Twister

/-- The sources that hosts choose from. -/
inductive Source where
  | script (answers : Script)
  | twister (state : Twister)

/-- The source of a seed. Equal seeds, and seeds of equal magnitude, give equal rolls. -/
def Source.ofSeed (seed : Int) : Source := .twister (Twister.ofSeed seed)

instance : RandomSource Source where
  draw low high
    | .script answers => let (value, rest) := answers.next; (value, .script rest)
    | .twister state => let (value, rest) := RandomSource.draw low high state; (value, .twister rest)

end InlineDice

import ContractBuild.Text.Utf8

/-!
# Repeats

Where bytes stand that stood some way before already. Places with the same next three bytes are
chained, the nearest first, and a search follows the chain of its place for a limited number of
steps. Places that differ in their bytes may share a chain, and they count as steps too.
-/

namespace ContractBuild.Archive

/-- Bytes that stand some way before. -/
structure Repeat where
  length : Nat
  distance : Nat
  deriving DecidableEq, Repr

namespace Repeat

/-- Too short to be referred to. -/
def none : Repeat := ⟨2, 0⟩

/-- How far back references reach. -/
def reach : Nat := 32506

/-- How long a repeat can be. -/
def longest : Nat := 258

end Repeat

/-- How many bytes from `q` and from `p` on agree, at most `most`. -/
def agreeing (data : Array UInt8) (q p : Nat) : Nat → Nat
  | 0 => 0
  | most + 1 => if data[q]? = data[p]? then agreeing data (q + 1) (p + 1) most + 1 else 0

/-- The places passed so far. The very first one stands for no place at all: it is never found. -/
structure Chains where
  /-- The last place on each chain. -/
  last : Array Nat
  /-- The place before a place on its chain. -/
  before : Array Nat

namespace Chains

/-- The number of chains. -/
def count : Nat := 32768

def empty (size : Nat) : Chains := ⟨Array.replicate count 0, Array.replicate size 0⟩

/-- The chain of a place, from its next three bytes. -/
def key (data : Array UInt8) (p : Nat) : Nat :=
  let byte (i : Nat) := (data.getD i 0).toNat
  ((byte p <<< 10) ^^^ (byte (p + 1) <<< 5) ^^^ byte (p + 2)) % count

/-- The last place on the chain of a place. -/
def lastFor (c : Chains) (data : Array UInt8) (p : Nat) : Nat :=
  if p + 3 ≤ data.size then c.last.getD (key data p) 0 else 0

/-- Adds a place to its chain. One without three bytes has none. -/
def add (c : Chains) (data : Array UInt8) (p : Nat) : Chains :=
  if p + 3 ≤ data.size then
    let k := key data p
    let q := c.last.getD k 0
    ⟨c.last.setIfInBounds k p, c.before.setIfInBounds p q⟩
  else c

/-- Adds so many places. -/
def addMany (data : Array UInt8) : (count : Nat) → (p : Nat) → Chains → Chains
  | 0, _, c => c
  | n + 1, p, c => addMany data n (p + 1) (c.add data p)

/-- The longest repeat at `p` that is longer than `best`, the nearest of several, looked for at the
place `q` and before it on its chain in so many steps. One that is long enough ends the search. -/
def search (c : Chains) (data : Array UInt8) (p : Nat) : (steps : Nat) → (q : Nat) →
    (best : Repeat) → Repeat
  | 0, _, best => best
  | steps + 1, q, best =>
    let left := data.size - p
    let n :=
      -- only what agrees one byte further can be longer
      if data[q + best.length]? = data[p + best.length]? then
        agreeing data q p (min Repeat.longest left)
      else 0
    let best' : Repeat := if best.length < n then ⟨n, p - q⟩ else best
    if best.length < n ∧ min 128 left ≤ n then best'
    else
      let q' := c.before.getD q 0
      if p - Repeat.reach < q' then search c data p steps q' best' else best'

/-- The repeat that is found at `p` behind the repeat at the byte before. None is looked for behind
one that is long enough, and three bytes far away are none. -/
def repeatAt (c : Chains) (data : Array UInt8) (p : Nat) (behind : Repeat) : Repeat :=
  let q := c.lastFor data p
  if q = 0 ∨ 16 ≤ behind.length ∨ Repeat.reach < p - q then .none
  else
    let found := search c data p (if 8 ≤ behind.length then 32 else 128) q behind
    if found.length = 3 && 4096 < found.distance then .none else found

end Chains

end ContractBuild.Archive

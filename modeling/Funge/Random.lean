import Funge.Position
import Funge.Random.ChaCha

/-!
# Random directions

A machine draws its random directions from a stream of its own, which its seed determines. A draw is
used when it lies in the lower half of its residue class, so that all four directions are equally
likely; otherwise it is skipped. The search for a usable draw is cut off after one period of the
stream, when every draw there is has been skipped.
-/

namespace Funge

/-- A source of random directions: the key of its stream and the index of the next draw. -/
structure Generator where
  key : ChaCha.Key
  index : Nat := 0
deriving DecidableEq, Repr

namespace Generator

/-- The generator of a seed, before any draw. -/
def ofSeed (seed : UInt64) : Generator := { key := ChaCha.keyOfSeed seed }

/-- The direction a draw selects, if it is used. -/
def select? (v : UInt64) : Option Direction :=
  let scaled := v.toNat * 4
  if scaled % UInt64.size < UInt64.size / 2 then Direction.all[scaled / UInt64.size]? else none

/-- The first direction that one of the next draws selects, and the index after that draw. -/
def search (key : ChaCha.Key) : Nat → Nat → Direction × Nat
  | 0, index => (.up, index)
  | fuel + 1, index =>
    match select? (ChaCha.draw key index) with
    | some direction => (direction, index + 1)
    | none => search key fuel (index + 1)

/-- The next random direction. -/
def next (g : Generator) : Direction × Generator :=
  let (direction, index) := search g.key ChaCha.period g.index
  (direction, { g with index := index })

end Generator

end Funge

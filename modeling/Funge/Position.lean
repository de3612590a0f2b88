/-!
# Positions and directions

A position is a row and a column, counted from the top left corner. Both are integers, since the
instruction pointer can leave the playfield on any side and a program can address any place.
-/

namespace Funge

/-- A row and a column. -/
@[ext]
structure Position where
  row : Int
  col : Int
deriving DecidableEq, Repr, Inhabited

/-- Where the instruction pointer is heading. -/
inductive Direction where
  | up
  | down
  | left
  | right
deriving DecidableEq, Repr, Inhabited

namespace Direction

/-- The directions in the order in which a random choice numbers them. -/
def all : List Direction := [up, down, left, right]

/-- A direction's name. -/
def name : Direction → String
  | up => "Up"
  | down => "Down"
  | left => "Left"
  | right => "Right"

end Direction

namespace Position

/-- The top left corner, where a program starts. -/
def origin : Position := ⟨0, 0⟩

/-- The neighbouring position in a direction. -/
def next (p : Position) : Direction → Position
  | .up => ⟨p.row - 1, p.col⟩
  | .down => ⟨p.row + 1, p.col⟩
  | .left => ⟨p.row, p.col - 1⟩
  | .right => ⟨p.row, p.col + 1⟩

instance : ToString Position where
  toString p := s!"[{p.row},{p.col}]"

end Position

end Funge

/-!
# Lines

A text is cut after each line feed, so that every line keeps the mark that ends it and nothing is
lost (`flatten_pieces`); only the last piece can lack the mark. The rows of a program are these
pieces without their terminators, where a terminator is a line feed and at most one carriage return
before it: a carriage return that no line feed follows is an ordinary character.

`cut` takes the first piece only, which is how an input device hands out its text.
-/

namespace Funge.Lines

variable {α : Type} [DecidableEq α]

/-- Prepend one element to a list of pieces: a mark ends a piece, anything else joins the next. -/
def cons (mark a : α) : List (List α) → List (List α)
  | [] => [[a]]
  | piece :: rest => if a = mark then [a] :: piece :: rest else (a :: piece) :: rest

/-- The pieces of a list, each but the last ending with the mark; no piece is empty. -/
def pieces (mark : α) (text : List α) : List (List α) := text.foldr (cons mark) []

/-- The first piece of a list, through the mark, and what comes after it. -/
def cut (mark : α) : List α → List α × List α
  | [] => ([], [])
  | a :: rest => if a = mark then ([a], rest) else (a :: (cut mark rest).1, (cut mark rest).2)

/-- A line without its terminator: a final line feed goes, with one carriage return before it. -/
def body : List Char → List Char
  | [] => []
  | ['\n'] => []
  | ['\r', '\n'] => []
  | c :: rest => c :: body rest

/-- The lines of a text without their terminators. A terminator at the end of the text begins no
further line. -/
def rows (text : List Char) : List (List Char) := (pieces '\n' text).map body

@[simp] theorem pieces_nil (mark : α) : pieces mark [] = [] := rfl

theorem pieces_cons (mark a : α) (text : List α) :
    pieces mark (a :: text) = cons mark a (pieces mark text) := rfl

@[simp] theorem flatten_cons (mark a : α) (ps : List (List α)) :
    (cons mark a ps).flatten = a :: ps.flatten := by
  cases ps with
  | nil => rfl
  | cons p ps => by_cases h : a = mark <;> simp [cons, h]

@[simp] theorem flatten_pieces (mark : α) (text : List α) : (pieces mark text).flatten = text := by
  induction text with
  | nil => rfl
  | cons a text ih => rw [pieces_cons, flatten_cons, ih]

end Funge.Lines

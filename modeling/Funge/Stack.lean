/-!
# The stack

The machine's operands. A stack that has run out answers zero to every further `pop`, as if it
stood on a bottomless pile of zeros, so `pop` always succeeds. A stack knows its depth, which is
reported for each executed cell; it follows from the values (`ext`).
-/

namespace Funge

/-- A stack of values, the top one first. -/
structure Stack where
  values : List Int64
  /-- How many values were pushed and not yet popped. -/
  depth : Nat
  depth_eq : depth = values.length
deriving DecidableEq, Repr

namespace Stack

/-- The stack without values. -/
def empty : Stack := ⟨[], 0, rfl⟩

/-- Put a value on top. -/
def push (s : Stack) (v : Int64) : Stack where
  values := v :: s.values
  depth := s.depth + 1
  depth_eq := by rw [s.depth_eq, List.length_cons]

/-- The value on top, zero if there is none. -/
def top (s : Stack) : Int64 := s.values.headD 0

/-- The stack below its top. -/
def rest (s : Stack) : Stack where
  values := s.values.tail
  depth := s.depth - 1
  depth_eq := by rw [s.depth_eq, List.length_tail]

/-- Take the value on top. -/
def pop (s : Stack) : Int64 × Stack := (s.top, s.rest)

/-- The values from the bottom to the top. -/
def toList (s : Stack) : List Int64 := s.values.reverse

/-- Stacks with the same values are the same. -/
@[ext] theorem ext {s t : Stack} (h : s.values = t.values) : s = t := by
  obtain ⟨values, depth, hs⟩ := s
  obtain ⟨_, depth', ht⟩ := t
  obtain rfl : values = _ := h
  rw [Stack.mk.injEq]
  exact ⟨rfl, hs.trans ht.symm⟩

@[simp] theorem depth_push (s : Stack) (v : Int64) : (s.push v).depth = s.depth + 1 := rfl

@[simp] theorem depth_rest (s : Stack) : s.rest.depth = s.depth - 1 := rfl

@[simp] theorem top_push (s : Stack) (v : Int64) : (s.push v).top = v := rfl

@[simp] theorem toList_push (s : Stack) (v : Int64) : (s.push v).toList = s.toList ++ [v] :=
  List.reverse_cons

end Stack

end Funge

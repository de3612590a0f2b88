/-!
# White space

The characters with the Unicode property White_Space, and the removal of them from the ends of a
text. U+200B, U+FEFF, U+180E and the controls U+001C to U+001F do not have the property.
-/

namespace Funge.Blank

/-- The characters of the Unicode property White_Space. -/
def isBlank (c : Char) : Bool :=
  let n := c.toNat
  (9 ≤ n && n ≤ 13) || n == 0x20 || n == 0x85 || n == 0xA0 || n == 0x1680 ||
    (0x2000 ≤ n && n ≤ 0x200A) || n == 0x2028 || n == 0x2029 || n == 0x202F || n == 0x205F ||
    n == 0x3000

/-- A text without the white space at its end. -/
def trimRight (cs : List Char) : List Char := (cs.reverse.dropWhile isBlank).reverse

/-- A text without the white space at its beginning and its end. -/
def trim (cs : List Char) : List Char := trimRight (cs.dropWhile isBlank)

@[simp] theorem trim_nil : trim [] = [] := rfl

end Funge.Blank

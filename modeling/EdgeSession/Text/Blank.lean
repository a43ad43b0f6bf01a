/-!
White space and trimming.
-/
namespace EdgeSession.Text

/-- White space: the separators of Unicode, the ASCII controls from tab to carriage return and
from U+001C to U+001F, and next line. -/
def isBlank (c : Char) : Bool :=
  let n := c.toNat
  (9 ≤ n && n ≤ 13) || (28 ≤ n && n ≤ 32) || n == 0x85 || n == 0xA0 || n == 0x1680 ||
    (0x2000 ≤ n && n ≤ 0x200A) || n == 0x2028 || n == 0x2029 || n == 0x202F || n == 0x205F ||
    n == 0x3000

def dropEndWhile (p : Char → Bool) (s : List Char) : List Char :=
  (s.reverse.dropWhile p).reverse

def trim (s : List Char) : List Char := dropEndWhile isBlank (s.dropWhile isBlank)

/-- Without the slashes it ends in. -/
def dropSlashes (s : List Char) : List Char := dropEndWhile (· == '/') s

end EdgeSession.Text

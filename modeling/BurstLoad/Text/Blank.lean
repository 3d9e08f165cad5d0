/-!
White space in the sense of Unicode, and trimming by it. A text with no white space at its ends
is left as it is, and trimming twice is trimming once.
-/

set_option autoImplicit false

namespace BurstLoad.Text

/-- White space of any script, the separators 1C to 1F and the next-line control included.
A zero-width space and a byte order mark are none. -/
def isBlank (c : Char) : Bool :=
  let n := c.toNat
  (0x09 ≤ n && n ≤ 0x0D) || (0x1C ≤ n && n ≤ 0x20) || n == 0x85 || n == 0xA0 || n == 0x1680 ||
  (0x2000 ≤ n && n ≤ 0x200A) || n == 0x2028 || n == 0x2029 || n == 0x202F || n == 0x205F ||
  n == 0x3000

/-- White space in ASCII, the separators 1C to 1F not included. -/
def isAsciiBlank (c : Char) : Bool :=
  (0x09 ≤ c.toNat && c.toNat ≤ 0x0D) || c == ' '

/-- The text from its first character that is not blank. -/
def trimLeft (s : List Char) : List Char :=
  s.dropWhile isBlank

/-- The text up to its last character that is not blank. -/
def trimRight (s : List Char) : List Char :=
  (s.reverse.dropWhile isBlank).reverse

/-- The text without the blanks around it. -/
def trim (s : List Char) : List Char :=
  trimRight (trimLeft s)

/-- The text of a number without the blanks around it. In a text all of ASCII only the blanks of
ASCII count. -/
def trimNumeral (s : List Char) : List Char :=
  let p := if s.all fun c => c.toNat < 0x80 then isAsciiBlank else isBlank
  ((s.dropWhile p).reverse.dropWhile p).reverse

theorem trimLeft_cons_of_not_blank {c : Char} {s : List Char} (h : isBlank c = false) :
    trimLeft (c :: s) = c :: s := by
  simp [trimLeft, h]

end BurstLoad.Text

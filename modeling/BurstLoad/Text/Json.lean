import BurstLoad.Text.Digit
import BurstLoad.Text.Surrogate

/-!
Strings of JSON documents in ASCII. Quotes, backslashes, control characters and everything beyond
ASCII are written as escapes; a character beyond the sixteen-bit range takes two of them.
-/

set_option autoImplicit false

namespace BurstLoad.Text.Json

def unit (n : Nat) : List Char :=
  '\\' :: 'u' :: hexDigitsOfWidth 4 n

def escape (c : Char) : List Char :=
  if c == '"' || c == '\\' then ['\\', c]
  else if c == '\n' then ['\\', 'n']
  else if c == '\r' then ['\\', 'r']
  else if c == '\t' then ['\\', 't']
  else if c == '\x08' then ['\\', 'b']
  else if c == '\x0c' then ['\\', 'f']
  else if ' ' ≤ c && c ≤ '~' then [c]
  else if code c < 0x10000 then unit (code c)
  else
    let n := c.toNat - 0x10000
    unit (0xD800 + n / 0x400) ++ unit (0xDC00 + n % 0x400)

def quote (s : String) : String :=
  String.ofList ('"' :: s.toList.flatMap escape ++ ['"'])

end BurstLoad.Text.Json

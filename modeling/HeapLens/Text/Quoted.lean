import HeapLens.Text.Hex
import HeapLens.Text.Visible

/-!
# Quoted text

A text in double quotes, in which every character that would not be seen, or not be
seen for what it is, is written as an escape: `\0`, `\t`, `\r`, `\n`, `\"`, `\\`,
and `\u` with hexadecimal digits in braces for all others. Which characters are
printed as themselves is a parameter; `quote` takes the visible ones. `unescape`
reads the inner part back.
-/

namespace HeapLens.Text

/-- The escape of a character by its number. -/
def numbered (c : Char) : List Char := ['\\', 'u', '\x7b'] ++ hexDigits c.toNat ++ ['\x7d']

/-- A character as it stands between the quotes; `plain` says which are printed as
themselves. -/
def escapeChar (plain : Char → Bool) (c : Char) : List Char :=
  if c = '\x00' then ['\\', '0']
  else if c = '\t' then ['\\', 't']
  else if c = '\r' then ['\\', 'r']
  else if c = '\n' then ['\\', 'n']
  else if c = '"' then ['\\', '"']
  else if c = '\\' then ['\\', '\\']
  else if plain c then [c]
  else numbered c

/-- A text as it stands between the quotes. -/
def escape (plain : Char → Bool) (cs : List Char) : List Char := cs.flatMap (escapeChar plain)

def quote (s : String) : String := "\"" ++ String.ofList (escape isVisible s.toList) ++ "\""

/-! ## Reading back -/

def hexValue? (c : Char) : Option Nat :=
  if '0' ≤ c ∧ c ≤ '9' then some (c.toNat - '0'.toNat)
  else if 'a' ≤ c ∧ c ≤ 'f' then some (c.toNat - 'a'.toNat + 10)
  else none

/-- Where reading stands: between characters, behind a backslash, behind `\u`, or
within the braces with the number so far. -/
inductive Reading where
  | between
  | escaped
  | announced
  | digits (number : Nat)
  deriving DecidableEq, Repr

/-- The text that is written by characters read from the given state on; `none` if
none is. -/
def unescapeFrom : Reading → List Char → Option (List Char)
  | .between, [] => some []
  | .between, c :: rest =>
    if c = '\\' then unescapeFrom .escaped rest
    else if c = '"' then none
    else (unescapeFrom .between rest).map (c :: ·)
  | .escaped, c :: rest =>
    if c = '0' then (unescapeFrom .between rest).map ('\x00' :: ·)
    else if c = 't' then (unescapeFrom .between rest).map ('\t' :: ·)
    else if c = 'r' then (unescapeFrom .between rest).map ('\r' :: ·)
    else if c = 'n' then (unescapeFrom .between rest).map ('\n' :: ·)
    else if c = '"' then (unescapeFrom .between rest).map ('"' :: ·)
    else if c = '\\' then (unescapeFrom .between rest).map ('\\' :: ·)
    else if c = 'u' then unescapeFrom .announced rest
    else none
  | .announced, c :: rest => if c = '\x7b' then unescapeFrom (.digits 0) rest else none
  | .digits number, c :: rest =>
    if c = '\x7d' then (unescapeFrom .between rest).map (Char.ofNat number :: ·)
    else (hexValue? c).bind fun digit => unescapeFrom (.digits (number * 16 + digit)) rest
  | _, [] => none

/-- The text that stands between quotes as `cs`. -/
def unescape (cs : List Char) : Option (List Char) := unescapeFrom .between cs

end HeapLens.Text

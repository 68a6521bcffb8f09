/-
# JSON text

The compact form: no blanks, members in their order. Quotes, backslashes and control characters
are escaped, every other character stands for itself. Printing is by structural recursion with
one helper for elements and one for members.
-/

import TransitHub.Json.Basic
import TransitHub.Number.Shortest

namespace TransitHub.Json

/-- A hexadecimal digit in lower case. -/
def hexDigit (n : Nat) : Char := if n < 10 then Char.ofNat (48 + n) else Char.ofNat (87 + n)

/-- The characters that stand for one character inside quotes. -/
def escaped (c : Char) : List Char :=
  if c = '"' then ['\\', '"']
  else if c = '\\' then ['\\', '\\']
  else if c = '\n' then ['\\', 'n']
  else if c = '\r' then ['\\', 'r']
  else if c = '\t' then ['\\', 't']
  else if c = '\x08' then ['\\', 'b']
  else if c = '\x0c' then ['\\', 'f']
  else if c.toNat < 32 then ['\\', 'u', '0', '0', hexDigit (c.toNat / 16), hexDigit (c.toNat % 16)]
  else [c]

/-- A string in quotes. -/
def quoted (s : String) : List Char := '"' :: s.toList.flatMap escaped ++ ['"']

def integerChars (n : Int) : List Char :=
  if n < 0 then '-' :: Decimal.digits n.natAbs else Decimal.digits n.natAbs

mutual

def chars : Json → List Char
  | null => ['n', 'u', 'l', 'l']
  | boolean true => ['t', 'r', 'u', 'e']
  | boolean false => ['f', 'a', 'l', 's', 'e']
  | integer n => integerChars n
  | double x => x.chars
  | string s => quoted s
  | array xs => '[' :: elementChars true xs
  | object ms => '\x7b' :: memberChars true ms

/-- The elements that remain to be printed and the closing bracket. -/
def elementChars (first : Bool) : List Json → List Char
  | [] => [']']
  | x :: xs => (if first then [] else [',']) ++ x.chars ++ elementChars false xs

/-- The members that remain to be printed and the closing brace. -/
def memberChars (first : Bool) : List (String × Json) → List Char
  | [] => ['\x7d']
  | (k, x) :: ms =>
    (if first then [] else [',']) ++ quoted k ++ ':' :: x.chars ++ memberChars false ms

end

/-- The compact text of a value. -/
def text (j : Json) : String := String.ofList j.chars

/-- A way to write documents as text and to read them again, for those who exchange them. -/
structure Codec where
  write : Json → String
  read : String → Option Json

mutual

/-- The same value with the members of every object in ascending order of their names. -/
def sorted : Json → Json
  | array xs => array (sortedElements xs)
  | object ms => object (sortedMembers ms)
  | j => j

/-- The elements of an array, each sorted. -/
def sortedElements : List Json → List Json
  | [] => []
  | x :: xs => x.sorted :: sortedElements xs

/-- The members of an object, each sorted and put at its place. -/
def sortedMembers : List (String × Json) → List (String × Json)
  | [] => []
  | (k, x) :: ms =>
    let rest := sortedMembers ms
    rest.takeWhile (·.1 < k) ++ (k, x.sorted) :: rest.dropWhile (·.1 < k)

end

end TransitHub.Json

/-
# Tokens of JSON5

A text is cut into punctuation, strings, numbers and identifiers; blanks and comments fall away. A
number keeps its literal, because what it denotes depends on the type it is read at. A string or an
identifier with an escape that denotes no character is still a token, without a content, since it
is a fault only where the content is wanted.

JSON is read by the same scanner. Its tokens are among those of JSON5 except for quoted text, and a
`Quoting` says how that is read.
-/

import TransitHub.Text.Decimal
import TransitHub.Text.Letters

namespace TransitHub.Json5

/-- A token of JSON5. -/
inductive Token
  | openBrace
  | closeBrace
  | openBracket
  | closeBracket
  | comma
  | colon
  | string (content : Option String)
  | number (literal : String)
  | identifier (content : Option String) (plain : Bool)

/-- Characters that end a line. -/
def isLineEnd (c : Char) : Bool := c = '\n' || c = '\r' || c = '\u2028' || c = '\u2029'

/-- Blanks between tokens: tabs, the byte order mark, space separators and ends of lines. -/
def isSpace (c : Char) : Bool :=
  let n := c.toNat
  isLineEnd c || n = 9 || n = 11 || n = 12 || n = 32 || n = 0xA0 || n = 0xFEFF || n = 0x1680 ||
    (0x2000 ≤ n && n ≤ 0x200A) || n = 0x202F || n = 0x205F || n = 0x3000

/-- The value of a hexadecimal digit. -/
def hexValue? (c : Char) : Option Nat :=
  if '0' ≤ c ∧ c ≤ '9' then some (c.toNat - 48)
  else if 'a' ≤ c ∧ c ≤ 'f' then some (c.toNat - 87)
  else if 'A' ≤ c ∧ c ≤ 'F' then some (c.toNat - 55)
  else none

/-- The number that hexadecimal digits denote. -/
def hexNumber? (cs : List Char) : Option Nat :=
  cs.foldlM (fun n c => (hexValue? c).map (16 * n + ·)) 0

/-- How quoted text is read: which characters may not stand in it unescaped, and the code point
that a high and a low surrogate denote together. -/
structure Quoting where
  isBarred : Char → Bool
  pairValue : (high low : Nat) → Nat

/-- Quoted text of JSON5. No end of a line stands in it unescaped. The ten bits of the high
surrogate are laid over bit 16 and the bits of the low one without a carry, so a pair that UTF-16
uses in an even plane denotes the code point at the same place of the plane below. -/
def Quoting.json5 : Quoting where
  isBarred := isLineEnd
  pairValue high low := ((high - 0xD800) <<< 10) ||| (0x10000 + (low - 0xDC00))

/-- Quoted text of JSON. No control character stands in it unescaped, and a pair of surrogates
denotes the code point that UTF-16 encodes by it. -/
def Quoting.json : Quoting where
  isBarred c := c < ' '
  pairValue high low := 0x10000 + ((high - 0xD800) <<< 10) + (low - 0xDC00)

/-- One part of a quoted text: a character, or a 16-bit code unit written with four digits. -/
inductive Piece
  | plain (c : Char)
  | unit (n : Nat)

/-- The text that pieces denote. A high surrogate needs a low one right after it. -/
def Piece.join (q : Quoting) : List Piece → Option (List Char)
  | [] => some []
  | .plain c :: rest => (join q rest).map (c :: ·)
  | .unit high :: .unit low :: rest =>
    if 0xD800 ≤ high ∧ high < 0xDC00 then
      if 0xDC00 ≤ low ∧ low < 0xE000 then
        (join q rest).map (Char.ofNat (q.pairValue high low) :: ·)
      else none
    else if 0xDC00 ≤ high ∧ high < 0xE000 then none
    else (join q (.unit low :: rest)).map (Char.ofNat high :: ·)
  | .unit n :: rest =>
    if 0xD800 ≤ n ∧ n < 0xE000 then none else (join q rest).map (Char.ofNat n :: ·)

/-- The text that pieces denote, as a string. -/
def Piece.text? (q : Quoting) (pieces : List Piece) : Option String :=
  (Piece.join q pieces).map String.ofList

/-- The character that a single-letter escape denotes; other characters denote themselves. -/
def singleEscape (c : Char) : Char :=
  match c with
  | 'b' => '\x08'
  | 'f' => '\x0c'
  | 'n' => '\n'
  | 'r' => '\r'
  | 't' => '\t'
  | 'v' => '\x0b'
  | '0' => '\x00'
  | c => c

/-- The pieces of a text up to its closing quote, and what follows the quote. -/
def scanQuoted (q : Quoting) (quote : Char) : List Char → Option (List Piece × List Char)
  | [] => none
  | '\\' :: 'u' :: a :: b :: c :: d :: rest =>
    match hexNumber? [a, b, c, d] with
    | none => none
    | some n => (scanQuoted q quote rest).map fun (ps, rest) => (.unit n :: ps, rest)
  | '\\' :: 'x' :: a :: b :: rest =>
    match hexNumber? [a, b] with
    | none => none
    | some n => (scanQuoted q quote rest).map fun (ps, rest) => (.plain (Char.ofNat n) :: ps, rest)
  | '\\' :: '\r' :: '\n' :: rest => scanQuoted q quote rest
  | '\\' :: c :: rest =>
    if isLineEnd c then scanQuoted q quote rest
    else if c = 'u' ∨ c = 'x' ∨ ('1' ≤ c ∧ c ≤ '9') then none
    else (scanQuoted q quote rest).map fun (ps, rest) => (.plain (singleEscape c) :: ps, rest)
  | c :: rest =>
    if c = quote then some ([], rest)
    else if c = '\\' ∨ q.isBarred c then none
    else (scanQuoted q quote rest).map fun (ps, rest) => (.plain c :: ps, rest)

/-- What follows a comment that ends with a star and a slash. -/
def skipBlockComment : List Char → Option (List Char)
  | [] => none
  | '*' :: '/' :: rest => some rest
  | _ :: rest => skipBlockComment rest

/-- The pieces of an identifier, and what follows it. -/
def scanIdentifier (start : Bool) : List Char → Option (List Piece × List Char)
  | [] => some ([], [])
  | '\\' :: 'u' :: a :: b :: c :: d :: rest =>
    match hexNumber? [a, b, c, d] with
    | none => none
    | some n => (scanIdentifier false rest).map fun (ps, rest) => (.unit n :: ps, rest)
  | c :: rest =>
    if Text.isLetter c || c = '$' || c = '_' ||
        (!start && (Text.isMark c || c = '\u200C' || c = '\u200D')) then
      (scanIdentifier false rest).map fun (ps, rest) => (.plain c :: ps, rest)
    else some ([], c :: rest)

/-- An exponent at the front of a text, empty if there is none. -/
def exponentPart (cs : List Char) : List Char :=
  match cs with
  | e :: rest =>
    if e = 'e' ∨ e = 'E' then
      match rest with
      | s :: rest' =>
        if s = '+' ∨ s = '-' then
          let ds := rest'.takeWhile Decimal.isDigit
          if ds.isEmpty then [] else e :: s :: ds
        else
          let ds := rest.takeWhile Decimal.isDigit
          if ds.isEmpty then [] else e :: ds
      | [] => []
    else []
  | [] => []

/-- An unsigned number at the front of a text: hexadecimal, decimal, or one of two words. -/
def unsignedLiteral (cs : List Char) : Option (List Char) :=
  let decimal : Option (List Char) :=
    let whole := cs.takeWhile Decimal.isDigit
    let whole := if whole.head? = some '0' then ['0'] else whole
    match whole, cs.drop whole.length with
    | [], '.' :: rest =>
      let ds := rest.takeWhile Decimal.isDigit
      if ds.isEmpty then none
      else some ('.' :: (ds ++ exponentPart (rest.drop ds.length)))
    | [], _ => none
    | whole, '.' :: rest =>
      let ds := rest.takeWhile Decimal.isDigit
      some (whole ++ '.' :: (ds ++ exponentPart (rest.drop ds.length)))
    | whole, rest => some (whole ++ exponentPart rest)
  match cs with
  | '0' :: x :: rest =>
    let ds := rest.takeWhile fun c => (hexValue? c).isSome
    if (x = 'x' ∨ x = 'X') ∧ !ds.isEmpty then some ('0' :: x :: ds) else decimal
  | 'I' :: 'n' :: 'f' :: 'i' :: 'n' :: 'i' :: 't' :: 'y' :: _ => some "Infinity".toList
  | 'N' :: 'a' :: 'N' :: _ => some "NaN".toList
  | _ => decimal

/-- A number with an optional sign at the front of a text. -/
def numberLiteral (cs : List Char) : Option (List Char) :=
  match cs with
  | '+' :: rest => (unsignedLiteral rest).map ('+' :: ·)
  | '-' :: rest => (unsignedLiteral rest).map ('-' :: ·)
  | cs => unsignedLiteral cs

/-- The tokens of a text that starts with the character `c`, one of them read by `next`. -/
def Token.first (q : Quoting) (c : Char) (rest : List Char) : Option (Option Token × List Char) :=
  let word : Option (Option Token × List Char) :=
    (scanIdentifier true (c :: rest)).bind fun (pieces, rest) =>
      if pieces.isEmpty then none
      else
        let plain := pieces.all fun p => match p with | .plain _ => true | .unit _ => false
        some (some (.identifier (Piece.text? q pieces) plain), rest)
  match c with
  | '\x7b' => some (some .openBrace, rest)
  | '\x7d' => some (some .closeBrace, rest)
  | '[' => some (some .openBracket, rest)
  | ']' => some (some .closeBracket, rest)
  | ',' => some (some .comma, rest)
  | ':' => some (some .colon, rest)
  | '/' =>
    match rest with
    | '/' :: rest => some (none, rest.dropWhile fun c => !isLineEnd c)
    | '*' :: rest => (skipBlockComment rest).map fun rest => (none, rest)
    | _ => none
  | c =>
    if c = '"' ∨ c = '\'' then
      (scanQuoted q c rest).map fun (pieces, rest) => (some (.string (Piece.text? q pieces)), rest)
    else if isSpace c then some (none, rest)
    else if c = '+' ∨ c = '-' ∨ c = '.' ∨ Decimal.isDigit c then
      (numberLiteral (c :: rest)).map fun literal =>
        (some (.number (String.ofList literal)), (c :: rest).drop literal.length)
    else word

/-- The tokens of a text of at most `fuel` characters. -/
def Token.scanWith (q : Quoting) : (fuel : Nat) → List Char → Option (List Token)
  | _, [] => some []
  | 0, _ :: _ => none
  | fuel + 1, c :: rest =>
    match Token.first q c rest with
    | none => none
    | some (none, rest) => scanWith q fuel rest
    | some (some t, rest) => (scanWith q fuel rest).map (t :: ·)

/-- The tokens of a text. Every token takes at least one character, so its length is enough. -/
def Token.scan (q : Quoting) (s : String) : Option (List Token) :=
  Token.scanWith q s.toList.length s.toList

end TransitHub.Json5

/-
# Reading JSON5

Tokens are folded into a document with a stack of containers that are not closed yet. Each frame
of the stack holds what has been read of its container, in reverse, so that every step is constant
work and the fold is total without a measure.
-/

import TransitHub.Json5.Basic

namespace TransitHub.Json5

/-- A container that is not closed yet. -/
inductive Frame
  | array (done : List Json5)
  | object (done : List (Key × Json5))
  | member (done : List (Key × Json5)) (key : Key)

/-- What may come next. -/
inductive Expect
  | value
  | valueOrClose
  | keyOrClose
  | colon
  | commaOrClose
  | nothing

/-- The state of reading: open containers, innermost first, what may come, and the document. -/
structure Reader where
  stack : List Frame
  expect : Expect
  document : Json5

namespace Reader

/-- Nothing read yet. -/
def start : Reader := ⟨[], .value, .null⟩

/-- Put a complete value where it belongs. -/
def complete (r : Reader) (v : Json5) : Option Reader :=
  match r.stack with
  | [] => some ⟨[], .nothing, v⟩
  | .array done :: stack => some ⟨.array (v :: done) :: stack, .commaOrClose, r.document⟩
  | .member done key :: stack =>
    some ⟨.object ((key, v) :: done) :: stack, .commaOrClose, r.document⟩
  | .object _ :: _ => none

/-- An identifier in the place of a value: one of five words, written without escapes. -/
def word? (content : Option String) (plain : Bool) : Option Json5 :=
  if plain then
    match content with
    | some "null" => some null
    | some "true" => some (boolean true)
    | some "false" => some (boolean false)
    | some "Infinity" => some (number "Infinity")
    | some "NaN" => some (number "NaN")
    | _ => none
  else none

/-- A token in the place of a value. -/
def value? (r : Reader) (t : Token) : Option Reader :=
  match t with
  | .openBracket => some { r with stack := .array [] :: r.stack, expect := .valueOrClose }
  | .openBrace => some { r with stack := .object [] :: r.stack, expect := .keyOrClose }
  | .string content => r.complete (string content)
  | .number literal => r.complete (number literal)
  | .identifier content plain => (word? content plain).bind r.complete
  | _ => none

/-- A key, after which a colon must come. -/
def key? (r : Reader) (key : Key) : Option Reader :=
  match r.stack with
  | .object done :: stack => some { r with stack := .member done key :: stack, expect := .colon }
  | _ => none

/-- A closing bracket or brace, which must fit the innermost container. -/
def close? (r : Reader) (t : Token) : Option Reader :=
  match t, r.stack with
  | .closeBracket, .array done :: stack => { r with stack }.complete (array done.reverse)
  | .closeBrace, .object done :: stack => { r with stack }.complete (object done.reverse)
  | _, _ => none

def step (r : Reader) (t : Token) : Option Reader :=
  match r.expect, t with
  | .value, t => r.value? t
  | .valueOrClose, .closeBracket => r.close? .closeBracket
  | .valueOrClose, t => r.value? t
  | .keyOrClose, .closeBrace => r.close? .closeBrace
  | .keyOrClose, .string content => r.key? ⟨content, true⟩
  | .keyOrClose, .identifier content _ => r.key? ⟨content, false⟩
  | .colon, .colon => some { r with expect := .value }
  | .commaOrClose, .comma =>
    match r.stack with
    | .array _ :: _ => some { r with expect := .valueOrClose }
    | .object _ :: _ => some { r with expect := .keyOrClose }
    | _ => none
  | .commaOrClose, t => r.close? t
  | _, _ => none

end Reader

/-- The document that tokens make up, if they make up exactly one. -/
def ofTokens? (ts : List Token) : Option Json5 :=
  match ts.foldlM Reader.step Reader.start with
  | some ⟨[], .nothing, document⟩ => some document
  | _ => none

def read? (s : String) : Option Json5 := (Token.scan .json5 s).bind ofTokens?

end Json5

/-- Read a JSON text. It has the tokens and the shape of a JSON5 text; its quoted text and its
numbers are read by the rules of JSON. -/
def Json.read? (s : String) : Option Json := do
  let tokens ← Json5.Token.scan .json s
  let document ← Json5.ofTokens? tokens
  document.toJsonWith? Json5.strictNumber?

end TransitHub

/-
# Pages and chunks

Cutting a list into ordered pieces of bounded size. Without a limit everything is one piece, an
empty list has no pieces, and a limit of zero counts as one. The first piece and the concatenation
of the others are a page and what it leaves.
-/

namespace TransitHub.Paging

variable {α : Type}

/-- Pieces of `size` elements, the last one with what remains. `fuel` bounds their number. -/
def chunksOf (size : Nat) : (fuel : Nat) → List α → List (List α)
  | 0, _ => []
  | _, [] => []
  | fuel + 1, x :: xs =>
    (x :: xs).take size :: chunksOf size fuel ((x :: xs).drop size)

/-- The pieces of a list under a limit. -/
def chunks (limit : Option Nat) (xs : List α) : List (List α) :=
  match limit with
  | none => if xs.isEmpty then [] else [xs]
  | some n => chunksOf (max n 1) xs.length xs

/-- The first page under a limit, and what it leaves. -/
def page (limit : Option Nat) (xs : List α) : List α × List α :=
  match limit with
  | none => (xs, [])
  | some n => (xs.take (max n 1), xs.drop (max n 1))

end TransitHub.Paging

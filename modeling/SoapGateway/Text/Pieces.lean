/-!
# Pieces around a marker

Cutting a text at every occurrence of a marker, found from left to right and never overlapping, and
searching a text for another one.
-/
namespace SoapGateway.Text

/-- What follows `start` in a text that begins with it. -/
def dropStart? : List Char → List Char → Option (List Char)
  | [], s => some s
  | _ :: _, [] => none
  | m :: ms, c :: cs => if m = c then dropStart? ms cs else none

def occursIn (needle : List Char) : List Char → Bool
  | [] => needle.isEmpty
  | c :: cs => (dropStart? needle (c :: cs)).isSome || occursIn needle cs

/-- Pieces between the occurrences of `marker`; `current` holds the open piece backwards. The
recursion is bounded by the length of the text. -/
def piecesFrom (marker current : List Char) : Nat → List Char → List (List Char)
  | 0, _ => [current.reverse]
  | _ + 1, [] => [current.reverse]
  | n + 1, c :: cs =>
    match dropStart? marker (c :: cs) with
    | some rest => current.reverse :: piecesFrom marker [] n rest
    | none => piecesFrom marker (c :: current) n cs

/-- The pieces of `s` around the occurrences of a non-empty `marker`. -/
def pieces (marker s : List Char) : List (List Char) := piecesFrom marker [] (s.length + 1) s

/-- The text before the first occurrence of `c` and the text after it, if there is one. -/
def splitOnce (c : Char) : List Char → List Char × Option (List Char)
  | [] => ([], none)
  | d :: ds =>
    if d = c then ([], some ds)
    else
      let (before, after) := splitOnce c ds
      (d :: before, after)

def splitAll (c : Char) : List Char → List (List Char)
  | [] => [[]]
  | d :: ds =>
    if d = c then [] :: splitAll c ds
    else
      match splitAll c ds with
      | [] => [[d]]
      | p :: ps => (d :: p) :: ps

end SoapGateway.Text

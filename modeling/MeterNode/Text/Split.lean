import MeterNode.Text.CodeRanges

/-!
# Cutting text

Texts are cut at a separator, into lines and into words.  A line ends with a line feed, and a
carriage return just before that line feed belongs to the line end.  What follows the last line
feed is a line of its own unless it is empty; a carriage return at its end is part of it.
-/

namespace MeterNode.Text

/-- Cut at every `sep`.  There is one piece more than there are separators. -/
def pieces (sep : Char) : List Char → List (List Char)
  | [] => [[]]
  | c :: r =>
      if c = sep then [] :: pieces sep r
      else
        match pieces sep r with
        | [] => [[c]]
        | p :: ps => (c :: p) :: ps

/-- Cut at the first occurrence of `sep`, which is dropped. -/
def cutOnce (sep : List Char) : List Char → Option (List Char × List Char)
  | [] => if sep = [] then some ([], []) else none
  | c :: r =>
      if sep.isPrefixOf (c :: r) then some ([], (c :: r).drop sep.length)
      else (cutOnce sep r).map fun (before, after) => (c :: before, after)

/-- Cut at the last occurrence of the character `sep`, which is dropped. -/
def cutLast (sep : Char) (cs : List Char) : Option (List Char × List Char) :=
  match cs.reverse.span (· ≠ sep) with
  | (_, []) => none
  | (after, _ :: before) => some (before.reverse, after.reverse)

/-- A terminated line without the carriage return of its line end. -/
def chopReturn (line : List Char) : List Char :=
  if line.getLast? = some '\r' then line.dropLast else line

/-- The lines of a text. -/
def lines (cs : List Char) : List (List Char) :=
  let parts := pieces '\n' cs
  let rest := parts.getLast?.getD []
  parts.dropLast.map chopReturn ++ if rest = [] then [] else [rest]

/-- The words of a text, cut at runs of ASCII blanks. -/
def words (cs : List Char) : List (List Char) :=
  go [] cs
where
  /-- The words, given the letters of the current one in reverse. -/
  go : List Char → List Char → List (List Char)
    | [], [] => []
    | word, [] => [word.reverse]
    | [], c :: r => if isAsciiBlank c then go [] r else go [c] r
    | word, c :: r => if isAsciiBlank c then word.reverse :: go [] r else go (c :: word) r

/-- An ASCII letter in lower case, any other character as it is. -/
def lowerAscii (cs : List Char) : List Char := cs.map Char.toLower

/-- Whether two texts agree up to the case of ASCII letters. -/
def sameIgnoringCase (a b : List Char) : Bool := lowerAscii a = lowerAscii b

example : lines ['a', '\r', '\n', 'b', '\r'] = [['a'], ['b', '\r']] := by decide
example : lines ['\n'] = [[]] := by decide
example : words [' ', 'a', '\t', 'b', 'c', '\n'] = [['a'], ['b', 'c']] := by decide
example : cutLast ':' ['a', ':', 'b', ':', '1'] = some (['a', ':', 'b'], ['1']) := by decide

end MeterNode.Text

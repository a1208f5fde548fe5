/-!
# Lines

A line ends after its mark or at the end of the input; what follows the last mark is a line only if
it is not empty. `markedLines` leaves the marks at the ends of the lines. `lines` and `byteLines`
take them off: a line feed, and a carriage return in front of it.
-/

namespace BannerMatch.Text

/-- The lines of an input with their marks; `line` holds, last first, what has been read of the
first one. -/
def markedLinesFrom {α : Type} (isMark : α → Bool) (line : List α) : List α → List (List α)
  | [] => if line.isEmpty then [] else [line.reverse]
  | a :: rest =>
      if isMark a then (a :: line).reverse :: markedLinesFrom isMark [] rest
      else markedLinesFrom isMark (a :: line) rest

/-- A line without the line feed at its end and a carriage return in front of that. -/
def unmarked {α : Type} [DecidableEq α] (feed carriageReturn : α) (line : List α) : List α :=
  match line.reverse with
  | [] => []
  | a :: front =>
      if a ≠ feed then line
      else if front.head? = some carriageReturn then front.tail.reverse
      else front.reverse

/-- The lines of a text. -/
def lines (cs : List Char) : List (List Char) :=
  (markedLinesFrom (· == '\n') [] cs).map (unmarked '\n' '\r')

/-- The lines of an input in bytes. -/
def byteLines (bytes : List UInt8) : List (List UInt8) :=
  (markedLinesFrom (· == 0x0A) [] bytes).map (unmarked 0x0A 0x0D)

/-- The part before the first mark, and the part after it. -/
def splitAtChar (mark : Char) : List Char → Option (List Char × List Char)
  | [] => none
  | c :: rest =>
      if c = mark then some ([], rest)
      else (splitAtChar mark rest).map fun p => (c :: p.1, p.2)

end BannerMatch.Text

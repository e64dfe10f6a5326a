import Stencil.Decimal.Layout
import Stencil.Text.Characters

/-! Lines of a template around an error. -/

namespace Stencil

/-- Characters that end a line. -/
def lineEndRanges : List (Nat × Nat) :=
  [(0xa, 0xd), (0x1c, 0x1e), (0x85, 0x85), (0x2028, 0x2029)]

/-- Whether a character ends a line. -/
def isLineEnd (char : Char) : Bool :=
  isWithin lineEndRanges char

/-- The lines of a text; a carriage return and the line feed after it end one line together. -/
def splitLines : List Char → List (List Char)
  | [] => []
  -- '\n' :: The pair ends one line.
  | '\r' :: '\n' :: rest => [] :: splitLines rest
  | char :: rest =>
    if isLineEnd char then [] :: splitLines rest
    else match splitLines rest with
      -- The last line needs no end.
      | [] => [[char]]
      | line :: lines => (char :: line) :: lines

/-- The lines of a string. -/
def linesOf (text : String) : List String :=
  (splitLines text.toList).map String.ofList

/-- Numbered lines with the line of the error, and the column if it is known. -/
structure Snippet where
  lines : List (Int × String)
  errorLine : Int
  column : Option Int
  deriving DecidableEq

/-- Text moved to the right in a field of a width. -/
def padLeft (width : Nat) (text : String) : String :=
  String.ofList (List.replicate (width - text.length) ' ') ++ text

/-- A row that marks a column with a caret. -/
def caretRow (column : Int) : String :=
  "   | " ++ String.ofList (List.replicate column.toNat ' ') ++ "^"

/-- Lines numbered from one. -/
def numberLines (lines : List String) : List (Int × String) :=
  lines.zipIdx.map fun (line, index) => ((index : Int) + 1, line)

/-- The indices of the lines that are at most so many lines away from the line of the error, which
is counted from one. -/
def windowIndices (count : Nat) (errorLine reach : Int) : List Nat :=
  let first := max 0 (errorLine - 1 - reach)
  let last := min (count : Int) (errorLine + reach)
  List.range' first.toNat (last - first).toNat

/-- A line stands at every index of a window. -/
theorem windowIndices_lt {count : Nat} {errorLine reach : Int} :
    ∀ index ∈ windowIndices count errorLine reach, index < count := by
  -- The run of indices ends before the number of lines.
  intro index shown
  simp only [windowIndices, List.mem_range'_1] at shown
  omega

/-- The lines of a source that are at most so many lines away from the line of the error. -/
def Snippet.around (source : String) (errorLine : Int) (reach : Int) (column : Option Int) :
    Snippet where
  lines :=
    let lines := linesOf source
    (windowIndices lines.length errorLine reach).pmap
      (fun index (within : index < lines.length) => ((index : Int) + 1, lines[index]))
      windowIndices_lt
  errorLine := errorLine
  column := column

/-- A line with its number, marked if it is the line of the error. -/
def Snippet.row (snippet : Snippet) (row : Int × String) : String :=
  (if row.1 = snippet.errorLine then ">" else " ") ++ padLeft 2 (writeInteger row.1) ++ " | " ++
    row.2

/-- The snippet as it is shown, between two empty rows. -/
def Snippet.text (snippet : Snippet) : String :=
  let caret := match snippet.column with
    | some column => [caretRow column]
    | none => []
  "\n".intercalate (["   |"] ++ snippet.lines.map snippet.row ++ caret ++ ["   |"])

end Stencil

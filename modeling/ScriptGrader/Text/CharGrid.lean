/-!
# Characters in rows and columns

A set of characters that are written as two numbers, a row and a column.
-/

namespace ScriptGrader.Text

/-- Pieces of rows: the row, the first column, and the characters from there
on, where U+FFFD is a place without a character. -/
structure CharGrid where
  pieces : List (Nat × Nat × String)

namespace CharGrid

/-- The character in a place. -/
def find? (g : CharGrid) (row column : Nat) : Option Char :=
  g.pieces.findSome? fun (r, c, text) =>
    if r = row ∧ c ≤ column then (text.toList[column - c]?).filter (· ≠ '\ufffd') else none

/-- The characters in all places. -/
def chars (g : CharGrid) : List Char := g.pieces.flatMap fun (_, _, text) => text.toList

end CharGrid
end ScriptGrader.Text

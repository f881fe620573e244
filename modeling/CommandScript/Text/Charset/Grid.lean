/-!
# Grids of characters

Large character sets lay out their characters in rows of equal width.

## Main definitions

- `CommandScript.Text.Charset.Grid` — characters laid out in rows
- `CommandScript.Text.Charset.Grid.at?` — the character of a cell
- `CommandScript.Text.Charset.place?` — the place of a number in a range
- `CommandScript.Text.Charset.remaining` — the characters of a range that others leave over
-/

namespace CommandScript.Text.Charset

/-- What stands in a cell without a character. -/
def hole : Char := '\ufffd'

/-- Consecutive cells of rows of equal width. -/
structure Grid where
  width : Nat
  /-- The number of the first cell, counted from the first cell of row zero. -/
  start : Nat
  cells : Array Char

namespace Grid

/-- Consecutive cells from the one with a number on, which texts list one after the other. -/
def ofCell (start width : Nat) (texts : List String) : Grid :=
  ⟨width, start, (texts.flatMap String.toList).toArray⟩

/-- Consecutive cells from a row on. -/
def ofRows (row width : Nat) (texts : List String) : Grid := .ofCell (row * width) width texts

/-- The character of a cell. -/
def at? (g : Grid) (row column : Nat) : Option Char :=
  let i := row * g.width + column
  if column < g.width ∧ g.start ≤ i then (g.cells[i - g.start]?).filter (· ≠ hole) else none

end Grid

/-- The place of a number in the range from `first` to `last`. -/
def place? (first last n : Nat) : Option Nat :=
  if first ≤ n ∧ n ≤ last then some (n - first) else none

/-- The column of a byte of seven bits in a grid of ninety-four columns. -/
def column94? (b : Nat) : Option Nat := place? 0x21 0x7e b

/-- The characters from one code point to another that are not among given ones, in order. -/
def remaining (first last : Nat) (taken : Array Char) : Array Char :=
  let marks := taken.foldl
    (fun marks c => if first ≤ c.toNat then marks.setIfInBounds (c.toNat - first) true else marks)
    (Array.replicate (last - first + 1) false)
  (Array.range (last - first + 1)).filterMap fun i =>
    if marks.getD i true ∨ ¬ (first + i).isValidChar then none
    else some (Char.ofNat (first + i))

end CommandScript.Text.Charset

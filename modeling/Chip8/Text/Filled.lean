/-! Texts filled into lines of a width. A line ends only where the next piece would not fit.
Pieces are words, and the parts of words with hyphens. -/
namespace Chip8.Filled

structure Piece where
  /-- Whether a blank comes before it on the same line. -/
  spaced : Bool
  text : String
deriving DecidableEq, Repr

def Piece.after (piece : Piece) (line : String) : String :=
  line ++ (if piece.spaced then " " else "") ++ piece.text

def fillFrom (width : Nat) (line : String) : List Piece → List String
  | [] => [line]
  | piece :: rest =>
    if (piece.after line).length ≤ width then fillFrom width (piece.after line) rest
    else line :: fillFrom width piece.text rest

/-- The lines that some pieces fill. A piece that is wider than a line has one of its own. -/
def fill (width : Nat) : List Piece → List String
  | [] => []
  | first :: rest => fillFrom width first.text rest

theorem fillFrom_narrow {width : Nat} {line : String} {pieces : List Piece}
    (narrow : line.length ≤ width) (each : ∀ piece ∈ pieces, piece.text.length ≤ width) :
    ∀ filled ∈ fillFrom width line pieces, filled.length ≤ width := by
  induction pieces generalizing line with
  | nil => simpa [fillFrom] using narrow
  | cons piece rest ih =>
    have others : ∀ piece ∈ rest, piece.text.length ≤ width :=
      fun other h => each other (List.mem_cons_of_mem _ h)
    simp only [fillFrom]
    split
    · next fits => exact ih fits others
    · intro filled h
      rcases List.mem_cons.mp h with rfl | later
      · exact narrow
      · exact ih (each piece (by simp)) others filled later

def words (texts : List String) : List Piece := texts.map (⟨true, ·⟩)

def startsWithLetters (cs : List Char) : Bool :=
  match cs with
  | a :: b :: _ => a.isAlpha && b.isAlpha
  | _ => false

/-- A word cut behind every hyphen with two letters on either side. What was read since the last
cut comes with its end first. -/
def cut (read : List Char) : List Char → List (List Char)
  | [] => [read.reverse]
  | c :: rest =>
    if c = '-' && startsWithLetters read && startsWithLetters rest then
      (c :: read).reverse :: cut [] rest
    else
      cut (c :: read) rest

theorem flatten_cut (read cs : List Char) : (cut read cs).flatten = read.reverse ++ cs := by
  induction cs generalizing read with
  | nil => simp [cut]
  | cons c rest ih =>
    simp only [cut]
    split <;> simp [ih]

/-- The pieces of a word; only the first has a blank before it. -/
def piecesOf (word : String) : List Piece :=
  match cut [] word.toList with
  | [] => []
  | first :: rest => ⟨true, String.ofList first⟩ :: rest.map fun part => ⟨false, String.ofList part⟩

def lines (width : Nat) (text : String) : List String :=
  fill width ((text.splitOn " ").flatMap piecesOf)

example : (piecesOf "(jump-to-self)").map Piece.text = ["(jump-", "to-", "self)"] := by
  decide +kernel

end Chip8.Filled

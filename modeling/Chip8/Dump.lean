import Chip8.Memory
import Chip8.Span

/-! Memory dumps: a table of hexadecimal rows of sixteen bytes, one block per span, or the
plain bytes of the spans. -/
namespace Chip8.Dump

def rowSize : Nat := 16

def header : String :=
  "ADR " ++ " ".intercalate ((List.range rowSize).map (Hex.upper 2))

/-- The addresses of the rows that cover a span: multiples of the row size, ascending. -/
def rowStarts (s : Span) : List Int :=
  let first := s.first - s.first % rowSize
  let count := ((s.last - first) / rowSize + 1).toNat
  (List.range count).map fun (k : Nat) => first + rowSize * (k : Int)

variable {size : Nat}

def row (m : Memory size) (start : Int) : String :=
  Hex.upperSigned 3 start ++ " " ++
    " ".intercalate ((m.readBlock start rowSize).toList.map Hex.byte)

def block (m : Memory size) (s : Span) : String :=
  "\n".intercalate (header :: (rowStarts s).map (row m))

/-- The blocks of some spans, a blank line between them. -/
def table (m : Memory size) (spans : List Span) : String :=
  "\n\n".intercalate (spans.map (block m))

def binary (m : Memory size) (spans : List Span) : List UInt8 :=
  spans.flatMap fun s => (m.readBlock s.first (s.last + 1 - s.first)).toList

end Chip8.Dump

/-! Spans of addresses, both ends included, and their joining. Joined spans are in ascending
order and do not touch each other. -/
namespace Chip8

structure Span where
  first : Int
  last : Int
deriving DecidableEq, Repr

namespace Span

def whole : Span := ⟨0, 0xFFF⟩

def before (a b : Span) : Bool :=
  a.first < b.first || (a.first == b.first && a.last ≤ b.last)

/-- Joins `current` with the spans after it that it overlaps or touches. -/
def joinFrom (current : Span) : List Span → List Span
  | [] => [current]
  | next :: rest =>
    if next.first ≤ current.last + 1 then
      joinFrom ⟨current.first, max current.last next.last⟩ rest
    else
      current :: joinFrom next rest

/-- The joined spans of a list. An empty list stands for all of memory. -/
def join (spans : List Span) : List Span :=
  match spans.mergeSort before with
  | [] => [whole]
  | first :: rest => joinFrom first rest

end Span

end Chip8

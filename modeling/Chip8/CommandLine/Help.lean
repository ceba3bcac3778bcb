import Chip8.CommandLine
import Chip8.Text.Filled

/-! The help of a program: how it is called, what it is for, and what its arguments mean. The
explanations stand in a column of their own. -/
namespace Chip8.CommandLine

def lineWidth : Nat := 78

def explanationColumn : Nat := 24

def indent (columns : Nat) (text : String) : String := "".pushn ' ' columns ++ text

/-- A name without its dashes in front, in capitals and with no dash inside. -/
def capitals (name : String) : String :=
  String.ofList ((name.toList.dropWhile (· = '-')).map fun c => if c = '-' then '_' else c.toUpper)

namespace Spec

def shownValue? (o : Spec) : Option String :=
  match o.takes with
  | .nothing => none
  | .choice values => some ("\x7b" ++ ",".intercalate values ++ "\x7d")
  | .text | .number => some (o.valueName.getD (capitals o.name))

def words (o : Spec) : List String := o.name :: o.shownValue?.toList

def shown (o : Spec) : String := " ".intercalate o.words

/-- How an option stands in the usage: in brackets and unbroken, unless it is required. -/
def inUsage (o : Spec) : List String := if o.required then o.words else ["[" ++ o.shown ++ "]"]

end Spec

/-- The lines that say how a program is called. If one is not enough, the positional argument
begins another. -/
def Grammar.usage (s : Grammar) : List String :=
  let start := "usage: " ++ s.program ++ " "
  let width := lineWidth - start.length
  let options := Filled.words ("[-h]" :: s.options.flatMap Spec.inUsage)
  let operands := Filled.words (s.operand.toList.map fun o => "[" ++ o.name ++ "]")
  let lines := match Filled.fill width (options ++ operands) with
    | [line] => [line]
    | _ => Filled.fill width options ++ Filled.fill width operands
  match lines with
  | [] => []
  | first :: rest => (start ++ first) :: rest.map (indent start.length)

/-- The lines on one argument. Its explanation begins beside it if there is room. -/
def entry (shown about : String) : List String :=
  let head := indent 2 shown
  let lines := Filled.lines (lineWidth - explanationColumn) about
  match lines with
  | first :: rest =>
    if head.length + 2 ≤ explanationColumn then
      (head ++ indent (explanationColumn - head.length) first) ::
        rest.map (indent explanationColumn)
    else
      head :: lines.map (indent explanationColumn)
  | [] => [head]

/-- A heading with what belongs to it, after an empty line; nothing if nothing does. -/
def division (heading : String) : List String → List String
  | [] => []
  | lines => "" :: heading :: lines

def Grammar.help (s : Grammar) : String :=
  let helpEntry := entry (", ".intercalate helpNames) "show this help message and exit"
  let operands := s.operand.toList.flatMap fun o => entry o.name o.about
  let options := s.options.flatMap fun o => entry o.shown o.about
  "\n".intercalate (s.usage ++ "" :: Filled.lines lineWidth s.about ++
    division "positional arguments:" operands ++ division "options:" (helpEntry ++ options))

example : capitals "--dump-range" = "DUMP_RANGE" := by decide +kernel

end Chip8.CommandLine

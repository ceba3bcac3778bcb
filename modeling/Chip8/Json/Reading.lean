import Chip8.Json

/-! Reading JSON. Beside the standard's values there are the numbers `NaN`, `Infinity` and
`-Infinity`. Escapes may write halves of surrogate pairs; two that fit are joined. Lists and
objects lie in each other only to a certain depth. The first thing that cannot be read is
reported with its place. -/
namespace Chip8.Json

inductive Container
  | list
  | object
deriving DecidableEq, Repr

inductive Complaint
  | mark
  | value
  | name
  | colon
  | comma
  | openText
  | control
  | badEscape
  | badUnicodeEscape
  | extra
  | longNumber (digits : Nat)
  | tooDeep (container : Container)
deriving DecidableEq, Repr

/-- What is wrong, and how many characters of the text are left at that place. -/
structure Breach where
  complaint : Complaint
  left : Nat
deriving DecidableEq, Repr

/-- What is wrong and where: in lines and columns, which count from one, and in characters. -/
structure Fault where
  complaint : Complaint
  line : Nat
  column : Nat
  offset : Nat
deriving DecidableEq, Repr

def Container.name : Container → String
  | .list => "array"
  | .object => "object"

def Complaint.message : Complaint → String
  | .mark => "Unexpected UTF-8 BOM (decode using utf-8-sig)"
  | .value => "Expecting value"
  | .name => "Expecting property name enclosed in double quotes"
  | .colon => "Expecting ':' delimiter"
  | .comma => "Expecting ',' delimiter"
  | .openText => "Unterminated string starting at"
  | .control => "Invalid control character at"
  | .badEscape => "Invalid \\escape"
  | .badUnicodeEscape => "Invalid \\uXXXX escape"
  | .extra => "Extra data"
  | .longNumber digits =>
    s!"Exceeds the limit (4300 digits) for integer string conversion: value has {digits} " ++
      "digits; use sys.set_int_max_str_digits() to increase the limit"
  | .tooDeep container =>
    s!"maximum recursion depth exceeded while decoding a JSON {container.name} from a " ++
      "unicode string"

/-- The message of a fault, with its place if it has to do with the place. -/
def Fault.message (f : Fault) : String :=
  match f.complaint with
  | .longNumber _ | .tooDeep _ => f.complaint.message
  | _ => s!"{f.complaint.message}: line {f.line} column {f.column} (char {f.offset})"

def Fault.isTooDeep (f : Fault) : Bool :=
  match f.complaint with
  | .tooDeep _ => true
  | _ => false

namespace Reading

def isBlank (c : Char) : Bool := c == ' ' || c == '\t' || c == '\n' || c == '\r'

def skipBlanks (cs : List Char) : List Char := cs.dropWhile isBlank

def isDigit (c : Char) : Bool := '0' ≤ c && c ≤ '9'

def digits (cs : List Char) : List Char × List Char := (cs.takeWhile isDigit, cs.dropWhile isDigit)

def value10 (ds : List Char) : Nat :=
  ds.foldl (fun total d => 10 * total + (d.toNat - 48)) 0

def digitLimit : Nat := 4300

def fraction : List Char → List Char × List Char
  | '.' :: d :: rest => if isDigit d then digits (d :: rest) else ([], '.' :: d :: rest)
  | cs => ([], cs)

def power? : List Char → Option (Int × List Char)
  | e :: rest =>
    if e = 'e' || e = 'E' then
      let (negative, after) := match rest with
        | '-' :: after => (true, after)
        | '+' :: after => (false, after)
        | after => (false, after)
      match digits after with
      | ([], _) => none
      | (ds, after) => some (if negative then -(value10 ds : Int) else value10 ds, after)
    else none
  | [] => none

/-- The digits before the point: a zero alone, or no zero in front. -/
def integral? : List Char → Option (List Char × List Char)
  | '0' :: rest => some (['0'], rest)
  | cs =>
    match digits cs with
    | ([], _) => none
    | found => some found

def number (cs : List Char) : Except Breach (Number × List Char) :=
  let (negative, body) := match cs with
    | '-' :: body => (true, body)
    | body => (false, body)
  match integral? body with
  | none => .error ⟨.value, cs.length⟩
  | some (whole, rest) =>
    let (part, rest) := fraction rest
    match power? rest with
    | some (power, rest) =>
      .ok (.real (Binary64.ofDecimal negative (value10 (whole ++ part)) (power - part.length)), rest)
    | none =>
      if !part.isEmpty then
        .ok (.real (Binary64.ofDecimal negative (value10 (whole ++ part)) (-part.length)), rest)
      else if digitLimit < whole.length then
        .error ⟨.longNumber whole.length, cs.length⟩
      else
        .ok (.whole (if negative then -(value10 whole : Int) else value10 whole), rest)

def simpleEscape? : Char → Option Nat
  | '"' => some 0x22
  | '\\' => some 0x5C
  | '/' => some 0x2F
  | 'b' => some 0x08
  | 'f' => some 0x0C
  | 'n' => some 0x0A
  | 'r' => some 0x0D
  | 't' => some 0x09
  | _ => none

def hexDigit? (c : Char) : Option Nat :=
  if isDigit c then some (c.toNat - 48)
  else if 'a' ≤ c ∧ c ≤ 'f' then some (c.toNat - 87)
  else if 'A' ≤ c ∧ c ≤ 'F' then some (c.toNat - 55)
  else none

def unit? (a b c d : Char) : Option Nat := do
  return (((← hexDigit? a) * 16 + (← hexDigit? b)) * 16 + (← hexDigit? c)) * 16 + (← hexDigit? d)

/-- The inside of a text up to its closing quote, surrogates still apart. `opened` is what
was left of everything at the opening quote. -/
def characters (opened : Nat) : List Char → Except Breach (CodePoints × List Char)
  | [] => .error ⟨.openText, opened⟩
  | '"' :: rest => .ok ([], rest)
  | ['\\'] => .error ⟨.openText, opened⟩
  | '\\' :: 'u' :: a :: b :: c :: d :: e :: rest =>
    match unit? a b c d with
    | none => .error ⟨.badUnicodeEscape, rest.length + 6⟩
    | some unit => do
      let (points, rest) ← characters opened (e :: rest)
      return (unit :: points, rest)
  | '\\' :: 'u' :: rest => .error ⟨.badUnicodeEscape, rest.length + 1⟩
  | '\\' :: c :: rest =>
    match simpleEscape? c with
    | none => .error ⟨.badEscape, rest.length + 2⟩
    | some point => do
      let (points, rest) ← characters opened rest
      return (point :: points, rest)
  | c :: rest =>
    if c.toNat < 0x20 then
      .error ⟨.control, rest.length + 1⟩
    else do
      let (points, rest) ← characters opened rest
      return (c.toNat :: points, rest)

def text (cs : List Char) : Except Breach (CodePoints × List Char) := do
  let (points, rest) ← characters (cs.length + 1) cs
  return (CodePoints.joinSurrogates points, rest)

def words : List (String × Json) :=
  [("null", .null), ("true", .truth true), ("false", .truth false),
   ("NaN", .number (.real .notNumber)), ("Infinity", .number (.real (.infinite false))),
   ("-Infinity", .number (.real (.infinite true)))]

def scalar (cs : List Char) : Except Breach (Json × List Char) :=
  match words.find? fun word => word.1.toList.isPrefixOf cs with
  | some (word, value) => .ok (value, cs.drop word.length)
  | none => do
    let (n, rest) ← number cs
    return (.number n, rest)

def opened? : Char → Option Container
  | '[' => some .list
  | '\x7b' => some .object
  | _ => none

def deeper (cs : List Char) (depth : Nat) : Except Breach Nat :=
  match cs.head?.bind opened?, depth with
  | some container, 0 => .error ⟨.tooDeep container, cs.length⟩
  | _, depth => .ok (depth - 1)

mutual

/-- A value at the front, in which containers lie at most `depth` deep. Two levels of `fuel`
suffice for every character. -/
def value (depth : Nat) : (fuel : Nat) → List Char → Except Breach (Json × List Char)
  | 0, cs => .error ⟨.value, cs.length⟩
  | fuel + 1, cs => do
    let inner ← deeper cs depth
    match cs with
    | '"' :: rest =>
      let (points, rest) ← text rest
      return (.text points, rest)
    | '[' :: rest =>
      match skipBlanks rest with
      | ']' :: rest => return (.list [], rest)
      | rest =>
        let (items, rest) ← items inner fuel rest
        return (.list items, rest)
    | '\x7b' :: rest =>
      match skipBlanks rest with
      | '\x7d' :: rest => return (.object [], rest)
      | rest =>
        let (written, rest) ← members inner fuel rest
        return (ofMembers written, rest)
    | cs => scalar cs

def items (depth : Nat) : (fuel : Nat) → List Char → Except Breach (List Json × List Char)
  | 0, cs => .error ⟨.value, cs.length⟩
  | fuel + 1, cs => do
    let (first, rest) ← value depth fuel cs
    match skipBlanks rest with
    | ']' :: rest => return ([first], rest)
    | ',' :: rest =>
      let (others, rest) ← items depth fuel (skipBlanks rest)
      return (first :: others, rest)
    | rest => throw ⟨.comma, rest.length⟩

def members (depth : Nat) :
    (fuel : Nat) → List Char → Except Breach (List (CodePoints × Json) × List Char)
  | 0, cs => .error ⟨.value, cs.length⟩
  | fuel + 1, cs =>
    match cs with
    | '"' :: rest => do
      let (name, rest) ← text rest
      match skipBlanks rest with
      | ':' :: rest =>
        let (first, rest) ← value depth fuel (skipBlanks rest)
        match skipBlanks rest with
        | '\x7d' :: rest => return ([(name, first)], rest)
        | ',' :: rest =>
          let (others, rest) ← members depth fuel (skipBlanks rest)
          return ((name, first) :: others, rest)
        | rest => throw ⟨.comma, rest.length⟩
      | rest => throw ⟨.colon, rest.length⟩
    | cs => .error ⟨.name, cs.length⟩

end

end Reading

def locate (cs : List Char) (b : Breach) : Fault :=
  let offset := cs.length - b.left
  let before := cs.take offset
  { complaint := b.complaint
    line := before.count '\n' + 1
    column := (before.reverse.takeWhile (· ≠ '\n')).length + 1
    offset := offset }

/-- The one value that a text holds, if its containers lie at most `depth` deep. -/
def parse (depth : Nat) (cs : List Char) : Except Fault Json :=
  Except.mapError (locate cs) <|
    if cs.head? = some '\uFEFF' then
      .error ⟨.mark, cs.length⟩
    else do
      let (found, rest) ← Reading.value depth (2 * cs.length + 2) (Reading.skipBlanks cs)
      match Reading.skipBlanks rest with
      | [] => return found
      | rest => throw ⟨.extra, rest.length⟩

end Chip8.Json

import Chip8.Disk
import Chip8.Json.Reading
import Chip8.Keymap
import Chip8.Text.Numeral
import Chip8.Text.Utf8

/-! Keymap files. A file holds one JSON object, from names to keys. A key is a text of
hexadecimal digits or a number, of which the fraction does not count. -/
namespace Chip8.Keymap

inductive Shape
  | null
  | list
  | object
deriving DecidableEq, Repr

inductive Fault
  | disk (cause : Disk.Fault)
  | encoding (cause : Utf8.Fault)
  | format (cause : Json.Fault)
  | notObject
  | notHex (written : CodePoints)
  | noKey (shape : Shape)
  | number (cause : Number.Fault)
  | outOfRange (name written : CodePoints)
deriving DecidableEq, Repr

def Shape.name : Shape → String
  | .null => "NoneType"
  | .list => "list"
  | .object => "dict"

/-- The message of a fault, which may repeat any text of the file. -/
def Fault.message : Fault → CodePoints
  | .disk cause => .ofString cause.message
  | .encoding cause => .ofString cause.message
  | .format cause => .ofString cause.message
  | .notObject => .ofString "keymap must be a JSON object"
  | .notHex written => .ofString (Numeral.hexComplaint written)
  | .noKey shape => .ofString
      ("int() argument must be a string, a bytes-like object or a real number, not '" ++
        shape.name ++ "'")
  | .number cause => .ofString cause.message
  | .outOfRange name written =>
    .ofString "key index out of range for '" ++ name ++ .ofString "': " ++ written

/-- Whether a fault is the kind of mistake that one expects in a file. -/
def Fault.isExpected : Fault → Bool
  | .format cause => !cause.isTooDeep
  | .noKey _ => false
  | .number .notNumber => true
  | .number _ => false
  | _ => true

def keyOf : Json → Except Fault Int
  | .text written =>
    match Numeral.hex? written with
    | some key => .ok key
    | none => .error (.notHex written)
  | .number n => n.truncate.mapError .number
  | .truth b => .ok (if b then 1 else 0)
  | .null => .error (.noKey .null)
  | .list _ => .error (.noKey .list)
  | .object _ => .error (.noKey .object)

def written : Json → CodePoints
  | .text t => t
  | .number n => .ofString n.text
  | _ => []

def entry (name : CodePoints) (value : Json) : Except Fault (CodePoints × Int) := do
  let key ← keyOf value
  if 0 ≤ key ∧ key < 16 then .ok (name, key) else .error (.outOfRange name (written value))

/-- The keymap that a value describes; the first bad entry is reported. -/
def ofJson : Json → Except Fault Keymap
  | .object members => members.mapM fun (name, value) => entry name value
  | _ => .error .notObject

def ofText (depth : Nat) (cs : List Char) : Except Fault Keymap := do
  ofJson (← (Json.parse depth (Utf8.unifyLines cs)).mapError .format)

def load (depth : Nat) (disk : Disk) (path : Path) : Except Fault Keymap := do
  let bytes ← (disk.read path).mapError .disk
  let cs ← (Utf8.decode bytes).mapError .encoding
  ofText depth cs

def writeTemplate (disk : Disk) (path : Path) : Except Disk.Fault Disk :=
  disk.write path template.toUTF8.toList

end Chip8.Keymap

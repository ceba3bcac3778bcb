import Chip8.Text.Numeral

/-! Command lines. Options start with dashes and may be shortened to any beginning that
belongs to one of them only; a value follows as the next argument or after an equals sign.
Everything else is positional, and everything after a double dash. A double dash after an
equals sign is no value: the option counts as given, but it says nothing. -/
namespace Chip8.CommandLine

@[match_pattern] abbrev dash : Nat := 0x2D
@[match_pattern] abbrev lineFeed : Nat := 0x0A
@[match_pattern] abbrev decimalPoint : Nat := 0x2E
@[match_pattern] abbrev letterH : Nat := 0x68

def blankSpace : Nat := 0x20

def equalsSign : Nat := 0x3D

def doubleDash : CodePoints := [dash, dash]

inductive Takes
  | nothing
  | text
  | number
  | choice (values : List String)
deriving DecidableEq, Repr

structure Spec where
  name : String
  takes : Takes
  about : String
  required : Bool := false
  /-- What the help calls the value, if not by the name of the option. -/
  valueName : Option String := none
deriving DecidableEq, Repr

structure Operand where
  name : String
  about : String
deriving DecidableEq, Repr

/-- The options of a program in the order in which it lists them, and the positional argument
if it takes one. -/
structure Grammar where
  program : String
  about : String
  options : List Spec
  operand : Option Operand
deriving DecidableEq, Repr

inductive Given
  | flag (name : String)
  | text (name : String) (value : CodePoints)
  | number (name : String) (value : Int)
  /-- An option that should have a value, but has a double dash. -/
  | blank (name : String)
  | positional (value : CodePoints)
deriving DecidableEq, Repr

inductive Fault
  | ambiguous (written : CodePoints) (candidates : List String)
  | noValue (name : String)
  | unwantedValue (name : String) (value : CodePoints)
  | notNumber (name : String) (value : CodePoints)
  | notChoice (name : String) (value : CodePoints) (values : List String)
  | missing (names : List String)
  | unrecognized (arguments : List CodePoints)
  | helpWanted
deriving DecidableEq, Repr

/-- The message of a fault. Values of options stand quoted in it, other arguments as they are. -/
def Fault.message : Fault → CodePoints
  | .ambiguous written candidates =>
    .ofString "ambiguous option: " ++ written ++
      .ofString (" could match " ++ ", ".intercalate candidates)
  | .noValue name => .ofString s!"argument {name}: expected one argument"
  | .unwantedValue name value =>
    .ofString s!"argument {name}: ignored explicit argument {Quoted.points value}"
  | .notNumber name value =>
    .ofString s!"argument {name}: invalid int value: {Quoted.points value}"
  | .notChoice name value values =>
    .ofString (s!"argument {name}: invalid choice: {Quoted.points value} (choose from " ++
      ", ".intercalate (values.map Quoted.string) ++ ")")
  | .missing names =>
    .ofString ("the following arguments are required: " ++ ", ".intercalate names)
  | .unrecognized arguments =>
    .ofString "unrecognized arguments: " ++ [blankSpace].intercalate arguments
  | .helpWanted => []

def helpNames : List String := ["-h", "--help"]

def shownName (name : String) : String :=
  if helpNames.contains name then "/".intercalate helpNames else name

def Grammar.names (s : Grammar) : List String := helpNames ++ s.options.map Spec.name

def Grammar.takes (s : Grammar) (name : String) : Takes :=
  match s.options.find? fun o => o.name = name with
  | some o => o.takes
  | none => .nothing

inductive Reading
  | plain
  | separator
  | option (name : String) (value : Option CodePoints)
  /-- The short help option with letters behind it, or after an equals sign. -/
  | help (letters : CodePoints)
  | unknown
deriving DecidableEq, Repr

def splitEquals : CodePoints → CodePoints × Option CodePoints
  | [] => ([], none)
  | point :: rest =>
    if point = equalsSign then ([], some rest)
    else let (before, after) := splitEquals rest; (point :: before, after)

def isDecimal (point : Nat) : Bool := (Digit.decimal? (Char.ofNat point)).isSome

/-- A dash and a decimal number, whole or with a point; one line feed may follow. -/
def isNegativeNumber : CodePoints → Bool
  | dash :: rest =>
    let rest := match rest.reverse with
      | lineFeed :: body => body.reverse
      | _ => rest
    match rest.dropWhile isDecimal with
    | [] => !rest.isEmpty
    | decimalPoint :: fraction => !fraction.isEmpty && fraction.all isDecimal
    | _ => false
  | _ => false

def Grammar.named? (s : Grammar) (written : CodePoints) : Option String :=
  s.names.find? fun name => CodePoints.ofString name = written

/-- What a written option could stand for: a long name that starts with it, or the short
help option. -/
def Grammar.candidates (s : Grammar) (written : CodePoints) : List (String × Reading) :=
  match written with
  | dash :: dash :: _ =>
    let (stem, value) := splitEquals written
    (s.names.filter fun name => stem.isPrefixOf (CodePoints.ofString name)).map fun name =>
      (name, .option name value)
  | dash :: letterH :: letters => [("-h", .help letters)]
  | _ => []

def Grammar.readPart (s : Grammar) (argument : CodePoints) : Except Fault Reading :=
  match s.candidates argument with
  | [(_, reading)] => .ok reading
  | [] =>
    if isNegativeNumber argument || argument.contains blankSpace then .ok .plain else .ok .unknown
  | several => .error (.ambiguous argument (several.map Prod.fst))

def Grammar.read (s : Grammar) (argument : CodePoints) : Except Fault Reading :=
  if argument.head? ≠ some dash then
    .ok .plain
  else
    match s.named? argument with
    | some name => .ok (.option name none)
    | none =>
      let (stem, value) := splitEquals argument
      if argument.length = 1 then
        .ok .plain
      else
        match s.named? stem, value with
        | some "-h", some letters => .ok (.help letters)
        | some name, some value => .ok (.option name (some value))
        | _, _ => s.readPart argument

/-- Reads all arguments; after the first double dash everything is plain. -/
def Grammar.readAll (s : Grammar) : List CodePoints → Except Fault (List (CodePoints × Reading))
  | [] => .ok []
  | argument :: rest =>
    if argument = doubleDash then
      .ok ((argument, .separator) :: rest.map (·, .plain))
    else do
      let reading ← s.read argument
      return (argument, reading) :: (← readAll s rest)

def convert (takes : Takes) (name : String) (value : CodePoints) : Except Fault Given :=
  match takes with
  | .nothing => .ok (.flag name)
  | .text => .ok (.text name value)
  | .number =>
    match Numeral.decimal? value with
    | some n => .ok (.number name n)
    | none => .error (.notNumber name value)
  | .choice values =>
    if (values.map CodePoints.ofString).contains value then .ok (.text name value)
    else .error (.notChoice name value values)

def Grammar.withValue (s : Grammar) (name : String) (value : CodePoints) : Except Fault Given :=
  match s.takes name with
  | .nothing => .error (.unwantedValue (shownName name) value)
  | takes => if value = doubleDash then .ok (.blank name) else convert takes name value

/-- What comes of the short help option with letters behind it, or after an equals sign.
They may repeat the option and say nothing else. -/
def helpFault (letters : CodePoints) : Fault :=
  let rest := letters.dropWhile (· = letterH)
  if rest.isEmpty && !letters.isEmpty then .helpWanted
  else .unwantedValue (shownName "-h") rest

def Grammar.needsNext (s : Grammar) (name : String) : Bool :=
  s.takes name ≠ .nothing

/-- What was given and what could not be placed. `wanted` tells whether the positional
argument is still to come. -/
def Grammar.place (s : Grammar) (wanted : Bool) :
    List (CodePoints × Reading) → Except Fault (List Given × List CodePoints)
  | [] => .ok ([], [])
  | (argument, .unknown) :: rest => do
    let (given, extra) ← place s wanted rest
    return (given, argument :: extra)
  | (_, .help letters) :: _ => .error (helpFault letters)
  | (_, .option name (some value)) :: rest => do
    let first ← s.withValue name value
    let (given, extra) ← place s wanted rest
    return (first :: given, extra)
  | (_, .option name none) :: rest =>
    if helpNames.contains name then
      .error .helpWanted
    else if s.needsNext name then
      match rest with
      | (value, .plain) :: rest => do
        let first ← convert (s.takes name) name value
        let (given, extra) ← place s wanted rest
        return (first :: given, extra)
      | _ => .error (.noValue name)
    else do
      let (given, extra) ← place s wanted rest
      return (.flag name :: given, extra)
  | (argument, .plain) :: rest =>
    if wanted then
      match rest with
      | (_, .separator) :: rest => do
        let (given, extra) ← place s false rest
        return (.positional argument :: given, extra)
      | rest => do
        let (given, extra) ← place s false rest
        return (.positional argument :: given, extra)
    else do
      let (given, extra) ← place s wanted rest
      return (given, argument :: extra)
  | (argument, .separator) :: rest =>
    if wanted then
      match rest with
      | (value, .plain) :: rest => do
        let (given, extra) ← place s false rest
        return (.positional value :: given, extra)
      | rest => place s false rest
    else do
      let (given, extra) ← place s wanted rest
      return (given, argument :: extra)

def Given.name? : Given → Option String
  | .flag name | .text name _ | .number name _ | .blank name => some name
  | .positional _ => none

/-- Reads a command line. Missing options are reported before arguments that could not be
placed. -/
def Grammar.parse (s : Grammar) (arguments : List CodePoints) : Except Fault (List Given) := do
  let readings ← s.readAll arguments
  let (given, extra) ← s.place s.operand.isSome readings
  let absent := (s.options.filter fun o => o.required && !(given.any (·.name? == some o.name))).map
    Spec.name
  if !absent.isEmpty then .error (.missing absent)
  else if !extra.isEmpty then .error (.unrecognized extra)
  else .ok given

def hasFlag (given : List Given) (name : String) : Bool := given.contains (.flag name)

inductive Setting (α : Type)
  | absent
  /-- The option is there, but says nothing. -/
  | blank
  | value (a : α)
deriving DecidableEq, Repr

/-- What a program cannot do with an option that says nothing. -/
inductive Lack
  | trim
  | split
  | exceedZero
  | compareZero
  | seed
  | openFile
deriving DecidableEq, Repr

def Lack.message : Lack → String
  | .trim => "'list' object has no attribute 'strip'"
  | .split => "'list' object has no attribute 'partition'"
  | .exceedZero => "'>' not supported between instances of 'list' and 'int'"
  | .compareZero => "'<=' not supported between instances of 'list' and 'int'"
  | .seed => "The only supported seed types are: None,\nint, float, str, bytes, and bytearray."
  | .openFile => "expected str, bytes or os.PathLike object, not list"

namespace Setting

variable {α : Type}

def value? : Setting α → Option α
  | .value a => some a
  | _ => none

/-- The value, if the option is there. One that says nothing is refused. -/
def ask (lack : Lack) : Setting α → Except Lack (Option α)
  | .absent => .ok none
  | .blank => .error lack
  | .value a => .ok (some a)

def last (settings : List (Setting α)) : Setting α := settings.getLast?.getD .absent

end Setting

def texts (given : List Given) (name : String) : List (Setting CodePoints) :=
  given.filterMap fun
    | .text known value => if known = name then some (.value value) else none
    | .blank known => if known = name then some .blank else none
    | _ => none

def numbers (given : List Given) (name : String) : List (Setting Int) :=
  given.filterMap fun
    | .number known value => if known = name then some (.value value) else none
    | .blank known => if known = name then some .blank else none
    | _ => none

def text (given : List Given) (name : String) : Setting CodePoints := .last (texts given name)

def number (given : List Given) (name : String) : Setting Int := .last (numbers given name)

def positional? (given : List Given) : Option CodePoints :=
  (given.filterMap fun
    | .positional value => some value
    | _ => none).getLast?

inductive Refusal (φ : Type)
  | wrong (fault : φ)
  | lacking (what : Lack)
deriving DecidableEq, Repr

end Chip8.CommandLine

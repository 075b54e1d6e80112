import VmLaunch.Decimal.Text
import VmLaunch.Text.Pieces

/-!
# Reading command lines

A `Level` says what a command line may hold: switches, with or without a value,
operands, and commands at which a level of its own begins. `Level.read` goes
through the words from left to right and stops at the first one that asks for help
or for the version, or that has no place.

A value follows its switch as the next word or is attached to it. A word that looks
like a switch is a value only when it is attached.
-/

namespace VmLaunch.CommandLine

/-- Why reading ends before the last word. Help is for a command or for the program. -/
inductive Stop where
  | help (command : Option String)
  | version
  | misuse
  deriving DecidableEq, Inhabited

/-- What a value may be. -/
inductive ValueKind where
  | text
  | path
  | number
  | oneOf (words : List String)
  deriving DecidableEq, Inhabited

/-- Whether a word is a value of a kind. -/
def ValueKind.accepts : ValueKind → String → Bool
  | .text, _ => true
  | .path, word => word != ""
  | .number, word => (Binary64.parse? word).isSome
  | .oneOf words, word => words.contains word

/-- What a switch does. -/
inductive SwitchKind where
  | flag
  | value (kind : ValueKind)
  | help
  | version
  deriving DecidableEq, Inhabited

/-- A word that begins with two hyphens, or a letter that follows one. -/
structure Switch where
  name : String
  letter : Option Char := none
  kind : SwitchKind
  purpose : String := ""
  fallback : Option String := none
  required : Bool := false
  deriving DecidableEq, Inhabited

/-- Whether a switch has a value. -/
def Switch.hasValue (switch : Switch) : Bool :=
  match switch.kind with
  | .value _ => true
  | _ => false

/-- A word that is neither a switch nor a value of one. -/
structure Operand where
  label : String
  kind : ValueKind
  purpose : String := ""
  deriving DecidableEq, Inhabited

/-- What a command line may hold after a command, or before one. Every level of a
program has the shared switches. -/
structure Level where
  command : Option String := none
  purpose : String
  own : List Switch := []
  shared : List Switch := []
  closing : List Switch := []
  commands : List (String × String) := []
  operand : Option Operand := none
  deriving Inhabited

/-- The switches of a level. -/
def Level.switches (level : Level) : List Switch :=
  level.own ++ level.shared ++ level.closing

/-- Whether a word is a command of a level. -/
def Level.hasCommand (level : Level) (word : String) : Bool :=
  (level.commands.lookup word).isSome

/-- What was read: values by the names of their switches, and operands. `refused` tells
that the word before a command was no value for its switch. -/
structure Found where
  given : List (String × String) := []
  operands : List String := []
  refused : Bool := false
  deriving Inhabited

namespace Found

/-- The value of a switch. -/
def value? (found : Found) (name : String) : Option String :=
  found.given.lookup name

/-- Whether a switch was given. -/
def has (found : Found) (name : String) : Bool :=
  (found.value? name).isSome

/-- Take a switch with its value; no switch may be given twice. -/
def take (found : Found) (level : Level) (switch : Switch) (value : String) :
    Except Stop Found :=
  if found.has switch.name then .error .misuse
  else
    match switch.kind with
    | .help => .error (.help level.command)
    | .version => .error .version
    | .flag => .ok { found with given := (switch.name, "") :: found.given }
    | .value kind =>
      if kind.accepts value then .ok { found with given := (switch.name, value) :: found.given }
      else .error .misuse

/-- Take an operand. -/
def takeOperand (found : Found) (level : Level) (word : String) : Except Stop Found :=
  match level.operand, found.operands with
  | some operand, [] =>
    if operand.kind.accepts word then .ok { found with operands := [word] } else .error .misuse
  | _, _ => .error .misuse

/-- Take every word as an operand. -/
def takeOperands (level : Level) : Found → List String → Except Stop Found
  | found, [] => .ok found
  | found, word :: rest =>
    match found.takeOperand level word with
    | .ok found => takeOperands level found rest
    | .error stop => .error stop

end Found

namespace Level

/-- The switch of a name. -/
def named? (level : Level) (name : String) : Option Switch :=
  level.switches.find? fun switch => switch.name == name

/-- The switch of a letter. -/
def lettered? (level : Level) (letter : Char) : Option Switch :=
  level.switches.find? fun switch => switch.letter == some letter

/-- Read what follows two hyphens; the switch that is left needs the next word as its
value. -/
def readLong (level : Level) (found : Found) (word : String) :
    Except Stop (Found × Option Switch) :=
  let (name, attached) :=
    match Text.cut? '=' word with
    | some (name, value) => (name, some value)
    | none => (word, none)
  match level.named? name with
  | none => .error .misuse
  | some switch =>
    match switch.hasValue, attached with
    | true, none => .ok (found, some switch)
    | true, some value => (found.take level switch value).map fun found => (found, none)
    | false, none => (found.take level switch "").map fun found => (found, none)
    | false, some _ => .error .misuse

/-- The value attached to a letter; an equals sign may stand between them. -/
def attachedValue : List Char → String
  | '=' :: rest => String.ofList rest
  | cs => String.ofList cs

/-- Read the letters after one hyphen; the first with a value takes the rest. -/
def readLetters (level : Level) : Found → List Char → Except Stop (Found × Option Switch)
  | found, [] => .ok (found, none)
  | found, c :: rest =>
    match level.lettered? c with
    | none => .error .misuse
    | some switch =>
      if switch.hasValue then
        if rest.isEmpty then .ok (found, some switch)
        else (found.take level switch (attachedValue rest)).map fun found => (found, none)
      else
        match found.take level switch "" with
        | .ok found => readLetters level found rest
        | .error stop => .error stop

/-- Whether a word is a switch rather than an operand or a value. -/
def isSwitchWord (word : String) : Bool :=
  Text.startsWith word "-" && word != "-"

/-- Read a word that is a switch. -/
def readSwitch (level : Level) (found : Found) (word : String) :
    Except Stop (Found × Option Switch) :=
  match Text.dropStart? "--" word with
  | some rest => level.readLong found rest
  | none => level.readLetters found (word.toList.drop 1)

/-- What is left when a value was refused. Before a command the fault counts only once
the command has been read. -/
def refuse (level : Level) (found : Found) :
    List String → Except Stop (Found × Option (String × List String))
  | [] => .error .misuse
  | word :: rest =>
    if level.hasCommand word then .ok ({ found with refused := true }, some (word, rest))
    else .error .misuse

/-- Read words up to a command, which is given with the words after it. -/
def read (level : Level) : Found → List String →
    Except Stop (Found × Option (String × List String))
  | found, [] => .ok (found, none)
  | found, word :: rest =>
    if level.hasCommand word then .ok (found, some (word, rest))
    else if word == "--" then (found.takeOperands level rest).map fun found => (found, none)
    else if isSwitchWord word then
      match level.readSwitch found word with
      | .error stop => .error stop
      | .ok (found, none) => level.read found rest
      | .ok (found, some switch) =>
        match rest with
        | [] => .error .misuse
        | value :: more =>
          if isSwitchWord value then .error .misuse
          else
            match found.take level switch value with
            | .ok found => level.read found more
            | .error _ => level.refuse found more
    else
      match found.takeOperand level word with
      | .ok found => level.read found rest
      | .error stop => .error stop

end Level

end VmLaunch.CommandLine

import VmLaunch.CommandLine.Switch

/-!
# Help

The help of a level says what it is for, how a command line of it is formed and what it
may hold. Labels stand in one column and what they mean in another; where a meaning
would not fit beside the labels, every meaning of that part stands below its label.
-/

namespace VmLaunch.CommandLine

/-- A label and its meaning. `width` counts the columns of the label after the room for
a letter. -/
structure HelpRow where
  label : String
  width : Nat
  meaning : String
  deriving DecidableEq, Inhabited

namespace HelpRow

/-- How many columns a line has. -/
def lineWidth : Nat :=
  100

/-- A number of blanks. -/
def blanks (n : Nat) : String :=
  String.ofList (List.replicate n ' ')

/-- How many columns the labels of rows take. -/
def labelWidth (rows : List HelpRow) : Nat :=
  rows.foldl (fun widest row => max widest row.width) 2

/-- Whether a meaning is too long to stand beside labels that take more than two fifths
of a line. -/
def overflows (widest : Nat) (row : HelpRow) : Bool :=
  let taken := widest + 12
  decide (taken ≤ lineWidth ∧ 2 * lineWidth < 5 * taken ∧
    lineWidth - taken < row.meaning.length)

/-- A row with its meaning below its label or beside it. -/
def line (below : Bool) (widest : Nat) (row : HelpRow) : String :=
  if below then "  " ++ row.label ++ "\n" ++ blanks 10 ++ row.meaning
  else "  " ++ row.label ++ blanks (widest + 2 - row.width) ++ row.meaning

/-- The part of a help that consists of rows; without rows it is left out. -/
def part (title : String) (rows : List HelpRow) : List String :=
  let widest := labelWidth rows
  if rows.isEmpty then []
  else [title ++ ":\n" ++ Text.join "\n" (rows.map (line (rows.any (overflows widest)) widest))]

end HelpRow

/-- What a kind of value says of itself in a help. -/
def ValueKind.note : ValueKind → List String
  | .oneOf words => ["[possible values: " ++ Text.join ", " words ++ "]"]
  | _ => []

/-- The meaning of a purpose with notes. -/
def meaning (purpose : String) (notes : List String) : String :=
  Text.join " " (([purpose] ++ notes).filter (· != ""))

namespace Switch

/-- The name of a value in a help. -/
def placeholder (switch : Switch) : String :=
  String.ofList (switch.name.toList.map fun c => if c = '-' then '_' else c.toUpper)

/-- A switch with its value. -/
def label (switch : Switch) : String :=
  "--" ++ switch.name ++ if switch.hasValue then " <" ++ switch.placeholder ++ ">" else ""

/-- What a switch says of its value in a help. -/
def notes (switch : Switch) : List String :=
  let chosen := switch.fallback.toList.map fun word => "[default: " ++ word ++ "]"
  match switch.kind with
  | .value kind => chosen ++ kind.note
  | _ => []

/-- The row of a switch. -/
def row (switch : Switch) : HelpRow where
  label :=
    (match switch.letter with
      | some c => String.ofList ['-', c, ',', ' ']
      | none => HelpRow.blanks 4) ++ switch.label
  width := switch.label.length
  meaning := meaning switch.purpose switch.notes

/-- What orders switches of one rank: the letter, or the name where there is none. -/
def orderKey (switch : Switch) : String :=
  match switch.letter with
  | some c => String.ofList [c.toLower, if c.isLower then '0' else '1']
  | none => switch.name

end Switch

/-- The row of an operand. -/
def Operand.row (operand : Operand) : HelpRow where
  label := operand.label
  width := operand.label.length
  meaning := meaning operand.purpose operand.kind.note

/-- The row of a command. -/
def commandRow (name purpose : String) : HelpRow :=
  ⟨name, name.length, purpose⟩

/-- Whether a switch goes before another that has a rank too, or may stand at its side. -/
def ranksFirst (a b : Switch × Nat) : Bool :=
  decide (a.2 < b.2) || (a.2 == b.2 && !decide (b.1.orderKey < a.1.orderKey))

namespace Level

/-- The switches in the order of a help: own and shared ones rank by their places among
their like, and the closing ones come last. -/
def listed (level : Level) : List Switch :=
  ((level.own.zipIdx ++ level.shared.zipIdx).mergeSort ranksFirst).map (·.1) ++ level.closing

/-- What a command line has to hold besides what may be left out. -/
def demands (level : Level) : List String :=
  ((level.own ++ level.shared).filter (·.required)).map Switch.label ++
    level.operand.toList.map Operand.label ++
    (if level.commands.isEmpty then [] else ["<COMMAND>"])

/-- How a command line is formed. -/
def usage (level : Level) (program : String) : String :=
  let options := (level.own ++ level.shared).any fun switch => !switch.required
  "Usage: " ++ Text.join " " ([program] ++ level.command.toList ++
    (if options then ["[OPTIONS]"] else []) ++ level.demands)

/-- The help of a level of a program. -/
def help (level : Level) (program : String) : String :=
  Text.join "\n\n" ([level.purpose, level.usage program] ++
    HelpRow.part "Commands" (level.commands.map fun (name, purpose) => commandRow name purpose) ++
    HelpRow.part "Arguments" (level.operand.toList.map Operand.row) ++
    HelpRow.part "Options" (level.listed.map Switch.row)) ++ "\n"

end Level

end VmLaunch.CommandLine

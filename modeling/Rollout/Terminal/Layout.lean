import Rollout.Fleet.Probe
import Rollout.Terminal.Style

/-!
# Lines on a terminal

The parts that the output of the commands is made of. Every function here gives whole lines,
without their line breaks.

## Main definitions

* `Terminal.column` — a text as a cell of a table
* `Terminal.header`, `Terminal.sectionTitle`, `Terminal.pair` — titles and entries
* `Terminal.info`, `Terminal.success`, `Terminal.warning`, `Terminal.failure` — messages
-/

namespace Rollout.Terminal

/-- A text as a cell of so many characters: padded with blanks, or cut short with an ellipsis and
a blank behind it unless at least one blank is left anyway. There is no greatest width here, where
that of a formatted text ends at 65535. -/
def column (text : String) (width : Nat) : String :=
  let chars := text.toList
  if chars.length < width then
    String.ofList (chars ++ List.replicate (width - chars.length) ' ')
  else String.ofList (chars.take (width - 2) ++ ['…', ' '])

/-- A message behind a symbol in a colour. -/
def symbolLine (symbol : String) (colour : Colour) (colours : Bool) (message : String) : String :=
  (Style.ofColour colour).paint colours symbol ++ " " ++ message

/-- A message for information. -/
def info : Bool → String → String := symbolLine "ℹ" .blue

/-- A message of success. -/
def success : Bool → String → String := symbolLine "✓" .green

/-- A message of warning. -/
def warning : Bool → String → String := symbolLine "⚠" .yellow

/-- A message of failure. -/
def failure : Bool → String → String := symbolLine "✗" .red

/-- Text in the background. -/
def dim (colours : Bool) (text : String) : String := Style.paint { dimmed := true } colours text

/-- Text in bold. -/
def bold (colours : Bool) (text : String) : String := Style.paint { bold := true } colours text

/-- A remark in the background. -/
def remark (colours : Bool) (message : String) : String := "  " ++ dim colours message

/-- A title with a line below it and an empty line above. -/
def header (colours : Bool) (title : String) : List String :=
  ["", bold colours title, dim colours (String.ofList (title.toList.map fun _ => '─'))]

/-- The title of a section, with an empty line above. -/
def sectionTitle (colours : Bool) (title : String) : List String :=
  ["", Style.paint { bold := true, colour := some .cyan } colours title]

/-- A value with its name. -/
def pair (colours : Bool) (key value : String) : String :=
  "  " ++ dim colours key ++ ": " ++ value

/-- The colour of a condition. -/
def conditionColour : Condition → Colour
  | .running => .green
  | .stopped => .red
  | .other _ => .yellow

/-- The label of a condition in its colour. -/
def conditionLabel (colours : Bool) (c : Condition) : String :=
  Style.paint { bold := true, colour := some (conditionColour c) } colours c.label

end Rollout.Terminal

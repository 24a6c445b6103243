/-!
# Styled text

Text on a terminal is styled by an escape sequence before it and a reset after it. With colours
switched off, styled text is the text itself.

## Main definitions

* `Style` — a colour and other features of a text
* `Style.paint` — a text in a style
-/

namespace Rollout

/-- The colours in use. -/
inductive Colour where
  | red
  | green
  | yellow
  | blue
  | cyan
deriving DecidableEq, Repr

/-- The code of a foreground colour. -/
def Colour.code : Colour → String
  | .red => "31"
  | .green => "32"
  | .yellow => "33"
  | .blue => "34"
  | .cyan => "36"

/-- How a text looks. -/
structure Style where
  bold : Bool := false
  dimmed : Bool := false
  italic : Bool := false
  underline : Bool := false
  colour : Option Colour := none
deriving DecidableEq, Repr

namespace Style

/-- Text as it is. -/
def plain : Style := {}

/-- Text in a colour. -/
def ofColour (colour : Colour) : Style := { colour := some colour }

/-- The codes of a style: those of its features in ascending order, then its colour. -/
def codes (s : Style) : List String :=
  (if s.bold then ["1"] else []) ++ (if s.dimmed then ["2"] else []) ++
    (if s.italic then ["3"] else []) ++ (if s.underline then ["4"] else []) ++
    (s.colour.map Colour.code).toList

/-- The escape sequence that ends all styles. -/
def reset : List Char := ['\x1b', '[', '0', 'm']

/-- The escape sequence that starts a style. -/
def start (s : Style) : List Char :=
  '\x1b' :: '[' :: (";".intercalate s.codes).toList ++ ['m']

/-- A text in which a style starts again behind every reset. -/
def restart (s : Style) : List Char → List Char
  | '\x1b' :: '[' :: '0' :: 'm' :: rest => reset ++ s.start ++ s.restart rest
  | c :: rest => c :: s.restart rest
  | [] => []

/-- A text in a style. -/
def paint (s : Style) (colours : Bool) (text : String) : String :=
  if !colours || s.codes.isEmpty then text
  else String.ofList (s.start ++ s.restart text.toList ++ reset)

@[simp] theorem paint_off (s : Style) (text : String) : s.paint false text = text := by
  simp [paint]

end Style

end Rollout

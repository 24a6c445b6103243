/-!
# The grammar of command lines

A command line is read word by word. A word is a long option, a row of short options, or an
argument; after `--` all words are arguments. The value of an option stands behind it in the same
word or is the next word.

What was given last stays open until the next thing is settled: only then its value is checked.
That decides which of two mistakes on a command line is reported.

## Main definitions

* `CommandLine.UsageError` — why a command line is not understood
* `CommandLine.Spec` — the options and arguments of a command
* `CommandLine.Given`, `Spec.read` — what the words of a command line give
-/

namespace Rollout.CommandLine

/-- Why a command line is not understood, or what it asks for instead of a command. -/
inductive UsageError where
  | unknownArgument
  | missingRequiredArgument
  | missingSubcommand
  | invalidSubcommand
  | invalidValue
  | valueValidation
  | argumentConflict
  | tooManyValues
  | help
  | version
  | helpOnMissing
deriving DecidableEq, Repr

/-- The values that an option or argument takes. -/
inductive ValueKind where
  /-- Any text. -/
  | text
  /-- A natural number of at most 64 bits. -/
  | natural
  /-- One of some words. -/
  | oneOf (words : List String)

/-- The greatest number that a command line can give. -/
def maxNatural : Nat := 0xFFFFFFFFFFFFFFFF

/-- The natural number up to `maxNatural` that a text writes in decimal, after a plus sign or
not. -/
def parseNatural (s : String) : Option Nat :=
  let digits := match s.toList with
    | '+' :: rest => rest
    | cs => cs
  let value := digits.foldl (fun n d => n * 10 + (d.toNat - '0'.toNat)) 0
  if digits.isEmpty || !digits.all Char.isDigit || maxNatural < value then none else some value

/-- Checks a value. -/
def ValueKind.check (kind : ValueKind) (value : String) : Except UsageError Unit :=
  match kind with
  | .text => .ok ()
  | .natural => if (parseNatural value).isSome then .ok () else .error .valueValidation
  | .oneOf words => if value ∈ words then .ok () else .error .invalidValue

/-- What an option does. -/
inductive Action where
  /-- It is counted, as often as it is given. -/
  | count
  /-- It may be given once. -/
  | flag
  /-- It may be given once, with a value. -/
  | value (kind : ValueKind)
  /-- It asks for help. -/
  | help
  /-- It asks for the version. -/
  | version

/-- An option, by the name that it has after two hyphens and the letter that it may have after
one. -/
structure Opt where
  name : String
  letter : Option Char
  action : Action

/-- An argument of a command, all of which have to be given. -/
structure Argument where
  name : String
  kind : ValueKind

/-- The options and arguments of a command, and the options that exclude each other. -/
structure Spec where
  options : List Opt
  arguments : List Argument
  exclusive : List (String × String)

/-- Something that was given last, with its value if it has one by now. -/
structure Open where
  name : String
  kind : ValueKind
  value : Option String

/-- What the words so far give. -/
structure Given where
  values : List (String × String) := []
  count : Nat := 0
  arguments : Nat := 0
  last : Option Open := none
  onlyArguments : Bool := false

namespace Given

/-- The value of an option or argument. -/
def value? (g : Given) (name : String) : Option String := g.values.lookup name

/-- Whether an option or argument was given. -/
def has (g : Given) (name : String) : Bool := (g.value? name).isSome

/-- Adds a value. Nothing may be given twice. -/
def add (g : Given) (name : String) (kind : ValueKind) (value : String) :
    Except UsageError Given := do
  if g.has name then throw .argumentConflict
  kind.check value
  return { g with values := g.values ++ [(name, value)] }

/-- Settles what was given last. -/
def settle (g : Given) : Except UsageError Given :=
  match g.last with
  | none => .ok g
  | some last =>
    match last.value with
    | none => .error .invalidValue
    | some value => { g with last := none }.add last.name last.kind value

/-- Does what an option does that has no value. -/
def act (g : Given) (o : Opt) : Except UsageError Given := do
  let g ← g.settle
  match o.action with
  | .count => return { g with count := g.count + 1 }
  | .flag | .value _ => g.add o.name .text ""
  | .help => throw .help
  | .version => throw .version

/-- Gives an option its value, or leaves it open for the next word. -/
def withValue (g : Given) (o : Opt) (kind : ValueKind) (value : Option String) :
    Except UsageError Given := do
  let g ← g.settle
  match value with
  | some v => g.add o.name kind v
  | none => return { g with last := some ⟨o.name, kind, none⟩ }

/-- Whether an option waits for its value. -/
def isWaiting (g : Given) : Bool :=
  match g.last with
  | some last => last.value.isNone
  | none => false

end Given

/-- The part of a text before its first `=`, and the part after it. -/
def splitValue (cs : List Char) : List Char × Option String :=
  match cs.dropWhile (· != '=') with
  | [] => (cs, none)
  | _ :: value => (cs.takeWhile (· != '='), some (String.ofList value))

namespace Spec

/-- Reads a long option, without its hyphens. -/
def readLong (spec : Spec) (g : Given) (word : List Char) : Except UsageError Given :=
  let (name, value) := splitValue word
  match spec.options.find? fun o => o.name.toList == name with
  | none => .error .unknownArgument
  | some o =>
    match o.action, value with
    | .value kind, _ => g.withValue o kind value
    | _, some _ => .error .tooManyValues
    | _, none => g.act o

/-- Reads a row of short options, without the hyphen. One with a value ends the row. -/
def readShort (spec : Spec) (g : Given) : List Char → Except UsageError Given
  | [] => .ok g
  | c :: rest =>
    match spec.options.find? fun o => o.letter == some c with
    | none => .error .unknownArgument
    | some o =>
      match o.action with
      | .value kind =>
        let value := match rest with
          | [] => none
          | '=' :: value => some (String.ofList value)
          | value => some (String.ofList value)
        g.withValue o kind value
      | _ => do spec.readShort (← g.act o) rest

/-- Reads an argument. -/
def readArgument (spec : Spec) (g : Given) (word : String) : Except UsageError Given :=
  match spec.arguments[g.arguments]? with
  | none => .error .unknownArgument
  | some a => do
    let g ← g.settle
    return { g with arguments := g.arguments + 1, last := some ⟨a.name, a.kind, some word⟩ }

/-- Reads one word. -/
def readWord (spec : Spec) (g : Given) (word : String) : Except UsageError Given :=
  if g.onlyArguments then spec.readArgument g word
  else
    match word.toList with
    | ['-', '-'] => .ok { g with onlyArguments := true }
    | '-' :: '-' :: name => spec.readLong g name
    | '-' :: c :: rest => spec.readShort g (c :: rest)
    | _ =>
      match g.last, g.isWaiting with
      | some last, true => .ok { g with last := some { last with value := some word } }
      | _, _ => spec.readArgument g word

/-- Checks that all arguments are there, and no two options that exclude each other. -/
def complete (spec : Spec) (g : Given) : Except UsageError Given := do
  let g ← g.settle
  if spec.exclusive.any fun (a, b) => g.has a && g.has b then throw .argumentConflict
  if g.arguments < spec.arguments.length then throw .missingRequiredArgument
  return g

/-- Reads the words of a command. -/
def read (spec : Spec) (words : List String) : Except UsageError Given := do
  spec.complete (← words.foldlM spec.readWord {})

end Spec

end Rollout.CommandLine

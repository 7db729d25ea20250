import SurfaceDrift.Text.Blank

/-!
# Switches

A switch is an argument that begins with one hyphen and a letter or with two hyphens and a
word. A switch may take values : one, or as many as follow it up to the next switch. A value
may also be part of the argument, after an equals sign or right after the letter, and is then
the only one. Letters of switches without values may stand together behind one hyphen.

`readSwitches` reads the arguments of a command up to the name of a command inside it. The
first argument that cannot be read decides, and so does a call for help or for the version.
-/

namespace SurfaceDrift.CommandLine

/-- How many values a switch takes. -/
inductive ValueCount where
  | none
  | one
  | several
deriving DecidableEq, Repr

/-- What a switch is for. -/
inductive Role where
  | setting
  | help
  | version
deriving DecidableEq, Repr

/-- A switch : its word and its letter, its values and which ones it accepts, and whether it
may be given more than once. -/
structure Switch where
  word : String
  letter : Option Char
  values : ValueCount
  repeatable : Bool
  accepts : String → Bool
  role : Role

/-- Why arguments do not lead to a command that can be run. -/
inductive Detour where
  | help
  | version
  | misuse
deriving DecidableEq, Repr

/-- The switches that were given, by word, with their values. -/
abbrev Given := List (String × List String)

/-- The values of all switches of a word. -/
def Given.values (given : Given) (word : String) : List String :=
  (given.filter (·.1 = word)).flatMap (·.2)

/-- The value of the last switch of a word. -/
def Given.value? (given : Given) (word : String) : Option String :=
  (given.values word).getLast?

/-- Whether a switch was given. -/
def Given.has (given : Given) (word : String) : Bool := given.any (·.1 = word)

/-- How often a switch was given. -/
def Given.count (given : Given) (word : String) : Nat := (given.filter (·.1 = word)).length

/-- Adds a switch with its values. -/
def Given.add (given : Given) (s : Switch) (values : List String) : Except Detour Given :=
  match s.role with
  | .help => .error .help
  | .version => .error .version
  | .setting =>
    if (given.has s.word && !s.repeatable) || !values.all s.accepts then .error .misuse
    else .ok (given ++ [(s.word, values)])

/-- A switch that waits for values, and those that it has. -/
structure Waiting where
  switch : Switch
  values : List String

/-- The switches so far, and the one that waits. -/
structure Progress where
  given : Given
  waiting : Option Waiting

namespace Progress

/-- Ends the wait; a switch that takes values must have one. -/
def settle (p : Progress) : Except Detour Given :=
  match p.waiting with
  | none => .ok p.given
  | some w => if w.values.isEmpty then .error .misuse else p.given.add w.switch w.values

/-- A switch, with the value that is part of its argument. -/
def begin (p : Progress) (s : Switch) (attached : Option String) : Except Detour Progress := do
  let given ← p.settle
  match s.values, attached with
  | .none, none => return ⟨← given.add s [], none⟩
  | .none, some _ => .error .misuse
  | _, some value => return ⟨← given.add s [value], none⟩
  | _, none => return ⟨given, some ⟨s, []⟩⟩

/-- An argument that is no switch, for the switch that waits. -/
def takeValue (p : Progress) (value : String) : Except Detour Progress :=
  match p.waiting with
  | none => .error .misuse
  | some w =>
    if w.switch.values = .several then
      .ok { p with waiting := some { w with values := w.values ++ [value] } }
    else do return ⟨← p.given.add w.switch [value], none⟩

end Progress

/-- A value behind a letter, with or without an equals sign. -/
def attachedValue : List Char → Option String
  | [] => none
  | '=' :: cs => some (String.ofList cs)
  | cs => some (String.ofList cs)

/-- The letters behind one hyphen. -/
def readLetters (switches : List Switch) (p : Progress) : List Char → Except Detour Progress
  | [] => .ok p
  | c :: cs =>
    match switches.find? (·.letter == some c) with
    | none => .error .misuse
    | some s =>
      if s.values = .none then do readLetters switches (← p.begin s none) cs
      else p.begin s (attachedValue cs)

/-- The word behind two hyphens, up to an equals sign, and the value behind it. -/
def readWord (switches : List Switch) (p : Progress) (cs : List Char) :
    Except Detour Progress :=
  let (word, attached) :=
    match Text.cut '=' cs with
    | some (word, value) => (word, some (String.ofList value))
    | none => (cs, none)
  match switches.find? (·.word == String.ofList word) with
  | none => .error .misuse
  | some s => p.begin s attached

/-- One argument. A lone hyphen is a value. -/
def readArgument (switches : List Switch) (p : Progress) (argument : String) :
    Except Detour Progress :=
  match argument.toList with
  | '-' :: '-' :: cs => readWord switches p cs
  | '-' :: c :: cs => readLetters switches p (c :: cs)
  | _ => p.takeValue argument

/-- What arguments hold : switches, and the name of an inner command with its arguments. -/
structure Reading where
  given : Given
  inner : Option (String × List String)

/-- Reads arguments up to the name of an inner command. Nothing may follow two hyphens alone. -/
def readSwitchesFrom (switches : List Switch) (commands : List String) (p : Progress) :
    List String → Except Detour Reading
  | [] => do return ⟨← p.settle, none⟩
  | argument :: rest =>
    if p.waiting.isNone && commands.contains argument then .ok ⟨p.given, some (argument, rest)⟩
    else if argument = "--" then
      if rest.isEmpty then do return ⟨← p.settle, none⟩ else .error .misuse
    else do readSwitchesFrom switches commands (← readArgument switches p argument) rest

/-- Reads the arguments of a command with some switches and inner commands. -/
def readSwitches (switches : List Switch) (commands : List String) (arguments : List String) :
    Except Detour Reading :=
  readSwitchesFrom switches commands ⟨[], none⟩ arguments

end SurfaceDrift.CommandLine

import SurfaceDrift.Decimal.Numeral
import SurfaceDrift.Error
import SurfaceDrift.Text.Blank
import SurfaceDrift.Text.Casing

/-!
# Options of an algorithm

An algorithm declares its options (`OptionSpec`) and reads their values from the parameters
it is given (`Options`), which hold no option that it does not declare (`Options.of`). The
command line knows texts only, so that every kind of value may also be spelled as a text. A
value that does not fit is an error, and an absent one is the default.
-/

namespace SurfaceDrift

/-- The parameters of one algorithm, by option. -/
abbrev Params := Fields Document

/-- The kind of value that an option takes. -/
inductive OptionKind where
  | float
  | integer
  | boolean
  | text
  | words
  | floatPair
deriving DecidableEq, Repr

/-- The kind in a listing. -/
def OptionKind.label : OptionKind → String
  | float => "float"
  | integer => "int"
  | boolean => "bool"
  | text => "text"
  | words => "text|list"
  | floatPair => "(float, float)"

/-- An option as an algorithm declares it; the default is for listings. -/
structure OptionSpec where
  key : String
  kind : OptionKind
  default : String
  help : String

/-- The parameters of an algorithm, each of a declared option. -/
structure Options where
  algorithm : String
  params : Params

namespace Options

/-- The parameters, unless one of them has no declared option. -/
def of (algorithm : String) (recognized : List String) (params : Params) :
    Except Error Options :=
  match List.find? (fun entry => !recognized.contains entry.1) params with
  | some entry => .error (.configuration (.unknownOption algorithm entry.1 recognized))
  | none => .ok ⟨algorithm, params⟩

/-- The error for a value that does not fit. -/
def unfit (options : Options) (key : String) (expected : Expected) (got : Document) : Error :=
  .configuration (.unfitOption options.algorithm key expected got)

/-- The value of an option by a reader that may refuse it, or the default. -/
def readWith {α : Type} (options : Options) (key : String) (expected : Expected) (default : α)
    (reader : Document → Option α) : Except Error α :=
  match Fields.find? options.params key with
  | none => .ok default
  | some value =>
    match reader value with
    | some result => .ok result
    | none => .error (options.unfit key expected value)

/-! ## Numbers -/

/-- A finite double, of a number or of a text. -/
def float? (d : Document) : Option Float :=
  let parsed :=
    match d with
    | .number n => some n.toFloat
    | .text s => Decimal.float? (Text.trim s)
    | _ => none
  parsed.filter Decimal.isFinite

/-- The signed word next to a whole number. -/
def clampInt64 (n : Int) : Int := max Decimal.minInt64 (min Decimal.maxInt64 n)

/-- A signed word, of a whole number or of a text. A whole number that no signed word holds
is read as the double next to it, and a double without a fraction as the word next to it. -/
def integer? : Document → Option Int
  | .number (.integer n) =>
    if Decimal.minInt64 ≤ n && n ≤ Decimal.maxInt64 then some n
    else (Decimal.integer? (Decimal.ofInteger n)).map clampInt64
  | .number (.double x) => (Decimal.integer? x).map clampInt64
  | .text s => Decimal.integer64? (Text.trim s)
  | _ => none

/-- The value of a float option. -/
def float (options : Options) (key : String) (default : Float) : Except Error Float :=
  options.readWith key .float default float?

/-- The value of an integer option. -/
def integer (options : Options) (key : String) (default : Int) : Except Error Int :=
  options.readWith key .integer default integer?

/-- Whether a character is a bracket that may stand around a pair. -/
def isBracket (c : Char) : Bool := c == '(' || c == ')' || c == '[' || c == ']'

/-- The values of a list, or of the pieces of a text between commas. -/
def floats? : Document → Option (List Float)
  | .list items => items.mapM float?
  | .text s =>
    (Text.pieces ',' (Text.stripBoth isBracket s.toList)).mapM fun piece =>
      float? (.text (String.ofList piece))
  | _ => none

/-- Two floats. -/
def pair? (d : Document) : Option (Float × Float) :=
  match floats? d with
  | some [lo, hi] => some (lo, hi)
  | _ => none

/-- The value of an option of two floats. -/
def floatPair (options : Options) (key : String) (default : Float × Float) :
    Except Error (Float × Float) :=
  options.readWith key .twoFloats default pair?

/-! ## Words -/

/-- A truth value, or one of the spellings of one. -/
def boolean? : Document → Option Bool
  | .bool b => some b
  | .text s =>
    match Text.lower s with
    | "true" => some true
    | "yes" => some true
    | "1" => some true
    | "false" => some false
    | "no" => some false
    | "0" => some false
    | _ => none
  | _ => none

/-- The value of a truth option. -/
def boolean (options : Options) (key : String) (default : Bool) : Except Error Bool :=
  options.readWith key .boolean default boolean?

/-- A text as it is. -/
def text? : Document → Option String
  | .text s => some s
  | _ => none

/-- The value of a text option. -/
def text (options : Options) (key : String) (default : String) : Except Error String :=
  options.readWith key .text default text?

/-- The words of a text between commas. -/
def wordsOfText (s : String) : List String :=
  ((Text.split ',' s).map Text.trim).filter fun word => !word.isEmpty

/-- The value of an option of words : a text with commas, or a list of texts. -/
def words (options : Options) (key : String) (default : List String) :
    Except Error (List String) :=
  match Fields.find? options.params key with
  | none => .ok default
  | some (.text s) => .ok (wordsOfText s)
  | some (.list items) =>
    items.mapM fun item =>
      match text? item with
      | some word => .ok word
      | none => .error (options.unfit key .listItem item)
  | some value => .error (options.unfit key .words value)

end Options

end SurfaceDrift

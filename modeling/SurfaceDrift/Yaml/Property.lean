import SurfaceDrift.Text.Reader
import SurfaceDrift.Yaml.Break
import SurfaceDrift.Yaml.Token

/-!
# Anchors, tags and directives

The small parts of a YAML text that do not hold data : the names of anchors, the tags of
nodes, and the directives before a document.
-/

namespace SurfaceDrift.Yaml

/-- The characters of names : ASCII letters, digits, the underscore and the hyphen. -/
def isNameChar (c : Char) : Bool := c.isAlphanum || c == '_' || c == '-'

/-! ## Anchors -/

/-- Whether a name of an anchor may end here. -/
def endsAnchor (cs : List Char) : Bool :=
  startsSpaced cs ||
    match cs with
    | c :: _ => c ∈ ['?', ':', ',', ']', '}', '%', '@', '\x60']
    | [] => true

/-- The name of an anchor, with the cursor at its mark. -/
def readAnchor (c : Cursor) : Option (String × Cursor) :=
  let c := c.step
  let name := c.taken isNameChar
  let after := c.drop name.length
  if name.isEmpty || !endsAnchor after.rest then none else some (String.ofList name, after)

/-! ## Tags -/

/-- The characters of a tag. -/
def isTagChar (c : Char) : Bool := isNameChar c || c ∈ ";/?:@&=+$.%!~*'()".toList

/-- The characters of a tag between angle brackets. -/
def isVerbatimTagChar (c : Char) : Bool := isTagChar c || c ∈ [',', '[', ']']

/-- How many bytes a character has whose first byte is `byte`. -/
def byteWidth? (byte : Nat) : Option Nat :=
  if byte < 0x80 then some 1
  else if 0xC0 ≤ byte && byte < 0xE0 then some 2
  else if 0xE0 ≤ byte && byte < 0xF0 then some 3
  else if 0xF0 ≤ byte && byte < 0xF8 then some 4
  else none

/-- One byte after a percent sign, in two digits of base sixteen. -/
def percentByte? : List Char → Option (Nat × List Char)
  | '%' :: a :: b :: cs => (Text.hexNumber? [a, b]).map fun byte => (byte, cs)
  | _ => none

/-- Bytes after the first one of a character. -/
def percentTail? : Nat → Nat → List Char → Option (Nat × List Char)
  | 0, n, cs => some (n, cs)
  | width + 1, n, cs => do
    let (byte, cs) ← percentByte? cs
    if byte / 64 = 2 then percentTail? width (64 * n + byte % 64) cs else none

/-- A character that is written by its bytes. -/
def percentChar? (cs : List Char) : Option (Char × List Char) := do
  let (byte, rest) ← percentByte? cs
  let width ← byteWidth? byte
  let first := if width = 1 then byte else byte % (1 <<< (7 - width))
  let (n, rest) ← percentTail? (width - 1) first rest
  return (← Text.charOf? n, rest)

/-- A tag with the characters that are written by their bytes. -/
def decodePercents : Nat → List Char → Option (List Char)
  | 0, _ => none
  | _, [] => some []
  | fuel + 1, '%' :: cs => do
    let (c, rest) ← percentChar? ('%' :: cs)
    return c :: (← decodePercents fuel rest)
  | fuel + 1, c :: cs => (decodePercents fuel cs).map (c :: ·)

/-- The characters of a tag that satisfy `p`, decoded. -/
def readTagText (p : Char → Bool) (c : Cursor) : Option (List Char × Cursor) := do
  let written := c.taken p
  let text ← decodePercents (written.length + 1) written
  return (text, c.drop written.length)

/-- A handle : an exclamation mark, or a name between two of them. What follows a lone one
that is not closed is part of the handle too. -/
def readHandle (c : Cursor) : Option (List Char × Cursor) :=
  match c.rest with
  | '!' :: cs =>
    let name := cs.takeWhile isNameChar
    let after := c.drop (1 + name.length)
    match after.rest with
    | '!' :: _ => some ('!' :: (name ++ ['!']), after.step)
    | _ => some ('!' :: name, after)
  | _ => none

/-- Whether a handle is closed by a second exclamation mark. -/
def isClosedHandle (handle : List Char) : Bool :=
  2 ≤ handle.length && handle.getLast? == some '!'

/-- A tag, up to its end. -/
def readTagName (c : Cursor) : Option (TagName × Cursor) := do
  match c.rest with
  | '!' :: '<' :: _ =>
    let (text, c) ← readTagText isVerbatimTagChar (c.drop 2)
    match c.rest with
    | '>' :: _ => if text.isEmpty then none else some (⟨"", String.ofList text⟩, c.step)
    | _ => none
  | _ =>
    let (handle, c) ← readHandle c
    let (text, c) ← readTagText isTagChar c
    if isClosedHandle handle then
      if text.isEmpty then none
      else some (⟨String.ofList handle, String.ofList text⟩, c)
    else
      let suffix := handle.drop 1 ++ text
      if suffix.isEmpty then some (⟨"", "!"⟩, c)
      else some (⟨"!", String.ofList suffix⟩, c)

/-- A tag with a blank, a break, the end, or inside brackets a comma after it. -/
def readTag (inFlow : Bool) (c : Cursor) : Option (TagName × Cursor) := do
  let (name, after) ← readTagName c
  if (inFlow && after.rest.head? == some ',') || startsSpaced after.rest then
    some (name, after)
  else none

/-! ## Directives -/

/-- A number of at most nine digits. -/
def readVersionNumber (c : Cursor) : Option (Nat × Cursor) :=
  let digits := c.taken Char.isDigit
  if digits.isEmpty || 9 < digits.length then none
  else (Text.numberOfBase? 10 digits).map fun n => (n, c.drop digits.length)

/-- The version after its directive's name. -/
def readVersion (c : Cursor) : Option (Token × Cursor) := do
  let (major, c) ← readVersionNumber c.dropBlanks
  match c.rest with
  | '.' :: _ =>
    let (minor, c) ← readVersionNumber c.step
    return (.versionDirective major minor, c)
  | _ => none

/-- The handle and the family of tags after their directive's name. -/
def readTagFamily (c : Cursor) : Option (Token × Cursor) := do
  let (handle, c) ← readHandle c.dropBlanks
  if !(isClosedHandle handle || handle = ['!']) then none
  if !(c.rest.head?.any isBlank) then none
  let (family, c) ← readTagText isVerbatimTagChar c.dropBlanks
  if family.isEmpty || !startsSpaced c.rest then none
  return (.tagDirective (String.ofList handle) (String.ofList family), c)

/-- A directive, with the cursor at its percent sign. -/
def readDirective (c : Cursor) : Option (Token × Cursor) := do
  let c := c.step
  let name := c.taken isNameChar
  let c := c.drop name.length
  if !startsSpaced c.rest then none
  let (token, c) ← if name = "YAML".toList then readVersion c
    else if name = "TAG".toList then readTagFamily c
    else none
  return (token, ← c.endLine?)

end SurfaceDrift.Yaml

import SurfaceDrift.Fields
import SurfaceDrift.Yaml.Token

/-!
# Nodes of YAML

A YAML document is one node : a scalar, a sequence or a mapping, or an alias of a node with
an anchor. `Node.ofTokens?` reads a document from its tokens; a text may hold one document
and no more.

Anchors are numbered. An anchor gets as its number how many names there are before it, and an
alias has the number that its name has at that point. Two anchors may get one number; it then
stands for the later one of them.
-/

namespace SurfaceDrift.Yaml

/-- What a node may have in front of it. -/
structure Properties where
  anchor : Option Nat
  tag : Option String

/-- A node of a document. -/
inductive Node where
  | alias (anchor : Nat)
  | scalar (properties : Properties) (plain : Bool) (text : String)
  | sequence (properties : Properties) (items : List Node)
  | mapping (properties : Properties) (entries : List (Node × Node))

instance : Inhabited Node := ⟨.alias 0⟩

namespace Node

/-- The scalar that stands where nothing is written. -/
def blank : Node := .scalar ⟨none, none⟩ true ""

/-! ## Reading nodes -/

/-- The families of tags by handle. -/
abbrev TagFamilies := List (String × String)

/-- The handles that need no directive. -/
def standardFamilies : TagFamilies := [("!", "!"), ("!!", "tag:yaml.org,2002:")]

/-- The tokens to be read, and the numbers of the names of anchors. -/
structure Input where
  tokens : List Token
  anchors : Fields Nat

/-- A reader of tokens. -/
abbrev Read := StateT Input Option

/-- The next token. -/
def peek : Read (Option Token) := do return (← get).tokens.head?

/-- Past one token. -/
def skip : Read Unit := modify fun i => { i with tokens := i.tokens.drop 1 }

/-- Whether the next token is one of some. -/
def isAt (expected : List Token) : Read Bool := do
  return (← peek).any expected.contains

/-- Past the next token, if it is the expected one. -/
def expect (t : Token) : Read Unit := do
  if ← isAt [t] then skip else failure

/-- The number of an anchor that is set. -/
def setAnchor (name : String) : Read Nat := do
  let input ← get
  let number := input.anchors.length
  set { input with anchors := Fields.insert input.anchors name number }
  return number

/-- The number of the anchor that an alias names. -/
def findAnchor (name : String) : Read Nat := do
  match Fields.find? (← get).anchors name with
  | some number => return number
  | none => failure

/-- A tag in full. -/
def fullTag (families : TagFamilies) (t : TagName) : Option String :=
  if t.handle.isEmpty then some t.suffix
  else (families.lookup t.handle).map (· ++ t.suffix)

/-- The name of an anchor at the next token. -/
def anchorName : Read (Option String) := do
  match ← peek with
  | some (.anchor name) => do skip; return some name
  | _ => return none

/-- A tag at the next token. -/
def tagName : Read (Option TagName) := do
  match ← peek with
  | some (.tag name) => do skip; return some name
  | _ => return none

/-- An anchor and a tag in any order, either or none. -/
def properties (families : TagFamilies) : Read Properties := do
  let before ← anchorName
  let tag ← tagName
  let name ← if before.isSome then pure before else anchorName
  let full ← tag.mapM fun t => (fullTag families t : Option String)
  return ⟨← name.mapM setAnchor, full⟩

/-- Where a node stands : whether it may be a block, and whether it may be a sequence whose
entries are not further in than the key above them. -/
structure Position where
  block : Bool
  indentless : Bool

/-- Inside brackets. -/
def Position.inFlow : Position := ⟨false, false⟩

/-- An entry of a block sequence, or the whole document. -/
def Position.entry : Position := ⟨true, false⟩

/-- A key or a value of a block mapping. -/
def Position.member : Position := ⟨true, true⟩

mutual

/-- One node. -/
def read (families : TagFamilies) (position : Position) : Nat → Read Node
  | 0 => failure
  | fuel + 1 => do
    if let some (.alias name) ← peek then
      skip
      return .alias (← findAnchor name)
    let p ← properties families
    match ← peek with
    | some (.scalar plain text) =>
      skip
      return .scalar p plain text
    | some .flowSequenceStart =>
      skip
      return .sequence p (← flowItems families true fuel)
    | some .flowMappingStart =>
      skip
      return .mapping p (← flowEntries families true fuel)
    | some .blockSequenceStart =>
      if !position.block then failure
      skip
      return .sequence p (← blockItems families fuel)
    | some .blockMappingStart =>
      if !position.block then failure
      skip
      return .mapping p (← blockEntries families fuel)
    | next =>
      if position.indentless && next = some .blockEntry then
        return .sequence p (← indentlessItems families fuel)
      else if p.anchor.isSome || p.tag.isSome then return .scalar p true ""
      else failure

/-- One node, or the blank scalar before one of some tokens. -/
def readUnless (families : TagFamilies) (position : Position) (ends : List Token) :
    Nat → Read Node
  | 0 => failure
  | fuel + 1 => do
    if ← isAt ends then return blank else read families position fuel

/-- A colon with a node, or the blank scalar where there is no colon. -/
def readValue (families : TagFamilies) (position : Position) (ends : List Token) :
    Nat → Read Node
  | 0 => failure
  | fuel + 1 => do
    if ← isAt [.value] then
      skip
      readUnless families position ends fuel
    else return blank

/-- The entries of a block sequence, and its end. -/
def blockItems (families : TagFamilies) : Nat → Read (List Node)
  | 0 => failure
  | fuel + 1 => do
    if ← isAt [.blockEnd] then
      skip
      return []
    expect .blockEntry
    let item ← readUnless families .entry [.blockEntry, .blockEnd] fuel
    return item :: (← blockItems families fuel)

/-- The entries of a sequence that is not further in than the key above it. -/
def indentlessItems (families : TagFamilies) : Nat → Read (List Node)
  | 0 => failure
  | fuel + 1 => do
    if ← isAt [.blockEntry] then
      skip
      let item ← readUnless families .entry [.blockEntry, .key, .value, .blockEnd] fuel
      return item :: (← indentlessItems families fuel)
    else return []

/-- The entries of a block mapping, and its end. -/
def blockEntries (families : TagFamilies) : Nat → Read (List (Node × Node))
  | 0 => failure
  | fuel + 1 => do
    if ← isAt [.blockEnd] then
      skip
      return []
    expect .key
    let key ← readUnless families .member [.key, .value, .blockEnd] fuel
    let value ← readValue families .member [.key, .value, .blockEnd] fuel
    return (key, value) :: (← blockEntries families fuel)

/-- The items between square brackets, the first one or one after a comma, and the end. -/
def flowItems (families : TagFamilies) (first : Bool) : Nat → Read (List Node)
  | 0 => failure
  | fuel + 1 => do
    if ← isAt [.flowSequenceEnd] then
      skip
      return []
    if !first then expect .flowEntry
    if ← isAt [.flowSequenceEnd] then
      skip
      return []
    let item ← if ← isAt [.key] then flowPair families fuel else read families .inFlow fuel
    return item :: (← flowItems families false fuel)

/-- A key with its value between square brackets, which make a mapping of one entry. A key
that is not written takes the place of the token after its mark. -/
def flowPair (families : TagFamilies) : Nat → Read Node
  | 0 => failure
  | fuel + 1 => do
    skip
    let key ← if ← isAt [.value, .flowEntry, .flowSequenceEnd] then
        skip
        pure blank
      else read families .inFlow fuel
    let value ← readValue families .inFlow [.flowEntry, .flowSequenceEnd] fuel
    return .mapping ⟨none, none⟩ [(key, value)]

/-- The entries between curly brackets, the first one or one after a comma, and the end. -/
def flowEntries (families : TagFamilies) (first : Bool) : Nat → Read (List (Node × Node))
  | 0 => failure
  | fuel + 1 => do
    if ← isAt [.flowMappingEnd] then
      skip
      return []
    if !first then expect .flowEntry
    if ← isAt [.flowMappingEnd] then
      skip
      return []
    if ← isAt [.key] then
      skip
      let key ← readUnless families .inFlow [.value, .flowEntry, .flowMappingEnd] fuel
      let value ← readValue families .inFlow [.flowEntry, .flowMappingEnd] fuel
      return (key, value) :: (← flowEntries families false fuel)
    else
      let key ← read families .inFlow fuel
      return (key, blank) :: (← flowEntries families false fuel)

end

/-! ## Reading documents -/

/-- Whether a version is one that can be read. -/
def isKnownVersion (major minor : Nat) : Bool := major == 1 && (minor == 1 || minor == 2)

/-- The directives before a document : at most one of the version, and one of a handle. -/
def directives (versioned : Bool) (families : TagFamilies) : List Token →
    Option (TagFamilies × List Token)
  | .versionDirective major minor :: rest =>
    if versioned || !isKnownVersion major minor then none else directives true families rest
  | .tagDirective handle family :: rest =>
    if (families.lookup handle).isSome then none
    else directives versioned ((handle, family) :: families) rest
  | rest => some (families, rest)

/-- The tokens of a document that begins with its mark, and its families of tags. -/
def openDocument (tokens : List Token) : Option (TagFamilies × List Token) := do
  let (families, rest) ← directives false [] tokens
  match rest with
  | .documentStart :: rest => some (families ++ standardFamilies, rest)
  | _ => none

/-- Whether a document begins with directives or its mark. -/
def isOpened : List Token → Bool
  | .versionDirective _ _ :: _ => true
  | .tagDirective _ _ :: _ => true
  | .documentStart :: _ => true
  | _ => false

/-- Whether a document is over before it has a node. -/
def isVoid : List Token → Bool
  | [] => true
  | .documentEnd :: _ => true
  | tokens => isOpened tokens

/-- The node of the one document, or none of a text without a document. -/
def ofTokens? (tokens : List Token) : Option (Option Node) :=
  if tokens.isEmpty then some none
  else do
    let (families, body) ←
      if isOpened tokens then openDocument tokens else some (standardFamilies, tokens)
    let (node, input) ←
      if isOpened tokens && isVoid body then some (blank, (⟨body, []⟩ : Input))
      else (read families .entry (3 * body.length + 3)).run ⟨body, []⟩
    if input.tokens.all (· = .documentEnd) then some (some node) else none

end Node

end SurfaceDrift.Yaml

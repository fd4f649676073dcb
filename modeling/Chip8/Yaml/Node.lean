/-
The nodes of a YAML document.

`Node.ofText?` puts the tokens of a text together into the node of its only
document.  Anchors name nodes, and an alias stands for the node of its name.

Design notes: the grammar is read by descent, one function for each kind of
place.  Every call but the first of a place takes a token, so the number of
tokens bounds the depth.  A node gets its kind here: by its tag if it has one,
and otherwise by its spelling or its shape.  Nodes are counted on the way, each
as often as names stand for it, because few names can stand for very many nodes;
a document that is too large in this sense is refused.
-/
import Chip8.Yaml.Plain
import Chip8.Yaml.Token

namespace Chip8.Yaml

/-- A node of a document. -/
inductive Node where
  | scalar (tag : Tag) (text : String)
  | sequence (tag : Tag) (items : List Node)
  | mapping (tag : Tag) (entries : List (Node × Node))

/-- What a name stands for. -/
inductive Anchored where
  /-- A node that has not been read to its end. -/
  | unfinished
  /-- A node, and how many nodes it counts for. -/
  | node (node : Node) (size : Nat)

/-- What is left of the tokens, and what has been read. -/
structure Reader where
  tokens : List Token
  /-- The error behind the last token. -/
  failure : Error
  /-- The handles of tags with what they abbreviate. -/
  handles : List (String × String)
  /-- The names given so far. -/
  anchors : List (String × Anchored) := []
  /-- How many nodes have been read, those that names stand for included. -/
  size : Nat := 0
  /-- Whether a name has stood for a node. -/
  hasAlias : Bool := false
  /-- Whether a name has stood for a node that it is part of. -/
  isCircular : Bool := false

namespace Reader

/-- A computation that reads tokens. -/
abbrev Read := StateT Reader (Except Error)

/-- The next token. -/
def peek : Read Token := do
  let r ← get
  match r.tokens with
  | token :: _ => return token
  | [] => throw r.failure

/-- Takes the next token. -/
def take : Read Token := do
  let token ← peek
  modify fun r => { r with tokens := r.tokens.tail }
  return token

/-- Takes the next token if it is the given one. -/
def takeIf (token : Token) : Read Bool := do
  if (← peek) = token then
    let _ ← take
    return true
  else return false

/-- Whether the next token is one of some. -/
def nextIn (tokens : List Token) : Read Bool := do
  return tokens.contains (← peek)

/-! ### Tags and anchors -/

/-- The handles that need no declaration. -/
def defaultHandles : List (String × String) := [("!", "!"), ("!!", Tag.stem)]

/-- Takes the anchor ahead, if there is one. -/
def takeAnchor : Read (Option String) := do
  match ← peek with
  | .anchor name => let _ ← take; return some name
  | _ => return none

/-- Takes the tag ahead, if there is one. -/
def takeTag : Read (Option TagText) := do
  match ← peek with
  | .tag tag => let _ ← take; return some tag
  | _ => return none

/-- The anchor and the tag in front of a node, in either order; the tag as the
address it stands for. -/
def properties : Read (Option String × Option String) := do
  let early ← takeAnchor
  let tag ← takeTag
  let anchor ← if early.isSome || tag.isNone then pure early else takeAnchor
  match tag with
  | none => return (anchor, none)
  | some ⟨none, suffix⟩ => return (anchor, some suffix)
  | some ⟨some handle, suffix⟩ =>
    match (← get).handles.lookup handle with
    | some stem => return (anchor, some (stem ++ suffix))
    | none => throw .grammar

/-- The address that asks for the kind that a node has by itself. -/
def plainAddress : String := "!"

/-- The kind of a node with an address; without one, or with the address that asks
for it, the kind that the node has by itself. -/
def kindOr (own : Tag) : Option String → Tag
  | none => own
  | some address => if address = plainAddress then own else Tag.ofAddress address

/-- Notes that a name will stand for a node, and that the node has been met. -/
def openNode (anchor : Option String) : Read Nat := do
  let r ← get
  match anchor with
  | none => set { r with size := r.size + 1 }
  | some name =>
    if r.anchors.any (·.1 = name) then throw .reference
    set { r with size := r.size + 1, anchors := (name, .unfinished) :: r.anchors }
  return r.size

/-- Gives a name to a node that was met when so many nodes had been read. -/
def closeNode (anchor : Option String) (before : Nat) (node : Node) : Read Node := do
  match anchor with
  | none => return node
  | some name =>
    modify fun r => { r with anchors := (name, .node node (r.size - before)) :: r.anchors }
    return node

/-- A scalar with nothing in it. -/
def emptyNode : Read Node := do
  let _ ← openNode none
  return .scalar .null ""

/-- The node that a name stands for. -/
def aliased (name : String) : Read Node := do
  match (← get).anchors.lookup name with
  | some (.node node size) =>
    modify fun r => { r with size := r.size + size, hasAlias := true }
    return node
  | some .unfinished =>
    modify fun r => { r with isCircular := true }
    emptyNode
  | none => throw .reference

/-! ### Places -/

mutual

/-- A node.  In a block, block collections may stand here; a sequence as the value
of a mapping need not be indented. -/
def node : Nat → Bool → Bool → Read Node
  | 0, _, _ => throw .grammar
  | fuel + 1, block, indentless => do
    if let .alias name ← peek then
      let _ ← take
      return ← aliased name
    let (anchor, address) ← properties
    match ← peek with
    | .blockEntry =>
      if indentless then
        let before ← openNode anchor
        let items ← indentlessItems fuel
        closeNode anchor before (.sequence (kindOr .seq address) items)
      else bare anchor address
    | .scalar text plain =>
      let _ ← take
      let before ← openNode anchor
      let own := if plain || address = some plainAddress then Tag.ofPlain text else .str
      closeNode anchor before (.scalar (kindOr own address) text)
    | .flowSequenceStart =>
      let _ ← take
      let before ← openNode anchor
      let items ← flowItems fuel true
      closeNode anchor before (.sequence (kindOr .seq address) items)
    | .flowMappingStart =>
      let _ ← take
      let before ← openNode anchor
      let entries ← flowEntries fuel true
      closeNode anchor before (.mapping (kindOr .map address) entries)
    | .blockSequenceStart =>
      if block then
        let _ ← take
        let before ← openNode anchor
        let items ← blockItems fuel
        closeNode anchor before (.sequence (kindOr .seq address) items)
      else bare anchor address
    | .blockMappingStart =>
      if block then
        let _ ← take
        let before ← openNode anchor
        let entries ← blockEntries fuel
        closeNode anchor before (.mapping (kindOr .map address) entries)
      else bare anchor address
    | _ => bare anchor address

/-- A node of which only the properties are there.  It is nothing, unless a tag
makes it a scalar without text. -/
def bare (anchor address : Option String) : Read Node := do
  if anchor.isNone && address.isNone then throw .grammar
  let before ← openNode anchor
  let own := if address.isNone then Tag.null else .str
  closeNode anchor before (.scalar (kindOr own address) "")

/-- The items of a block sequence. -/
def blockItems : Nat → Read (List Node)
  | 0 => throw .grammar
  | fuel + 1 => do
    if ← takeIf .blockEntry then
      let item ← if ← nextIn [.blockEntry, .blockEnd] then emptyNode else node fuel true false
      return item :: (← blockItems fuel)
    else if ← takeIf .blockEnd then return []
    else throw .grammar

/-- The items of a sequence that is not indented. -/
def indentlessItems : Nat → Read (List Node)
  | 0 => throw .grammar
  | fuel + 1 => do
    if ← takeIf .blockEntry then
      let item ← if ← nextIn [.blockEntry, .key, .value, .blockEnd] then emptyNode
        else node fuel true false
      return item :: (← indentlessItems fuel)
    else return []

/-- The entries of a block mapping. -/
def blockEntries : Nat → Read (List (Node × Node))
  | 0 => throw .grammar
  | fuel + 1 => do
    if ← takeIf .key then
      let key ← if ← nextIn [.key, .value, .blockEnd] then emptyNode else node fuel true true
      let value ←
        if ← takeIf .value then
          if ← nextIn [.key, .value, .blockEnd] then emptyNode else node fuel true true
        else emptyNode
      return (key, value) :: (← blockEntries fuel)
    else if ← takeIf .blockEnd then return []
    else throw .grammar

/-- The items of a flow sequence; all but the first follow a comma. -/
def flowItems : Nat → Bool → Read (List Node)
  | 0, _ => throw .grammar
  | fuel + 1, first => do
    if ← takeIf .flowSequenceEnd then return []
    if !first then
      if !(← takeIf .flowEntry) then throw .grammar
    if ← takeIf .key then
      -- A mapping of one entry needs no braces inside a sequence.  Where its key is
      -- missing, the token in the place of the key is left out.
      let _ ← openNode none
      let key ←
        if ← nextIn [.value, .flowEntry, .flowSequenceEnd] then do
          let _ ← take
          emptyNode
        else node fuel false false
      let value ←
        if ← takeIf .value then
          if ← nextIn [.flowEntry, .flowSequenceEnd] then emptyNode else node fuel false false
        else emptyNode
      return .mapping .map [(key, value)] :: (← flowItems fuel false)
    else if ← takeIf .flowSequenceEnd then return []
    else
      let item ← node fuel false false
      return item :: (← flowItems fuel false)

/-- The entries of a flow mapping; all but the first follow a comma. -/
def flowEntries : Nat → Bool → Read (List (Node × Node))
  | 0, _ => throw .grammar
  | fuel + 1, first => do
    if ← takeIf .flowMappingEnd then return []
    if !first then
      if !(← takeIf .flowEntry) then throw .grammar
    if ← takeIf .key then
      let key ← if ← nextIn [.value, .flowEntry, .flowMappingEnd] then emptyNode
        else node fuel false false
      let value ←
        if ← takeIf .value then
          if ← nextIn [.flowEntry, .flowMappingEnd] then emptyNode else node fuel false false
        else emptyNode
      return (key, value) :: (← flowEntries fuel false)
    else if ← takeIf .flowMappingEnd then return []
    else
      let key ← node fuel false false
      let value ← emptyNode
      return (key, value) :: (← flowEntries fuel false)

end

/-! ### Documents -/

/-- Takes the directives ahead. -/
def directives : Nat → Bool → List (String × String) → Read (List (String × String))
  | 0, _, _ => throw .grammar
  | fuel + 1, hasVersion, handles => do
    match ← peek with
    | .directive (.version major minor) =>
      let _ ← take
      if hasVersion || major ≠ 1 || (minor ≠ 1 && minor ≠ 2) then throw .grammar
      directives fuel true handles
    | .directive (.handle handle stem) =>
      let _ ← take
      if handles.any (·.1 = handle) then throw .grammar
      directives fuel hasVersion ((handle, stem) :: handles)
    | _ => return handles ++ defaultHandles

/-- Takes marks of the end of a document. -/
def skipDocumentEnds : Nat → Read Unit
  | 0 => return
  | fuel + 1 => do
    if ← takeIf .documentEnd then skipDocumentEnds fuel

/-- Takes the start of a document that has one; at the end of the text there is no
further document. -/
def documentStart (fuel : Nat) : Read Bool := do
  skipDocumentEnds fuel
  if (← peek) = .streamEnd then return false
  let handles ← directives fuel false []
  if !(← takeIf .documentStart) then throw .grammar
  modify fun r => { r with handles }
  return true

/-- Whether a token belongs to the document level. -/
def endsContent : Token → Bool
  | .directive _ | .documentStart | .documentEnd | .streamEnd => true
  | _ => false

/-- The only document of a text, if there is one.  With aliases it may count for so many
nodes at most. -/
def document (sizeLimit fuel : Nat) : Read (Option Node) := do
  let start ← peek
  let root ←
    if endsContent start && start ≠ .documentEnd then
      if !(← documentStart fuel) then return none
      if endsContent (← peek) then emptyNode else node fuel true false
    else node fuel true false
  let _ ← takeIf .documentEnd
  if ← documentStart fuel then throw .reference
  let r ← get
  if r.isCircular || (r.hasAlias && sizeLimit < r.size) then throw .expansion
  return some root

end Reader

/-- The node of the only document of a text, if there is one.  If it has aliases, it may
count for so many nodes at most. -/
def Node.ofText? (sizeLimit : Nat) (text : String) : Except Error (Option Node) :=
  let (tokens, failure) := Token.ofText text
  let reader : Reader :=
    { tokens, failure := failure.getD .grammar, handles := Reader.defaultHandles }
  (Reader.document sizeLimit (4 * tokens.length + 8)).run' reader

end Chip8.Yaml

/-
The values that YAML documents describe.

`Value.ofYaml?` reads a text with one document.  Mappings keep the order of their
entries; a text that is a key twice is an error, and so is a collection as a key.

* `both_error_left`, `both_error_right` — of two flaws the one nearer to the root
  counts, and the first of two that are equally deep.

Design notes: a key written as `<<` merges the entries of other mappings, which
come before the entries of the mapping itself.  An entry that is merged in gives
way to a later one with the same key, and then its value does not matter at all.
The document is read from the root down, one level after the other, so the flaws
of a deeper level do not show while a higher one has any.
-/
import Chip8.Text.Base64
import Chip8.Value
import Chip8.Yaml.Moment
import Chip8.Yaml.Node
import Chip8.Yaml.Number

namespace Chip8.Yaml

/-- An error, and how deep in the document it lies. -/
structure Flaw where
  depth : Nat
  error : Error
deriving DecidableEq, Repr

namespace Flaw

variable {α β : Type}

/-- Both of two results.  If both have a flaw, the one nearer to the root counts,
and the first of two that are equally deep. -/
def both : Except Flaw α → Except Flaw β → Except Flaw (α × β)
  | .ok a, .ok b => .ok (a, b)
  | .error e, .ok _ => .error e
  | .ok _, .error f => .error f
  | .error e, .error f => .error (if f.depth < e.depth then f else e)

/-- All of some results, with the flaw that counts if there is one. -/
def all : List (Except Flaw α) → Except Flaw (List α)
  | [] => .ok []
  | a :: rest => (both a (all rest)).map fun (a, rest) => a :: rest

theorem both_error_left {e f : Flaw} (h : e.depth ≤ f.depth) :
    both (.error e : Except Flaw α) (.error f : Except Flaw β) = .error e := by
  simp [both, Nat.not_lt.2 h]

theorem both_error_right {e f : Flaw} (h : f.depth < e.depth) :
    both (.error e : Except Flaw α) (.error f : Except Flaw β) = .error f := by
  simp [both, h]

end Flaw

namespace Node

/-! ### Scalars -/

/-- The text of a scalar, or of the default value of a mapping. -/
def scalarText? : Nat → Node → Option String
  | _, .scalar _ s => some s
  | fuel + 1, .mapping _ entries =>
    (entries.find? fun (key, _) =>
      match key with
      | .scalar .default _ => true
      | _ => false).bind fun (_, value) => value.scalarText? fuel
  | _, _ => none

/-- The value of a scalar. -/
def ofScalar (tag : Tag) (s : String) : Except Error Value :=
  match tag with
  | .null => .ok .null
  | .bool => (Plain.readBool s).map .bool
  | .int => (Plain.readInteger s.toList).map .integer
  | .float => (Plain.readFloat s.toList).map .float
  | .str => .ok (.text s)
  | .moment => (Moment.check s).map fun _ => .moment s
  | .bytes =>
    if s.toList.all (·.toNat < 0x80) then
      match Text.Base64.decode? s.toList with
      | some bytes => .ok (.bytes bytes)
      | none => .error .value
    else .error .value
  | _ => .error .value

/-! ### Keys -/

/-- The kind of a node. -/
def tag : Node → Tag
  | scalar tag _ | sequence tag _ | mapping tag _ => tag

/-- Whether a node stands for a collection, by its tag. -/
def isCollection (node : Node) : Bool :=
  [Tag.seq, .map, .set, .pairs].contains node.tag

/-- Whether two nodes are scalars of one kind and one text. -/
def sameScalar : Node → Node → Bool
  | scalar a s, scalar b t => a = b && s = t
  | _, _ => false

/-- Whether a text is a key twice. -/
def hasRepeatedKey : List (Node × Node) → Bool
  | [] => false
  | (key, _) :: rest =>
    (key.tag = .str && rest.any fun (other, _) => key.sameScalar other) || hasRepeatedKey rest

/-- Whether an entry merges other mappings. -/
def isMerge : Node × Node → Bool
  | (scalar .merge _, _) => true
  | _ => false

/-- The entries of a list whose keys do not come again, neither behind them nor in
a second list. -/
def unshadowed : List (Node × Node) → List (Node × Node) → List (Node × Node)
  | [], _ => []
  | entry :: rest, own =>
    if (rest ++ own).any fun (key, _) => entry.1.sameScalar key then unshadowed rest own
    else entry :: unshadowed rest own

mutual

/-- The entries of a mapping with those that it merges in front of them. -/
def flatten : Nat → List (Node × Node) → Except Error (List (Node × Node))
  | 0, _ => .error .value
  | fuel + 1, entries => do
    if hasRepeatedKey entries then throw .value
    let merged ← (entries.filter isMerge).mapM fun (_, value) => mergedEntries fuel value
    let own := (entries.filter (!isMerge ·)).map fun (key, value) =>
      match key with
      | .scalar .default s => (.scalar .str s, value)
      | _ => (key, value)
    return unshadowed merged.flatten own ++ own

/-- The entries of a mapping, or of several of which the first counts most. -/
def mergedEntries : Nat → Node → Except Error (List (Node × Node))
  | 0, _ => .error .value
  | fuel + 1, value =>
    match value with
    | .mapping _ entries => flatten fuel entries
    | .sequence _ items => do
      let all ← items.mapM fun item =>
        match item with
        | .mapping _ entries => flatten fuel entries
        | _ => .error .value
      return all.reverse.flatten
    | _ => .error .value

end

/-! ### Values -/

/-- The entries that a node has as a mapping. -/
def entries (fuel : Nat) : Node → Except Error (List (Node × Node))
  | .mapping _ entries => flatten fuel entries
  | .sequence _ [] | .scalar _ "" => .error .value
  | .sequence _ _ => .error .sequenceAsMapping
  | .scalar _ _ => .error .textAsMapping

/-- The pairs that a node has as a sequence of mappings with one entry each. -/
def pairs : Node → Except Error (List (Node × Node))
  | .sequence _ items => items.mapM fun
    | .mapping _ [entry] => .ok entry
    | _ => .error .value
  | _ => .error .value

/-- The value of a node at a depth, for nodes that are not too deep.  What a
collection holds lies one level deeper. -/
def toValue : Nat → Nat → Node → Except Flaw Value
  | 0, depth, _ => .error ⟨depth, .value⟩
  | fuel + 1, depth, node =>
    let inside := depth + 1
    let found {α : Type} : Except Error α → Except Flaw α := Except.mapError (Flaw.mk inside)
    let child := toValue fuel inside
    let keyed (entry : Node × Node) : Except Flaw (Value × Value) :=
      if entry.1.isCollection then .error ⟨inside, .value⟩
      else Flaw.both (child entry.1) (child entry.2)
    match node.tag with
    | .seq =>
      match node with
      | .sequence _ items => (Flaw.all (items.map child)).map .list
      | _ => .error ⟨inside, .value⟩
    | .map => do
      let pairs ← Flaw.all ((← found (node.entries fuel)).map keyed)
      return .mapping (pairs.foldl (fun entries (k, v) => Value.put entries k v) [])
    | .set => do
      let pairs ← Flaw.all ((← found (node.entries fuel)).map keyed)
      return .set (pairs.map (·.1))
    | .pairs => do
      let pairs ← Flaw.all ((← found node.pairs).map fun (k, v) => Flaw.both (child k) (child v))
      return .list (pairs.map fun (k, v) => .list [k, v])
    | tag =>
      match node.scalarText? fuel with
      | some s => (ofScalar tag s).mapError (Flaw.mk depth)
      | none => .error ⟨depth, .value⟩

end Node

end Chip8.Yaml

namespace Chip8

/-- The value of the only document of a text; nothing, if there is none.  A document with
aliases may count for so many nodes at most. -/
def Value.ofYaml? (sizeLimit : Nat) (s : String) : Except Yaml.Error Value := do
  match ← Yaml.Node.ofText? sizeLimit s with
  | none => return .null
  | some node => (node.toValue (s.length + 8) 0).mapError (·.error)

end Chip8

import QueryCompiler.Yaml.Node

/-!
# YAML documents

Anchored nodes are numbered in the order in which a text comes upon them, and
aliases refer to numbers.  The number of an anchored node is how many names were
given before it.  If a name is given again, a node behind it may therefore get a
number that is in use, and takes it over.
-/

namespace QueryCompiler.Yaml

/-- A node with numbers in the place of names. -/
abbrev NumberedNode := Node Nat

/-- The names that were given so far, each with its last number. -/
abbrev Names := List (String × Nat)

namespace Node

mutual

/-- Put numbers in the place of names.  An alias has to refer to a name that was
given. -/
def number? (names : Names) : WrittenNode → Option (NumberedNode × Names)
  | .scalar text style tag => some (.scalar text style tag, names)
  | .list items => do
      let (items, names) ← numberItems? names items
      return (.list items, names)
  | .map pairs => do
      let (pairs, names) ← numberPairs? names pairs
      return (.map pairs, names)
  | .alias name => do return (.alias (← names.lookup name), names)
  | .anchored name node => do
      let (node, after) ← number? (Json.setMember name names.length names) node
      return (.anchored names.length node, after)

def numberItems? (names : Names) : List WrittenNode → Option (List NumberedNode × Names)
  | [] => some ([], names)
  | item :: items => do
      let (item, names) ← number? names item
      let (items, names) ← numberItems? names items
      return (item :: items, names)

def numberPairs? (names : Names) :
    List (WrittenNode × WrittenNode) → Option (List (NumberedNode × NumberedNode) × Names)
  | [] => some ([], names)
  | (key, value) :: pairs => do
      let (key, names) ← number? names key
      let (value, names) ← number? names value
      let (pairs, names) ← numberPairs? names pairs
      return ((key, value) :: pairs, names)

end

mutual

/-- The anchored nodes within a node, in front of others. -/
def anchors (others : List (Nat × NumberedNode)) : NumberedNode → List (Nat × NumberedNode)
  | .list items => anchorsOfItems others items
  | .map pairs => anchorsOfPairs others pairs
  | .anchored number node => anchors ((number, node) :: others) node
  | _ => others

def anchorsOfItems (others : List (Nat × NumberedNode)) :
    List NumberedNode → List (Nat × NumberedNode)
  | [] => others
  | item :: items => anchorsOfItems (anchors others item) items

def anchorsOfPairs (others : List (Nat × NumberedNode)) :
    List (NumberedNode × NumberedNode) → List (Nat × NumberedNode)
  | [] => others
  | (key, value) :: pairs => anchorsOfPairs (anchors (anchors others key) value) pairs

end

mutual

/-- The number of parts of a node: one for a scalar or an alias, and two for the
ends of a list or map. -/
def partCount {Name : Type} : Node Name → Nat
  | .scalar _ _ _ => 1
  | .list items => 2 + partCountOfItems items
  | .map pairs => 2 + partCountOfPairs pairs
  | .alias _ => 1
  | .anchored _ node => partCount node

def partCountOfItems {Name : Type} : List (Node Name) → Nat
  | [] => 0
  | item :: items => partCount item + partCountOfItems items

def partCountOfPairs {Name : Type} : List (Node Name × Node Name) → Nat
  | [] => 0
  | (key, value) :: pairs => partCount key + partCount value + partCountOfPairs pairs

end

end Node

/-- A document: its node, and the nodes that aliases refer to, the latest first. -/
structure Document where
  root : NumberedNode
  anchors : List (Nat × NumberedNode)

namespace Document

def ofNode? (node : WrittenNode) : Option Document := do
  let (root, _) ← node.number? []
  return ⟨root, root.anchors []⟩

def ofText? (text : String) : Option Document := do
  ofNode? (← WrittenNode.ofText? text)

/-- How many aliases may be followed: a hundred for each part of the document. -/
def aliasLimit (document : Document) : Nat :=
  100 * document.root.partCount

end Document

end QueryCompiler.Yaml

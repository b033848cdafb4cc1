import QueryCompiler.Yaml.Token

/-!
# YAML nodes

The tokens of a text make up one node.  Where a node is missing, an empty plain
scalar stands in its place.

A node may be anchored under a name, and an alias refers to the node that was
anchored last under its name.
-/

namespace QueryCompiler.Yaml

/-- A YAML value, with its anchors and aliases.  Keys are nodes as well. -/
inductive Node (Name : Type) where
  | scalar (text : String) (style : Style) (tag : Option String)
  | list (items : List (Node Name))
  | map (pairs : List (Node Name × Node Name))
  | alias (name : Name)
  | anchored (name : Name) (node : Node Name)

/-- A node with the names that are written in a text. -/
abbrev WrittenNode := Node String

namespace WrittenNode

def missing : WrittenNode := .scalar "" .plain none

structure Properties where
  anchor : Option String
  tag : Option Tag

/-- The properties at the beginning of tokens, at most one of each kind. -/
def takeProperties : List Token → Properties × List Token
  | .anchor name :: .tag tag :: rest => (⟨some name, some tag⟩, rest)
  | .anchor name :: rest => (⟨some name, none⟩, rest)
  | .tag tag :: .anchor name :: rest => (⟨some name, some tag⟩, rest)
  | .tag tag :: rest => (⟨none, some tag⟩, rest)
  | rest => (⟨none, none⟩, rest)

def Properties.wrap (properties : Properties) (node : WrittenNode) : WrittenNode :=
  match properties.anchor with
  | some name => .anchored name node
  | none => node

def Properties.any (properties : Properties) : Bool :=
  properties.anchor.isSome || properties.tag.isSome

/-- A scalar with a tag.  A single mark is no tag. -/
def ofScalar (text : String) (style : Style) (tag : Option String) : WrittenNode :=
  .scalar text style (if tag = some "!" then none else tag)

def endsItem : Token → Bool
  | .item | .blockEnd => true
  | _ => false

/-- Whether a token stands where an item of a list without a mark of its own would
begin. -/
def endsBareItem : Token → Bool
  | .item | .key | .value | .blockEnd => true
  | _ => false

def endsBlockPart : Token → Bool
  | .key | .value | .blockEnd => true
  | _ => false

def endsFlowKey : Token → Bool
  | .value | .comma | .flowMapEnd => true
  | _ => false

def endsFlowValue : Token → Bool
  | .comma | .flowMapEnd => true
  | _ => false

/-- Whether a token stands where the value of a single pair in a flow list would
begin. -/
def endsPairValue : Token → Bool
  | .comma | .flowListEnd => true
  | _ => false

/-- Whether a token takes the place of the key of a single pair in a flow list. -/
def replacesPairKey : Token → Bool
  | .value | .comma | .flowListEnd => true
  | _ => false

mutual

/-- A node.  `block` tells whether it may be a block, and `bare` whether it may be
a list that is not indented. -/
def parse (handles : Handles) (fuel : Nat) (block bare : Bool) (tokens : List Token) :
    Option (WrittenNode × List Token) :=
  match fuel, tokens with
  | 0, _ => none
  | _, .alias name :: rest => some (.alias name, rest)
  | fuel + 1, tokens => do
      let (properties, tokens) := takeProperties tokens
      let tag ← properties.tag.mapM handles.resolve?
      let (node, rest) ← parseContent handles fuel block bare properties.any tag tokens
      return (properties.wrap node, rest)

/-- A node behind its properties.  With properties it may be missing. -/
def parseContent (handles : Handles) (fuel : Nat) (block bare optional : Bool)
    (tag : Option String) (tokens : List Token) : Option (WrittenNode × List Token) :=
  match fuel, tokens with
  | _, .scalar text style :: rest => some (ofScalar text style tag, rest)
  | fuel + 1, .flowListStart :: rest => do
      let (items, rest) ← parseFlowList handles fuel true rest
      return (.list items, rest)
  | fuel + 1, .flowMapStart :: rest => do
      let (pairs, rest) ← parseFlowMap handles fuel true rest
      return (.map pairs, rest)
  | fuel + 1, token :: rest =>
      if bare && token == .item then do
        let (items, rest) ← parseBareList handles fuel (token :: rest)
        return (.list items, rest)
      else if block && token == .blockListStart then do
        let (items, rest) ← parseBlockList handles fuel rest
        return (.list items, rest)
      else if block && token == .blockMapStart then do
        let (pairs, rest) ← parseBlockMap handles fuel rest
        return (.map pairs, rest)
      else if optional then
        some (.scalar "" .plain tag, token :: rest)
      else
        none
  | _, rest => if optional then some (.scalar "" .plain tag, rest) else none

/-- A node that may be missing in front of some tokens. -/
def parseUnless (handles : Handles) (fuel : Nat) (ends : Token → Bool) (block bare : Bool)
    (tokens : List Token) : Option (WrittenNode × List Token) :=
  match fuel with
  | 0 => none
  | fuel + 1 =>
      if tokens.head?.any ends then some (missing, tokens)
      else parse handles fuel block bare tokens

def parseBlockList (handles : Handles) (fuel : Nat) (tokens : List Token) :
    Option (List WrittenNode × List Token) :=
  match fuel, tokens with
  | _, .blockEnd :: rest => some ([], rest)
  | fuel + 1, .item :: rest => do
      let (item, rest) ← parseUnless handles fuel endsItem true false rest
      let (items, rest) ← parseBlockList handles fuel rest
      return (item :: items, rest)
  | _, _ => none

/-- The items of a list that is not indented; it ends at the first other token. -/
def parseBareList (handles : Handles) (fuel : Nat) (tokens : List Token) :
    Option (List WrittenNode × List Token) :=
  match fuel, tokens with
  | fuel + 1, .item :: rest => do
      let (item, rest) ← parseUnless handles fuel endsBareItem true false rest
      let (items, rest) ← parseBareList handles fuel rest
      return (item :: items, rest)
  | _, rest => some ([], rest)

def parseBlockMap (handles : Handles) (fuel : Nat) (tokens : List Token) :
    Option (List (WrittenNode × WrittenNode) × List Token) :=
  match fuel, tokens with
  | _, .blockEnd :: rest => some ([], rest)
  | fuel + 1, .key :: rest => do
      let (key, rest) ← parseUnless handles fuel endsBlockPart true true rest
      let (value, rest) ←
        match rest with
        | .value :: rest => parseUnless handles fuel endsBlockPart true true rest
        | rest => some (missing, rest)
      let (pairs, rest) ← parseBlockMap handles fuel rest
      return ((key, value) :: pairs, rest)
  | _, _ => none

/-- The items of a flow list, with a comma in front of all but the first one. -/
def parseFlowList (handles : Handles) (fuel : Nat) (first : Bool) (tokens : List Token) :
    Option (List WrittenNode × List Token) :=
  match fuel with
  | 0 => none
  | fuel + 1 =>
      match first, tokens with
      | _, .flowListEnd :: rest => some ([], rest)
      | false, .comma :: .flowListEnd :: rest => some ([], rest)
      | false, .comma :: rest => parseFlowItem handles fuel rest
      | false, _ => none
      | true, rest => parseFlowItem handles fuel rest

/-- An item of a flow list and those behind it.  A single pair makes up a map of
its own; a token in the place of its key is lost. -/
def parseFlowItem (handles : Handles) (fuel : Nat) (tokens : List Token) :
    Option (List WrittenNode × List Token) :=
  match fuel, tokens with
  | fuel + 1, .key :: rest => do
      let (key, rest) ←
        if rest.head?.any replacesPairKey then some (missing, rest.drop 1)
        else parse handles fuel false false rest
      let (value, rest) ←
        match rest with
        | .value :: rest => parseUnless handles fuel endsPairValue false false rest
        | rest => some (missing, rest)
      let (items, rest) ← parseFlowList handles fuel false rest
      return (.map [(key, value)] :: items, rest)
  | fuel + 1, rest => do
      let (item, rest) ← parse handles fuel false false rest
      let (items, rest) ← parseFlowList handles fuel false rest
      return (item :: items, rest)
  | _, _ => none

/-- The pairs of a flow map, with a comma in front of all but the first one. -/
def parseFlowMap (handles : Handles) (fuel : Nat) (first : Bool) (tokens : List Token) :
    Option (List (WrittenNode × WrittenNode) × List Token) :=
  match fuel with
  | 0 => none
  | fuel + 1 =>
      match first, tokens with
      | _, .flowMapEnd :: rest => some ([], rest)
      | false, .comma :: .flowMapEnd :: rest => some ([], rest)
      | false, .comma :: rest => parseFlowPair handles fuel rest
      | false, _ => none
      | true, rest => parseFlowPair handles fuel rest

/-- A pair of a flow map and those behind it.  A node that is marked as no key
stands without a value. -/
def parseFlowPair (handles : Handles) (fuel : Nat) (tokens : List Token) :
    Option (List (WrittenNode × WrittenNode) × List Token) :=
  match fuel, tokens with
  | fuel + 1, .key :: rest => do
      let (key, rest) ← parseUnless handles fuel endsFlowKey false false rest
      let (value, rest) ←
        match rest with
        | .value :: rest => parseUnless handles fuel endsFlowValue false false rest
        | rest => some (missing, rest)
      let (pairs, rest) ← parseFlowMap handles fuel false rest
      return ((key, value) :: pairs, rest)
  | fuel + 1, rest => do
      let (key, rest) ← parse handles fuel false false rest
      let (pairs, rest) ← parseFlowMap handles fuel false rest
      return ((key, missing) :: pairs, rest)
  | _, _ => none

end

/-! ## Documents -/

def takeDirectives : List Token → List Directive × List Token
  | .directive directive :: rest =>
      let (directives, rest) := takeDirectives rest
      (directive :: directives, rest)
  | rest => ([], rest)

def endsDocument : Token → Bool
  | .directive _ | .documentStart | .documentEnd => true
  | _ => false

/-- The node of the one document that tokens hold.  Without a document the node is
missing.  Only marked documents have directives and may be empty. -/
def ofTokens? (tokens : List Token) : Option WrittenNode := do
  let fuel := 5 * tokens.length + 5
  let (node, rest) ←
    match takeDirectives tokens with
    | (directives, .documentStart :: rest) => do
        let handles ← Handles.ofDirectives? false [] directives
        if rest.isEmpty || rest.head?.any endsDocument then some (missing, rest)
        else parse handles fuel true false rest
    | ([], []) => some (missing, [])
    | ([], tokens) => parse Handles.standard fuel true false tokens
    | _ => none
  if rest.all (· == .documentEnd) then some node else none

def ofText? (text : String) : Option WrittenNode :=
  (tokens? text).bind ofTokens?

end WrittenNode

end QueryCompiler.Yaml

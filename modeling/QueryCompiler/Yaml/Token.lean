import QueryCompiler.Yaml.BlockScalar
import QueryCompiler.Yaml.Property

/-!
# YAML tokens

A text is cut into scalars and marks.  Blocks are opened where a list item or a
key stands further to the right than before, and closed where a line begins
further to the left.  That a scalar is a key shows at the colon behind it, so the
marks of a key are put in front of it afterwards.
-/

namespace QueryCompiler.Yaml

inductive Style where
  | plain
  | quoted
  | literal
  | folded
  deriving DecidableEq, Repr

/-- A piece of a YAML text. -/
inductive Token where
  | blockListStart
  | blockMapStart
  | blockEnd
  | flowListStart
  | flowListEnd
  | flowMapStart
  | flowMapEnd
  | item
  | comma
  | key
  | value
  | alias (name : String)
  | anchor (name : String)
  | tag (tag : Tag)
  | scalar (text : String) (style : Style)
  | directive (directive : Directive)
  | documentStart
  | documentEnd
  deriving DecidableEq, Repr

/-- A token that may turn out to be a key: its place among the tokens and in the
text, counted in bytes, and whether nothing else can stand there. -/
structure PossibleKey where
  position : Nat
  line : Nat
  column : Nat
  index : Nat
  required : Bool

/-- A text that is cut up to some place.  The tokens are kept newest first, the
columns of the open blocks and the possible keys of the open flow collections
innermost first. -/
structure Cutting where
  rest : List Char
  line : Nat
  column : Nat
  index : Nat
  tokens : List Token
  blocks : List Nat
  possibleKey : Option PossibleKey
  outerKeys : List (Option PossibleKey)
  keyAllowed : Bool

namespace Cutting

def ofText (text : List Char) : Cutting where
  rest := text
  line := 0
  column := 0
  index := 0
  tokens := []
  blocks := []
  possibleKey := none
  outerKeys := []
  keyAllowed := true

def inFlow (cutting : Cutting) : Bool :=
  !cutting.outerKeys.isEmpty

def stepOver (cutting : Cutting) (character : Char) : Cutting :=
  let index := cutting.index + character.utf8Size
  if isBreak character then
    { cutting with line := cutting.line + 1, column := 0, index := index }
  else
    { cutting with column := cutting.column + 1, index := index }

/-- Go on to a later place, of which the remaining text is given. -/
def goTo (cutting : Cutting) (rest : List Char) : Cutting :=
  let passed := cutting.rest.take (cutting.rest.length - rest.length)
  { passed.foldl stepOver cutting with rest := rest }

def push (cutting : Cutting) (token : Token) : Cutting :=
  { cutting with tokens := token :: cutting.tokens }

def pushOver (cutting : Cutting) (token : Token) (count : Nat) : Cutting :=
  (cutting.push token).goTo (cutting.rest.drop count)

/-- Put a token in front of all but so many of the oldest ones. -/
def insertAt (cutting : Cutting) (position : Nat) (token : Token) : Cutting :=
  let newer := cutting.tokens.length - position
  { cutting with tokens := cutting.tokens.take newer ++ token :: cutting.tokens.drop newer }

/-! ## Blocks -/

/-- Open a block at a column that lies to the right of the innermost block.  Its
mark goes in front of the token at a position. -/
def openBlock (cutting : Cutting) (column position : Nat) (mark : Token) : Cutting :=
  if !cutting.inFlow && cutting.blocks.head?.all (· < column) then
    { cutting.insertAt position mark with blocks := column :: cutting.blocks }
  else
    cutting

/-- Close the blocks for which a test on their columns holds, from inside. -/
def closeBlocks (test : Nat → Bool) (cutting : Cutting) : Cutting :=
  let closed := cutting.blocks.takeWhile test
  { cutting with
    tokens := closed.map (fun _ => Token.blockEnd) ++ cutting.tokens
    blocks := cutting.blocks.drop closed.length }

/-- Close the blocks that lie to the right of the place. -/
def closeToColumn (cutting : Cutting) : Cutting :=
  if cutting.inFlow then cutting else cutting.closeBlocks (cutting.column < ·)

/-! ## Keys -/

/-- Whether a possible key can no longer have its colon.  A key keeps to its line
and to 1024 bytes. -/
def isStale (cutting : Cutting) (key : PossibleKey) : Bool :=
  key.line < cutting.line || key.index + 1024 < cutting.index

/-- A possible key, unless it is stale; none at all if it was required. -/
def freshKey? (cutting : Cutting) : Option PossibleKey → Option (Option PossibleKey)
  | none => some none
  | some key =>
      if cutting.isStale key then
        if key.required then none else some none
      else
        some (some key)

def dropStaleKeys? (cutting : Cutting) : Option Cutting := do
  let possibleKey ← cutting.freshKey? cutting.possibleKey
  let outerKeys ← cutting.outerKeys.mapM cutting.freshKey?
  return { cutting with possibleKey := possibleKey, outerKeys := outerKeys }

/-- Forget the possible key, which must not be required. -/
def dropKey? (cutting : Cutting) : Option Cutting :=
  if cutting.possibleKey.any (·.required) then none
  else some { cutting with possibleKey := none }

/-- Note that the next token may be a key. -/
def noteKey? (cutting : Cutting) : Option Cutting :=
  if cutting.keyAllowed then do
    let cutting ← cutting.dropKey?
    return { cutting with
      possibleKey := some {
        position := cutting.tokens.length
        line := cutting.line
        column := cutting.column
        index := cutting.index
        required := !cutting.inFlow && cutting.blocks.head? == some cutting.column } }
  else
    some cutting

/-- Allow or forbid a key at the next place. -/
def allowKey (cutting : Cutting) (allowed : Bool) : Cutting :=
  { cutting with keyAllowed := allowed }

/-! ## Marks -/

/-- What stands between tokens: the beginning of a line, blanks, or a comment. -/
inductive Between where
  | lineStart
  | blanks
  | comment
  deriving DecidableEq, Repr

/-- Pass over blanks, comments and line ends.  A tab may not stand where a key of a
block could, and a line may begin with a byte order mark. -/
def skipGaps (flow : Bool) : Bool → Between → List Char → Bool × List Char
  | keyAllowed, _, [] => (keyAllowed, [])
  | keyAllowed, between, character :: rest =>
      if isBreak character then skipGaps flow (keyAllowed || !flow) .lineStart rest
      else if between = .comment then skipGaps flow keyAllowed .comment rest
      else if character == ' ' || (character == '\t' && (flow || !keyAllowed)) ||
          (character == '\uFEFF' && between = .lineStart) then
        skipGaps flow keyAllowed .blanks rest
      else if character == '#' then skipGaps flow keyAllowed .comment rest
      else (keyAllowed, character :: rest)

def toNextToken (cutting : Cutting) : Cutting :=
  let between := if cutting.column = 0 then Between.lineStart else .blanks
  let (keyAllowed, rest) := skipGaps cutting.inFlow cutting.keyAllowed between cutting.rest
  (cutting.goTo rest).allowKey keyAllowed

/-- Close all blocks, unless the place is within a flow collection. -/
def closeAll (cutting : Cutting) : Cutting :=
  if cutting.inFlow then cutting else cutting.closeBlocks fun _ => true

/-- The mark of a document: all blocks end there. -/
def cutDocumentMark? (cutting : Cutting) (mark : Token) : Option Cutting := do
  let cutting ← cutting.closeAll.dropKey?
  return (cutting.allowKey false).pushOver mark 3

def cutDirective? (cutting : Cutting) : Option Cutting := do
  let cutting ← cutting.closeAll.dropKey?
  let (directive, rest) ← Directive.read? (cutting.rest.drop 1)
  let rest ← restOfLine? rest
  return ((cutting.allowKey false).push (.directive directive)).goTo rest

def cutFlowStart? (cutting : Cutting) (mark : Token) : Option Cutting := do
  let cutting ← cutting.noteKey?
  let inner :=
    { cutting with
      possibleKey := none
      outerKeys := cutting.possibleKey :: cutting.outerKeys
      keyAllowed := true }
  return inner.pushOver mark 1

def cutFlowEnd? (cutting : Cutting) (mark : Token) : Option Cutting := do
  let cutting ← cutting.dropKey?
  let outer :=
    match cutting.outerKeys with
    | key :: keys => { cutting with possibleKey := key, outerKeys := keys }
    | [] => cutting
  return (outer.allowKey false).pushOver mark 1

def cutComma? (cutting : Cutting) : Option Cutting := do
  let cutting ← cutting.dropKey?
  return (cutting.allowKey true).pushOver .comma 1

def cutItem? (cutting : Cutting) : Option Cutting := do
  if !cutting.inFlow && !cutting.keyAllowed then failure
  let opened := cutting.openBlock cutting.column cutting.tokens.length .blockListStart
  let cutting ← opened.dropKey?
  return (cutting.allowKey true).pushOver .item 1

def cutKey? (cutting : Cutting) : Option Cutting := do
  if !cutting.inFlow && !cutting.keyAllowed then failure
  let opened := cutting.openBlock cutting.column cutting.tokens.length .blockMapStart
  let cutting ← opened.dropKey?
  return (cutting.allowKey !cutting.inFlow).pushOver .key 1

def cutValue? (cutting : Cutting) : Option Cutting := do
  match cutting.possibleKey with
  | some key =>
      let opened :=
        (cutting.insertAt key.position .key).openBlock key.column key.position .blockMapStart
      return ({ opened with possibleKey := none }.allowKey false).pushOver .value 1
  | none =>
      if !cutting.inFlow && !cutting.keyAllowed then failure
      let opened := cutting.openBlock cutting.column cutting.tokens.length .blockMapStart
      return (opened.allowKey !cutting.inFlow).pushOver .value 1

/-! ## Properties and scalars -/

def cutName? (cutting : Cutting) (token : String → Token) : Option Cutting := do
  let cutting ← cutting.noteKey?
  let (name, rest) ← readName? (cutting.rest.drop 1)
  return ((cutting.allowKey false).push (token name)).goTo rest

def cutTag? (cutting : Cutting) : Option Cutting := do
  let cutting ← cutting.noteKey?
  let (tag, rest) ← readTag? cutting.inFlow cutting.rest
  return ((cutting.allowKey false).push (.tag tag)).goTo rest

def pushScalar (cutting : Cutting) (characters : List Char) (style : Style) (rest : List Char) :
    Cutting :=
  (cutting.push (.scalar (String.ofList characters) style)).goTo rest

/-- A block scalar.  A key may follow it. -/
def cutBlockScalar? (cutting : Cutting) (style : Style) : Option Cutting := do
  let cutting ← cutting.dropKey?
  let (characters, rest) ←
    readBlockScalar? (style = .folded) cutting.blocks.head? (cutting.rest.drop 1)
  return (cutting.allowKey true).pushScalar characters style rest

def cutQuoted? (cutting : Cutting) (read : Nat → Gap → List Char → Option QuotedReading) :
    Option Cutting := do
  let cutting ← cutting.noteKey?
  let reading ← read (cutting.column + 1) .none (cutting.rest.drop 1)
  return (cutting.allowKey false).pushScalar reading.characters .quoted reading.rest

/-- A plain scalar.  Behind a line end a key may follow. -/
def cutPlain? (cutting : Cutting) : Option Cutting := do
  let cutting ← cutting.noteKey?
  let indent := match cutting.blocks with
    | column :: _ => column + 1
    | [] => 0
  let reading ← readPlain cutting.inFlow indent cutting.column .none cutting.rest
  return (cutting.allowKey reading.broken).pushScalar reading.characters .plain reading.rest

/-- Whether a character begins something other than a plain scalar. -/
def isIndicator (character : Char) : Bool :=
  "-?:,[]\x7b\x7d#&*!|>'\"%@`".toList.contains character

def beginsPlain (flow : Bool) : List Char → Bool
  | [] => false
  | character :: rest =>
      !(beginsBlank [character] || isIndicator character) ||
        (character == '-' && !rest.head?.any isBlank) ||
        (!flow && (character == '?' || character == ':') && !beginsBlank rest)

/-! ## Texts -/

def cutNext? (cutting : Cutting) : Option Cutting :=
  if cutting.column = 0 && cutting.rest.head? == some '%' then
    cutting.cutDirective?
  else if cutting.column = 0 && beginsDocumentMark cutting.rest then
    cutting.cutDocumentMark?
      (if cutting.rest.head? == some '-' then .documentStart else .documentEnd)
  else
    match cutting.rest with
    | '[' :: _ => cutting.cutFlowStart? .flowListStart
    | '{' :: _ => cutting.cutFlowStart? .flowMapStart
    | ']' :: _ => cutting.cutFlowEnd? .flowListEnd
    | '}' :: _ => cutting.cutFlowEnd? .flowMapEnd
    | ',' :: _ => cutting.cutComma?
    | '\'' :: _ => cutting.cutQuoted? readSingle
    | '"' :: _ => cutting.cutQuoted? readDouble
    | '*' :: _ => cutting.cutName? .alias
    | '&' :: _ => cutting.cutName? .anchor
    | '!' :: _ => cutting.cutTag?
    | first :: rest =>
        if first == '-' && beginsBlank rest then cutting.cutItem?
        else if first == '?' && (cutting.inFlow || beginsBlank rest) then cutting.cutKey?
        else if first == ':' && (cutting.inFlow || beginsBlank rest) then cutting.cutValue?
        else if first == '|' && !cutting.inFlow then cutting.cutBlockScalar? .literal
        else if first == '>' && !cutting.inFlow then cutting.cutBlockScalar? .folded
        else if beginsPlain cutting.inFlow cutting.rest then cutting.cutPlain?
        else none
    | [] => some cutting

/-- Cut all tokens.  Each of them takes at least one character. -/
def cutAll? : Nat → Cutting → Option (List Token)
  | 0, _ => none
  | fuel + 1, cutting => do
      let cutting ← cutting.toNextToken.dropStaleKeys?
      if cutting.rest.isEmpty then
        let ended ← cutting.closeAll.dropKey?
        return ended.tokens.reverse
      else
        cutAll? fuel (← cutting.closeToColumn.cutNext?)

end Cutting

def isAllowed (character : Char) : Bool :=
  let code := character.toNat
  code == 0x09 || code == 0x0A || code == 0x0D || (0x20 ≤ code && code ≤ 0x7E) ||
    code == 0x85 || (0xA0 ≤ code && code != 0xFFFE && code != 0xFFFF)

/-- A text with one character for each line end. -/
def unifyBreaks : List Char → List Char
  | '\r' :: '\n' :: rest => '\n' :: unifyBreaks rest
  | '\r' :: rest => '\n' :: unifyBreaks rest
  | '\u0085' :: rest => '\n' :: unifyBreaks rest
  | character :: rest => character :: unifyBreaks rest
  | [] => []

def tokens? (text : String) : Option (List Token) :=
  let characters := text.toList
  if characters.all isAllowed then
    (Cutting.ofText (unifyBreaks characters)).cutAll? (characters.length + 1)
  else
    none

end QueryCompiler.Yaml

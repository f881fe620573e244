import CommandScript.Yaml.Tag
import CommandScript.Yaml.Token.Scan

/-!
# Nodes of YAML

The tree that a YAML text describes, every node with its tag. Aliases are replaced by what they
stand for; a node that would contain itself is not a tree and is refused.

## Main definitions

- `CommandScript.Yaml.Node` — a scalar, sequence or mapping with its tag
- `CommandScript.Yaml.document` — the node of a text, where there is one
-/

namespace CommandScript.Yaml

/-- A node with its tag. -/
inductive Node where
  | scalar (tag : String) (text : List Char)
  | sequence (tag : String) (items : List Node)
  | mapping (tag : String) (entries : List (Node × Node))

/-- The tag of a node. -/
def Node.tag : Node → String
  | .scalar t _ => t
  | .sequence t _ => t
  | .mapping t _ => t

/-- The node where nothing is written. -/
def Node.empty : Node := .scalar (standardTag "null") []

/-- What is known while nodes are built: the tokens left, the short forms for tags, and the nodes
with an anchor, of which those that are not finished have no node yet. -/
structure Progress where
  tokens : List Token
  handles : List (List Char × List Char)
  anchors : List (List Char × Option Node)

/-- A step in building nodes. -/
abbrev Build := StateT Progress (Except ReadError)

namespace Build

/-- The next token. -/
def peek : Build Token := do return ((← get).tokens.head?.getD .textEnd)

/-- Takes the next token away. -/
def skip : Build Unit := modify fun p => { p with tokens := p.tokens.tail }

/-- A fault at the next token, which is the token's own where it has one. -/
def fail {α : Type} : Build α := do
  match ← peek with
  | .bad e => throw e
  | _ => throw .malformed

/-- Takes the next token away, which must be the given one. -/
def expect (t : Token) : Build Unit := do
  if (← peek) = t then skip else fail

/-- Takes the next token away where it is the given one, and says whether it was. -/
def take (t : Token) : Build Bool := do
  if (← peek) = t then
    skip
    return true
  else return false

/-- The anchor and the tag before a node, in either order. -/
def properties : Build (Option (List Char) × Option (Option (List Char) × List Char)) := do
  match ← peek with
  | .anchor a =>
    skip
    match ← peek with
    | .tag h s =>
      skip
      return (some a, some (h, s))
    | _ => return (some a, none)
  | .tag h s =>
    skip
    match ← peek with
    | .anchor a =>
      skip
      return (some a, some (h, s))
    | _ => return (none, some (h, s))
  | _ => return (none, none)

/-- A tag written out; the mark alone counts as no tag but for the form of a scalar. -/
def resolve (tag : Option (Option (List Char) × List Char)) : Build (Option (List Char)) := do
  match tag with
  | none => return none
  | some (none, suffix) => return some suffix
  | some (some handle, suffix) =>
    match (← get).handles.lookup handle with
    | some leading => return some (leading ++ suffix)
    | none => throw .malformed

/-- Notes that a node has an anchor. -/
def anchorBegin (anchor : Option (List Char)) : Build Unit := do
  match anchor with
  | none => return ()
  | some a =>
    if ((← get).anchors.lookup a).isSome then throw .malformed
    else modify fun p => { p with anchors := (a, none) :: p.anchors }

/-- Notes the node of an anchor. -/
def anchorEnd (anchor : Option (List Char)) (n : Node) : Build Node := do
  match anchor with
  | none => return n
  | some a =>
    modify fun p => { p with anchors := (a, some n) :: p.anchors }
    return n

/-- The node of an alias. -/
def aliased (name : List Char) : Build Node := do
  match (← get).anchors.lookup name with
  | some (some n) => return n
  | _ => throw .malformed

/-- The tag of a scalar, given the tag written before it. -/
def scalarTag (tag : Option (List Char)) (text : List Char) (plain : Bool) : String :=
  match tag with
  | none => if plain then plainTag text else standardTag "str"
  | some ['!'] => plainTag text
  | some t => String.ofList t

/-- The tag of a collection, given the tag written before it. -/
def collectionTag (tag : Option (List Char)) (name : String) : String :=
  match tag with
  | none => standardTag name
  | some ['!'] => standardTag name
  | some t => String.ofList t

mutual

/-- A node; block collections are admitted where `block` says so, and a sequence without
indentation of its own where `bare` does. -/
def node : (fuel : Nat) → (block bare : Bool) → Build Node
  | 0, _, _ => fail
  | f + 1, block, bare => do
    match ← peek with
    | .alias name =>
      skip
      aliased name
    | _ =>
      let (anchor, written) ← properties
      let tag ← resolve written
      match ← peek with
      | .scalar text plain =>
        skip
        anchorBegin anchor
        anchorEnd anchor (.scalar (scalarTag tag text plain) text)
      | .openSequence =>
        skip
        anchorBegin anchor
        anchorEnd anchor (.sequence (collectionTag tag "seq") (← flowItems f true))
      | .openMapping =>
        skip
        anchorBegin anchor
        anchorEnd anchor (.mapping (collectionTag tag "map") (← flowEntries f true))
      | t =>
        if bare && t = .blockEntry then
          anchorBegin anchor
          anchorEnd anchor (.sequence (collectionTag tag "seq") (← bareItems f))
        else if block && t = .blockSequence then
          skip
          anchorBegin anchor
          anchorEnd anchor (.sequence (collectionTag tag "seq") (← blockItems f))
        else if block && t = .blockMapping then
          skip
          anchorBegin anchor
          anchorEnd anchor (.mapping (collectionTag tag "map") (← blockEntries f))
        -- Properties without anything after them belong to an empty scalar.
        else if anchor.isSome || tag.isSome then
          anchorBegin anchor
          anchorEnd anchor (.scalar (scalarTag tag [] true) [])
        else fail

/-- The node after an indicator, which is empty where one of the tokens in `ends` follows. -/
def nodeUnless : (fuel : Nat) → (block bare : Bool) → (ends : List Token) → Build Node
  | 0, _, _, _ => fail
  | f + 1, block, bare, ends => do
    if ends.contains (← peek) then return .empty else node f block bare

/-- The items of a block sequence, up to its end. -/
def blockItems : (fuel : Nat) → Build (List Node)
  | 0 => fail
  | f + 1 => do
    if ← take .blockEntry then
      let n ← nodeUnless f true false [.blockEntry, .blockEnd]
      return n :: (← blockItems f)
    else
      expect .blockEnd
      return []

/-- The items of a sequence without indentation of its own. -/
def bareItems : (fuel : Nat) → Build (List Node)
  | 0 => fail
  | f + 1 => do
    if ← take .blockEntry then
      let n ← nodeUnless f true false [.blockEntry, .key, .value, .blockEnd]
      return n :: (← bareItems f)
    else return []

/-- The entries of a block mapping, up to its end. -/
def blockEntries : (fuel : Nat) → Build (List (Node × Node))
  | 0 => fail
  | f + 1 => do
    match ← peek with
    | .key =>
      skip
      let k ← nodeUnless f true true [.key, .value, .blockEnd]
      let v ← blockValue f
      return (k, v) :: (← blockEntries f)
    | _ =>
      expect .blockEnd
      return []

/-- The value of an entry in a block mapping. -/
def blockValue : (fuel : Nat) → Build Node
  | 0 => fail
  | f + 1 => do
    if ← take .value then nodeUnless f true true [.key, .value, .blockEnd] else return .empty

/-- The items of a sequence in brackets, up to its end. -/
def flowItems : (fuel : Nat) → (atStart : Bool) → Build (List Node)
  | 0, _ => fail
  | f + 1, atStart => do
    if ← take .closeSequence then return []
    else
      if !atStart then expect .flowEntry
      match ← peek with
      | .key =>
        skip
        let k ← nodeUnless f false false [.value, .flowEntry, .closeSequence]
        let v ← flowValue f .closeSequence
        -- An entry among items is a mapping of its own.
        return .mapping (standardTag "map") [(k, v)] :: (← flowItems f false)
      | .closeSequence =>
        skip
        return []
      | _ =>
        let n ← node f false false
        return n :: (← flowItems f false)

/-- The entries of a mapping in brackets, up to its end. -/
def flowEntries : (fuel : Nat) → (atStart : Bool) → Build (List (Node × Node))
  | 0, _ => fail
  | f + 1, atStart => do
    if ← take .closeMapping then return []
    else
      if !atStart then expect .flowEntry
      match ← peek with
      | .key =>
        skip
        let k ← nodeUnless f false false [.value, .flowEntry, .closeMapping]
        let v ← flowValue f .closeMapping
        return (k, v) :: (← flowEntries f false)
      | .closeMapping =>
        skip
        return []
      | _ =>
        let k ← node f false false
        return (k, .empty) :: (← flowEntries f false)

/-- The value of an entry in brackets, where one is written. -/
def flowValue : (fuel : Nat) → (closing : Token) → Build Node
  | 0, _ => fail
  | f + 1, closing => do
    if ← take .value then nodeUnless f false false [.flowEntry, closing] else return .empty

end

/-- The short forms that stand for themselves or for the standard schema. -/
def usualHandles : List (List Char × List Char) :=
  [(['!'], ['!']), (['!', '!'], standardStart.toList)]

/-- The directives before a document, of which `count` tokens are left at most; `versioned` says
that the version has been given. -/
def directives : (count : Nat) → (versioned : Bool) → Build Unit
  | 0, _ => return ()
  | n + 1, versioned => do
    match ← peek with
    | .directive (.version major) =>
      skip
      if versioned || major ≠ 1 then throw .malformed else directives n true
    | .directive (.tag handle leading) =>
      skip
      if ((← get).handles.lookup handle).isSome then throw .malformed
      else
        modify fun p => { p with handles := (handle, leading) :: p.handles }
        directives n versioned
    | .directive .other =>
      skip
      directives n versioned
    | _ => return ()

/-- Takes away all marks for the end of a document, at most `count` of them. -/
def documentEnds : (count : Nat) → Build Unit
  | 0 => return ()
  | n + 1 => do
    if ← take .documentEnd then documentEnds n else return ()

/-- Whether the next token begins a document in so many words. -/
def isExplicit : Token → Bool
  | .directive _ => true
  | .documentStart => true
  | _ => false

/-- Whether the next token leaves the content of a document empty. -/
def endsContent : Token → Bool
  | .directive _ => true
  | .documentStart => true
  | .documentEnd => true
  | .textEnd => true
  | _ => false

/-- The node of a document that begins in so many words. -/
def explicit (size : Nat) : Build Node := do
  directives size false
  modify fun p => { p with handles := p.handles ++ usualHandles }
  expect .documentStart
  if endsContent (← peek) then return .empty else node (4 * size + 4) true false

/-- The node of the only document, where there is one. -/
def only (size : Nat) : Build (Option Node) := do
  if (← peek) = .textEnd then return none
  else
    let n ←
      if isExplicit (← peek) then explicit size
      else
        modify fun p => { p with handles := usualHandles }
        node (4 * size + 4) true false
    documentEnds size
    expect .textEnd
    return some n

end Build

/-- The node of a text, where there is one. -/
def document (cs : List Char) : Except ReadError (Option Node) := do
  let ts := tokens cs
  let (n, _) ← (Build.only ts.length).run ⟨ts, [], []⟩
  return n

end CommandScript.Yaml

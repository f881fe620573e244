import CommandScript.File
import CommandScript.Text.CharClass
import CommandScript.Text.Quoted
import CommandScript.Text.Split
import CommandScript.Text.Utf8

/-!
# Templates

Bodies of functions with tags in double braces, in place of which the values of parameters are put.
Tags also open and close sections, comment, include other templates and change what tags are written
with.

## Main definitions

- `CommandScript.Template.Node` — a part of a template
- `CommandScript.Template.parse` — the parts of a template
- `CommandScript.Template.Error` — why a template is not rendered

## Design notes

A section that is never closed takes the place of everything around it. A tag with a line of its
own takes the line with it, unless it stands for a value.

How tags are read, and which white space goes with them, are the rules of the renderer that bodies
are written for. They are assumed here, with what `CommandScript.Template.Rendering` makes of them.
What is said of bodies in general uses that rendering comes to an end, and of particular tags only
that those of a value are replaced by it and that all other text is left as it is.
-/

namespace CommandScript.Template

open Text

/-- Why a template is not rendered. -/
inductive Error where
  /-- The tag that closes a section names another section than the one that is open; it ends at a
  position. -/
  | mismatch (position : Nat) (closing : String) (opened : Option String)
  /-- A change of delimiters gives fewer than two. -/
  | noDelimiters
  /-- A template that is no text and has no file for its type. -/
  | noFile (name : String)
  /-- A template that is there and cannot be opened. -/
  | unopened (path : String) (e : OpenError)
  | notUtf8 (e : Utf8.DecodeError)
  /-- Templates include one another without an end. -/
  | endless
  deriving DecidableEq, Repr

namespace Error

/-- The usual tag with a mark before a name. -/
def tagText (mark name : String) : String := "\x7b\x7b" ++ mark ++ name ++ "\x7d\x7d"

/-- The tag that is missing before one that closes a section: where another section is open, the one
that closes that, and otherwise one that opens this. -/
def missingTag (closing : String) (opened : Option String) : String :=
  match opened with
  | some name => tagText "/" name
  | none => tagText "#" closing

/-- The word for the kind of an error. -/
def kind : Error → String
  | .mismatch .. => "ParsingError"
  | .noDelimiters => "IndexError"
  | .noFile _ => "TemplateNotFoundError"
  | .unopened _ e => e.kind
  | .notUtf8 _ => "UnicodeDecodeError"
  | .endless => "RecursionError"

/-- The wording of an error. -/
def message : Error → String
  | .mismatch position closing opened =>
    "Section end tag mismatch at position " ++ toString position ++ ". Found " ++
      tagText "/" closing ++ ", expected " ++ missingTag closing opened
  | .noDelimiters => "list index out of range"
  | .noFile n => "File " ++ quoted n ++ " not found in dirs: ['.']"
  | .unopened p e => e.message p
  | .notUtf8 e => e.message
  | .endless => "maximum recursion depth exceeded"

end Error

/-- A part of a template: text, a value, another template with what its lines are indented by, or a
section that is shown where the value of its name counts as given (or, inverted, where it does
not). -/
inductive Node where
  | text (cs : List Char)
  | value (name : List Char)
  | inclusion (name indent : List Char)
  | block (inverted : Bool) (name : List Char) (inner : List Node)

/-- What tags are written between. -/
structure Delimiters where
  opening : List Char
  closing : List Char

/-- Double braces. -/
def usual : Delimiters := ⟨['\x7b', '\x7b'], ['\x7d', '\x7d']⟩

/-- What a tag does. -/
inductive Kind where
  | value
  | comment
  | inclusion
  | opening (inverted : Bool)
  | closing
  | change
  deriving DecidableEq

/-- A tag with its name and what follows it. -/
structure Tag where
  kind : Kind
  name : List Char
  rest : List Char

/-- What follows a text at the front of another, where it stands there. -/
def after? (pattern cs : List Char) : Option (List Char) :=
  if pattern.isPrefixOf cs then some (cs.drop pattern.length) else none

/-- What follows the end of a tag: blanks, the given mark, further blanks and the closing
delimiter. Without a mark the closing delimiter follows the first blanks. -/
def ends? (d : Delimiters) (mark cs : List Char) : Option (List Char) :=
  let cs := trimLeft cs
  if mark.isEmpty then after? d.closing cs
  else (after? mark cs).bind fun rest => after? d.closing (trimLeft rest)

/-- The shortest name at the front of a text that the end of a tag follows, and what follows that.
A name has at least one character; `oneLine` says that it may not contain a line feed. -/
def shortest? (oneLine : Bool) (ends : List Char → Option (List Char)) :
    List Char → Option (List Char × List Char)
  | [] => none
  | c :: cs =>
    if oneLine && c = '\n' then none
    else
      match ends cs with
      | some rest => some ([c], rest)
      | none => (shortest? oneLine ends cs).map fun p => (c :: p.1, p.2)

/-- The name in a tag after blanks. Blanks belong to the name only where there is no other way to
read the tag; of them, `blanks` (backwards) have been passed. -/
def nameAfterBlanks? (oneLine : Bool) (ends : List Char → Option (List Char)) :
    (blanks : List Char) → List Char → Option (List Char × List Char)
  | [], cs => shortest? oneLine ends cs
  | b :: bs, cs =>
    (shortest? oneLine ends cs).or (nameAfterBlanks? oneLine ends bs (b :: cs))

/-- The name in a tag, which may stand after blanks. -/
def name? (oneLine : Bool) (ends : List Char → Option (List Char)) (cs : List Char) :
    Option (List Char × List Char) :=
  nameAfterBlanks? oneLine ends (cs.takeWhile isBlank).reverse (trimLeft cs)

/-- The kind of a tag that starts with a mark. -/
def kindOf? (c : Char) : Option Kind :=
  if c = '!' then some .comment
  else if c = '>' then some .inclusion
  else if c = '&' then some .value
  else if c = '/' then some .closing
  else if c = '#' then some (.opening false)
  else if c = '^' then some (.opening true)
  else none

/-- The tag in a text after the opening delimiter and blanks, where its first character counts as a
mark. -/
def marked? (d : Delimiters) (cs : List Char) : Option Tag :=
  match cs with
  | [] => none
  | c :: rest =>
    if c = '=' then
      (name? true (ends? d ['=']) rest).map fun p => ⟨.change, p.1, p.2⟩
    else if c = '\x7b' then
      (name? true (ends? d ['\x7d']) rest).map fun p => ⟨.value, p.1, p.2⟩
    else
      (kindOf? c).bind fun k => (name? false (ends? d []) rest).map fun p => ⟨k, p.1, p.2⟩

/-- The tag in a text after the opening delimiter. -/
def inside? (d : Delimiters) (cs : List Char) : Option Tag :=
  (marked? d (trimLeft cs)).or
    ((name? false (ends? d []) cs).map fun p => ⟨.value, p.1, p.2⟩)

/-- The blanks within a line at the front of a text. -/
def indentation (cs : List Char) : List Char := cs.takeWhile fun c => c = ' ' || c = '\t'

/-- The tag at the front of a text, which may stand after blanks. -/
def tagAt? (d : Delimiters) (cs : List Char) : Option Tag :=
  (after? d.opening (cs.drop (indentation cs).length)).bind (inside? d)

/-- The text before the first tag, and the text from there on with the tag. -/
def firstTag? (d : Delimiters) : List Char → Option (List Char × List Char × Tag)
  | [] => (tagAt? d []).map fun t => ([], [], t)
  | c :: cs =>
    match tagAt? d (c :: cs) with
    | some t => some ([], c :: cs, t)
    | none => (firstTag? d cs).map fun p => (c :: p.1, p.2)

/-- Whether a line starts after a text: the text is empty or ends with a line end. -/
def lineStarts (previous : Option Char) : Bool :=
  match previous with
  | none => true
  | some c => c = '\r' || c = '\n'

/-- A text without the line end at its front. -/
def dropLineEnd : List Char → List Char
  | '\r' :: '\n' :: cs => cs
  | '\r' :: cs => cs
  | '\n' :: cs => cs
  | cs => cs

/-- A section that is open: whether it is inverted, its name, and what stands before it
(backwards). -/
structure Open where
  inverted : Bool
  name : List Char
  before : List Node

/-- Nodes (backwards) with a text after them. -/
def consText (cs : List Char) (nodes : List Node) : List Node :=
  if cs.isEmpty then nodes else .text cs :: nodes

/-- The parts of a template of so many characters from a point on, with the sections that are open
and the parts of the innermost of them (backwards); `previous` is the character before. Each step
reads a tag. -/
def parseFrom (size : Nat) : (fuel : Nat) → Delimiters → (previous : Option Char) →
    (opened : List Open) → (nodes : List Node) → List Char → Except Error (List Node)
  | 0, _, _, _, nodes, _ => .ok nodes.reverse
  | f + 1, d, previous, opened, nodes, cs =>
    match firstTag? d cs with
    | none => .ok (consText cs nodes).reverse
    | some (before, start, tag) =>
      -- A tag that has a line to itself takes the line with it, but a value never does.
      let alone :=
        lineStarts (before.getLast?.or previous) && lineStarts tag.rest.head? && tag.kind ≠ .value
      let shown := if alone then before else before ++ indentation start
      let rest := if alone then dropLineEnd tag.rest else tag.rest
      -- The character before what is left, from which the next tag sees whether a line starts.
      let last := (start.take (start.length - rest.length)).getLast?.or previous
      let nodes := consText shown nodes
      match tag.kind with
      | .value => parseFrom size f d last opened (.value tag.name :: nodes) rest
      | .comment => parseFrom size f d last opened nodes rest
      | .inclusion =>
        -- What is included in place of a line is indented as that was.
        let indent := if alone then indentation start else []
        parseFrom size f d last opened (.inclusion tag.name indent :: nodes) rest
      | .opening inverted => parseFrom size f d last (⟨inverted, tag.name, nodes⟩ :: opened) [] rest
      | .closing =>
        match opened with
        | [] => .error (.mismatch (size - rest.length) (String.ofList tag.name) none)
        | o :: opened =>
          if o.name = tag.name then
            let block := Node.block o.inverted o.name nodes.reverse
            parseFrom size f d last opened (block :: o.before) rest
          else
            .error (.mismatch (size - rest.length) (String.ofList tag.name)
              (some (String.ofList o.name)))
      | .change =>
        match words tag.name with
        | opening :: closing :: _ => parseFrom size f ⟨opening, closing⟩ last opened nodes rest
        | _ => .error .noDelimiters

/-- The parts of a template. -/
def parse (cs : List Char) : Except Error (List Node) :=
  parseFrom cs.length (cs.length + 1) usual none [] [] cs

end CommandScript.Template

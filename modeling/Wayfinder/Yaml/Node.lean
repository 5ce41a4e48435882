/-
**Nodes of YAML.**

A node is a list, a table or a text. Plain texts may stand for truth values, integers, other numbers
or nothing. Nodes may be tagged with what they stand for, and an anchor lets others repeat them.
What is left out stands for nothing.

* `Node`: nodes;
* `Node.ofPlain`, `Node.ofTagged`: what plain texts stand for;
* `Reading.node?`: the node at the beginning of tokens;
* `Node.ofTokens?`: the node of the only document of tokens;
* `Node.tree?`: a node as a tree of settings;
* `Yaml.parse?`: the fields of a document.
-/

import Wayfinder.Decimal.Notation
import Wayfinder.Settings.Tree
import Wayfinder.Yaml.Token

namespace Wayfinder.Yaml

/-- A node. -/
inductive Node where
  /-- A text that is not what its tag says, or a node that repeats itself. -/
  | unusable
  | missing
  | bool (value : Bool)
  | integer (value : Int)
  /-- A number, unless it is spelled as one but cannot be read. -/
  | real (value : Option Decimal.Binary)
  | text (value : String)
  | list (items : List Node)
  | table (fields : List (Node × Node))

namespace Node

/-! ### What texts stand for -/

/-- Spellings of infinity and of what is no number that begin with a point. They are known to be
numbers but cannot be read. -/
def pointed : List String :=
  [".inf", ".Inf", ".INF", "+.inf", "+.Inf", "+.INF", "-.inf", "-.Inf", "-.INF", ".nan", ".NAN"]

/-- The number for which a text stands. -/
def real? (text : String) : Option Node :=
  match Decimal.double.parse? text.toList with
  | some value => some (.real (some value))
  | none => if pointed.contains text then some (.real none) else none

/-- The integer for which a text stands, in a base that a mark may give. -/
def integer? (text : List Char) : Option Node :=
  let plain := Decimal.integer? 10 text
  (match text with
  | '0' :: 'x' :: rest => (Decimal.integer? 16 rest).or plain
  | '0' :: 'o' :: rest => (Decimal.integer? 8 rest).or plain
  | '+' :: rest => (Decimal.integer? 10 rest).or plain
  | _ => plain).map .integer

/-- What a plain text stands for. -/
def ofPlain (text : String) : Node :=
  if text = "~" ∨ text = "null" then .missing
  else if text = "true" then .bool true
  else if text = "false" then .bool false
  else ((integer? text.toList).or (real? text)).getD (.text text)

/-- What a plain text stands for under the name of a tag. Other names than these four leave it a
text. -/
def ofTagged (name : String) (text : String) : Node :=
  if name = "bool" then
    if text = "true" then .bool true else if text = "false" then .bool false else .unusable
  else if name = "int" then
    ((Decimal.integer? 10 text.toList).map .integer).getD .unusable
  else if name = "float" then (real? text).getD .unusable
  else if name = "null" then if text = "~" ∨ text = "null" then .missing else .unusable
  else .text text

/-- Whether the node is unusable. -/
def isUnusable : Node → Bool
  | .unusable => true
  | _ => false

/-- Nodes in turn as keys and values, after a key. An unusable node is no key, so that the next one
takes its place. -/
def pairs : Option Node → List Node → List (Node × Node)
  | _, [] => []
  | none, node :: rest => pairs (if node.isUnusable then none else some node) rest
  | some key, node :: rest => (key, node) :: pairs none rest

/-! ### Nodes as trees of settings -/

mutual

/-- A node as a tree of settings. Fields whose keys are no texts do not count, and of fields with
one key the last one counts. -/
def tree? : Node → Option SettingTree
  | .unusable | .missing => some .missing
  | .bool value => some (.bool value)
  | .integer value => some (.integer value)
  | .real value => value.map .real
  | .text value => some (.text value)
  | .list items => (trees? items).map .list
  | .table fields => (fields? fields []).map .table

/-- Nodes as trees of settings. -/
def trees? : List Node → Option (List SettingTree)
  | [] => some []
  | node :: rest => (tree? node).bind fun tree => (trees? rest).map (tree :: ·)

/-- The fields of a table, after those already read. -/
def fields? : List (Node × Node) → List (String × SettingTree) →
    Option (List (String × SettingTree))
  | [], read => some read
  | (.text key, value) :: rest, read =>
    (tree? value).bind fun tree => fields? rest (SettingTree.change key (fun _ => tree) read)
  | _ :: rest, read => fields? rest read

end

end Node

/-! ### Nodes of tokens -/

/-- What is left of the tokens, with the anchors so far: their numbers by name, latest first, and
the nodes of those numbers that are complete. -/
structure Reading where
  tokens : List Token
  names : List (String × Nat)
  nodes : List (Nat × Node)

/-- What stands before a node: the number of its anchor, and its tag. -/
structure Properties where
  anchor : Option Nat
  tag : Option (List Char × List Char)

namespace Properties

/-- Whether there are any. -/
def isPresent (properties : Properties) : Bool :=
  properties.anchor.isSome || properties.tag.isSome

/-- The node of a text. -/
def node (properties : Properties) (plain : Bool) (text : String) : Node :=
  match plain, properties.tag with
  | true, none => .ofPlain text
  | true, some (handle, name) =>
    if handle = ['!', '!'] then .ofTagged (String.ofList name) text else .text text
  | false, _ => .text text

end Properties

namespace Reading

/-- The node that has an anchor of some name. One that is not complete is unusable. -/
def known? (name : String) (reading : Reading) : Option Node :=
  (reading.names.lookup name).map fun number => (reading.nodes.lookup number).getD .unusable

/-- What is left behind some tokens. -/
def goOn (reading : Reading) (tokens : List Token) : Reading := { reading with tokens }

/-- What is left behind an anchor. Every anchor has a number of its own. -/
def anchored (name : String) (reading : Reading) (tokens : List Token) : Reading :=
  { reading with tokens, names := (name, reading.names.length) :: reading.names }

/-- Takes what stands before a node. -/
def takeProperties (reading : Reading) : Properties × Reading :=
  let number := some reading.names.length
  match reading.tokens with
  | .anchor name :: .tag handle kind :: tokens | .tag handle kind :: .anchor name :: tokens =>
    (⟨number, some (handle, kind)⟩, reading.anchored name tokens)
  | .anchor name :: tokens => (⟨number, none⟩, reading.anchored name tokens)
  | .tag handle kind :: tokens => (⟨none, some (handle, kind)⟩, reading.goOn tokens)
  | _ => (⟨none, none⟩, reading)

/-- A complete node with what is left, from where others can repeat it by its anchor. -/
def keep (properties : Properties) (found : Node × Reading) : Node × Reading :=
  match properties.anchor with
  | some number => (found.1, { found.2 with nodes := (number, found.1) :: found.2.nodes })
  | none => found

/-- Whether the part of a field is left out before these tokens, at an indentation. -/
def lacksPart : List Token → Bool
  | .key :: _ | .value :: _ | .blockEnd :: _ => true
  | _ => false

mutual

/-- The node at the beginning of the tokens. Structures of an indentation may or may not be among
them, as well as lists whose hyphens are not indented. -/
def node? (block indentless : Bool) : Nat → Reading → Option (Node × Reading)
  | 0, _ => none
  | steps + 1, reading =>
    match reading.tokens with
    | .alias name :: tokens => (reading.known? name).map fun node => (node, reading.goOn tokens)
    | _ =>
      let (properties, reading) := reading.takeProperties
      let found : Option (Node × Reading) := match reading.tokens, block, indentless with
        | .item :: _, _, true =>
          (indentlessItems? steps reading).map fun (items, reading) => (Node.list items, reading)
        | .scalar plain text :: tokens, _, _ =>
          some (properties.node plain text, reading.goOn tokens)
        | .flowSequenceStart :: tokens, _, _ =>
          (flowItems? true steps (reading.goOn tokens)).map fun (items, reading) =>
            (Node.list items, reading)
        | .flowMappingStart :: tokens, _, _ =>
          (flowParts? true steps (reading.goOn tokens)).map fun (parts, reading) =>
            (Node.table (Node.pairs none parts), reading)
        | .sequenceStart :: tokens, true, _ =>
          (items? steps (reading.goOn tokens)).map fun (items, reading) =>
            (Node.list items, reading)
        | .mappingStart :: tokens, true, _ =>
          (parts? steps (reading.goOn tokens)).map fun (parts, reading) =>
            (Node.table (Node.pairs none parts), reading)
        | _, _, _ =>
          if properties.isPresent then some (properties.node true "", reading) else none
      found.map (keep properties)

/-- The items of a list at its indentation. -/
def items? : Nat → Reading → Option (List Node × Reading)
  | 0, _ => none
  | steps + 1, reading =>
    match reading.tokens with
    | .blockEnd :: tokens => some ([], reading.goOn tokens)
    | .item :: tokens => do
      let (item, reading) ← match tokens with
        | .item :: _ | .blockEnd :: _ => some (.missing, reading.goOn tokens)
        | _ => node? true false steps (reading.goOn tokens)
      let (items, reading) ← items? steps reading
      return (item :: items, reading)
    | _ => none

/-- The items of a list that has no indentation of its own. -/
def indentlessItems? : Nat → Reading → Option (List Node × Reading)
  | 0, _ => none
  | steps + 1, reading =>
    match reading.tokens with
    | .item :: tokens => do
      let (item, reading) ← match tokens with
        | .item :: _ => some (.missing, reading.goOn tokens)
        | _ =>
          if lacksPart tokens then some (.missing, reading.goOn tokens)
          else node? true false steps (reading.goOn tokens)
      let (items, reading) ← indentlessItems? steps reading
      return (item :: items, reading)
    | _ => some ([], reading)

/-- The keys and values of a table at its indentation, in turn. -/
def parts? : Nat → Reading → Option (List Node × Reading)
  | 0, _ => none
  | steps + 1, reading =>
    match reading.tokens with
    | .blockEnd :: tokens => some ([], reading.goOn tokens)
    | .key :: tokens => do
      let (key, reading) ← part? steps (reading.goOn tokens)
      let (parts, reading) ← valueParts? steps reading
      return (key :: parts, reading)
    | .value :: _ =>
      (valueParts? steps reading).map fun (parts, reading) => (.missing :: parts, reading)
    | _ => none

/-- The value of a field at its indentation, and the fields behind it. -/
def valueParts? : Nat → Reading → Option (List Node × Reading)
  | 0, _ => none
  | steps + 1, reading => do
    let (value, reading) ← match reading.tokens with
      | .value :: tokens => part? steps (reading.goOn tokens)
      | _ => some (.missing, reading)
    let (parts, reading) ← parts? steps reading
    return (value :: parts, reading)

/-- A key or a value behind its mark, at an indentation. -/
def part? : Nat → Reading → Option (Node × Reading)
  | 0, _ => none
  | steps + 1, reading =>
    if lacksPart reading.tokens then some (.missing, reading) else node? true true steps reading

/-- The items of a list in brackets, up to the closing one. An item may be a field without brackets
around it. -/
def flowItems? (first : Bool) : Nat → Reading → Option (List Node × Reading)
  | 0, _ => none
  | steps + 1, reading =>
    match first, reading.tokens with
    | _, .flowSequenceEnd :: tokens => some ([], reading.goOn tokens)
    | false, .comma :: tokens => flowItem? steps (reading.goOn tokens)
    | true, _ => flowItem? steps reading
    | false, _ => none

/-- An item of a list in brackets, and those behind it; or the closing bracket. -/
def flowItem? : Nat → Reading → Option (List Node × Reading)
  | 0, _ => none
  | steps + 1, reading =>
    match reading.tokens with
    | .flowSequenceEnd :: tokens => some ([], reading.goOn tokens)
    | .key :: tokens => do
      let (key, reading) ← match tokens with
        | .value :: tokens | .comma :: tokens | .flowSequenceEnd :: tokens =>
          some (.missing, reading.goOn tokens)
        | _ => node? false false steps (reading.goOn tokens)
      let (value, reading) ← match reading.tokens with
        | .value :: tokens =>
          match tokens with
          | .comma :: _ | .flowSequenceEnd :: _ => some (.missing, reading.goOn tokens)
          | _ => node? false false steps (reading.goOn tokens)
        | _ => some (.missing, reading)
      let (items, reading) ← flowItems? false steps reading
      return (.table (Node.pairs none [key, value]) :: items, reading)
    | _ => do
      let (item, reading) ← node? false false steps reading
      let (items, reading) ← flowItems? false steps reading
      return (item :: items, reading)

/-- The keys and values of a table in brackets, in turn, up to the closing one. -/
def flowParts? (first : Bool) : Nat → Reading → Option (List Node × Reading)
  | 0, _ => none
  | steps + 1, reading =>
    match first, reading.tokens with
    | _, .flowMappingEnd :: tokens => some ([], reading.goOn tokens)
    | false, .comma :: tokens => flowField? steps (reading.goOn tokens)
    | true, _ => flowField? steps reading
    | false, _ => none

/-- A field of a table in brackets, and those behind it; or the closing bracket. A key without a
mark has no value. -/
def flowField? : Nat → Reading → Option (List Node × Reading)
  | 0, _ => none
  | steps + 1, reading => do
    let close (key value : Node) (reading : Reading) : Option (List Node × Reading) :=
      (flowParts? false steps reading).map fun (parts, reading) => (key :: value :: parts, reading)
    match reading.tokens with
    | .flowMappingEnd :: tokens => some ([], reading.goOn tokens)
    | .key :: tokens => do
      let (key, reading) ← match tokens with
        | .value :: _ | .comma :: _ | .flowMappingEnd :: _ => some (.missing, reading.goOn tokens)
        | _ => node? false false steps (reading.goOn tokens)
      let (value, reading) ← flowValue? steps reading
      close key value reading
    | .value :: _ => do
      let (value, reading) ← flowValue? steps reading
      close .missing value reading
    | _ => do
      let (key, reading) ← node? false false steps reading
      close key .missing reading

/-- The value of a field in brackets. -/
def flowValue? : Nat → Reading → Option (Node × Reading)
  | 0, _ => none
  | steps + 1, reading =>
    match reading.tokens with
    | .value :: tokens =>
      match tokens with
      | .comma :: _ | .flowMappingEnd :: _ => some (.missing, reading.goOn tokens)
      | _ => node? false false steps (reading.goOn tokens)
    | _ => some (.missing, reading)

end

end Reading

/-! ### Documents -/

/-- The node with which tokens begin, where nothing follows it but the ends of the document. Of
three calls in a row at least one removes a token. -/
def Node.only? (tokens : List Token) : Option Node :=
  (Reading.node? true false (3 * tokens.length + 3) ⟨tokens, [], []⟩).bind fun (node, reading) =>
    if reading.tokens.all (· = .documentEnd) then some node else none

/-- The node of the only document of tokens. Without tokens it stands for nothing. -/
def Node.ofTokens? (tokens : List Token) : Option Node :=
  match tokens with
  | [] => some .missing
  | .directive :: _ | .documentStart :: _ =>
    match tokens.dropWhile (· = .directive) with
    | .documentStart :: tokens =>
      if tokens.all (· = .documentEnd) then some .missing else Node.only? tokens
    | _ => none
  | _ => Node.only? tokens

/-- The fields of the document of a text. A text ends where a character without code comes. -/
def parse? (text : String) : Option (List (String × SettingTree)) := do
  let tokens ← Token.scan? (text.toList.takeWhile (· ≠ '\x00'))
  let node ← Node.ofTokens? tokens
  return (← node.tree?).fields

end Wayfinder.Yaml

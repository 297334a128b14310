import AlarmServer.Yaml.Token

/-!
# Nodes and documents

A document is a tree of scalars, lists and mappings. A node that was named can be used again by its
name; in the tree such a use stays what it is, and is looked up only where it is needed, so that a
node may be used inside itself. How often that may be done is bounded by the size of the document,
so that a short text cannot stand for too much.

A name gets a number when it is given to a node: how many names were in use before. The number
stands for the node that got it last. So long as no name is given twice, each name has a number of
its own.

A node with a name or a tag and nothing else, and a missing key or value, is an empty plain scalar.
-/

namespace AlarmServer.Yaml

/-- A node. -/
inductive Node where
  /-- A scalar, with its tag if it has one. -/
  | scalar (tag : Option String) (s : Scalar)
  /-- A list. -/
  | list (items : List Node)
  /-- A mapping, with its members in order. -/
  | mapping (members : List (Node × Node))
  /-- The node with that number. -/
  | alias (number : Nat)

namespace Node

instance : Inhabited Node := ⟨list []⟩

/-- Nothing. -/
def empty (tag : Option String) : Node := scalar tag ⟨.plain, ""⟩

mutual

/-- The size of a node with all that is in it: one for a scalar or a used name, two for the start
and the end of a collection. -/
def size : Node → Nat
  | .scalar _ _ => 1
  | .alias _ => 1
  | .list items => sizeOfItems items + 2
  | .mapping members => sizeOfMembers members + 2

/-- The size of the items of a list. -/
def sizeOfItems : List Node → Nat
  | [] => 0
  | n :: ns => n.size + sizeOfItems ns

/-- The size of the members of a mapping. -/
def sizeOfMembers : List (Node × Node) → Nat
  | [] => 0
  | (key, value) :: ms => key.size + value.size + sizeOfMembers ms

end

end Node

/-- The named nodes of a document. -/
structure Anchors where
  /-- The names in use, with their numbers. -/
  numbers : List (String × Nat)
  /-- For each number, which of the named nodes got it last. -/
  owners : List (Nat × Nat)
  /-- How many nodes have been named. -/
  named : Nat
  /-- The named nodes that are complete. -/
  nodes : List (Nat × Node)

namespace Anchors

/-- No node is named. -/
def empty : Anchors := ⟨[], [], 0, []⟩

/-- Name the next node. -/
def name (n : String) (a : Anchors) : Anchors :=
  let number := a.numbers.length
  { a with
    numbers := (n, number) :: a.numbers.filter fun e => e.1 ≠ n
    owners := (number, a.named) :: a.owners
    named := a.named + 1 }

/-- The node that was the `i`-th to be named is complete. -/
def complete (i : Nat) (node : Node) (a : Anchors) : Anchors :=
  { a with nodes := (i, node) :: a.nodes }

/-- The node with that number. -/
def node? (number : Nat) (a : Anchors) : Option Node := do a.nodes.lookup (← a.owners.lookup number)

end Anchors

/-- A document. -/
structure Document where
  /-- Its tree. -/
  root : Node
  /-- Its named nodes. -/
  anchors : Anchors

/-- What is left of the tokens, and what is known of the document so far. -/
structure Progress where
  /-- The tokens that are left. -/
  tokens : List Token
  /-- The named nodes. -/
  anchors : Anchors
  /-- What the handles of tags stand for. -/
  handles : List (String × String)

/-- A reader of tokens. -/
abbrev Reading (α : Type) : Type := StateT Progress Option α

namespace Reading

/-- The next token, if there is one. -/
def peek : Reading (Option Token) := return (← get).tokens.head?

/-- Pass over the next token. -/
def pass : Reading Unit := modify fun p => { p with tokens := p.tokens.drop 1 }

/-- Is the next token there and one of those? -/
def nextIs (ts : List Token) : Reading Bool := return (← peek).any (· ∈ ts)

/-- The tag that is meant. -/
def tagOf (t : TagName) : Reading String := do
  if t.handle = "" then return t.suffix
  match (← get).handles.lookup t.handle with
  | some start => return start ++ t.suffix
  | none => failure

/-- A name and a tag, in either order, as far as they are there. -/
def properties : Reading (Option String × Option String) := do
  match ← peek with
  | some (.anchor name) =>
    pass
    match ← peek with
    | some (.tag t) =>
      pass
      return (some name, some (← tagOf t))
    | _ => return (some name, none)
  | some (.tag t) =>
    pass
    match ← peek with
    | some (.anchor name) =>
      pass
      return (some name, some (← tagOf t))
    | _ => return (none, some (← tagOf t))
  | _ => return (none, none)

mutual

/-- A node, in block layout or not, where a list in block layout may be indented no more than what
is around it. -/
def node (block flush : Bool) : (fuel : Nat) → Reading Node
  | 0 => failure
  | fuel + 1 => do
    match ← peek with
    | some (.alias name) =>
      pass
      match (← get).anchors.numbers.lookup name with
      | some number => return .alias number
      | none => failure
    | _ =>
      let (name, tag) ← properties
      let i := (← get).anchors.named
      if let some name := name then modify fun p => { p with anchors := p.anchors.name name }
      let n ← match ← peek, block with
        | some (.scalar s), _ => do
          pass
          pure (Node.scalar tag s)
        | some .flowListStart, _ => do
          pass
          .list <$> flowItems true fuel
        | some .flowMappingStart, _ => do
          pass
          .mapping <$> flowMembers true fuel
        | some .blockListStart, true => do
          pass
          .list <$> blockItems fuel
        | some .blockMappingStart, true => do
          pass
          .mapping <$> blockMembers fuel
        | some .blockEntry, _ =>
          if flush then .list <$> flushItems fuel
          else if name.isSome || tag.isSome then pure (Node.empty tag)
          else failure
        | _, _ => if name.isSome || tag.isSome then pure (Node.empty tag) else failure
      if name.isSome then modify fun p => { p with anchors := p.anchors.complete i n }
      return n

/-- The items of a block list up to its end. -/
def blockItems : (fuel : Nat) → Reading (List Node)
  | 0 => failure
  | fuel + 1 => do
    match ← peek with
    | some .blockEntry =>
      pass
      let item ← if ← nextIs [.blockEntry, .blockEnd] then pure (Node.empty none)
        else node true false fuel
      return item :: (← blockItems fuel)
    | some .blockEnd =>
      pass
      return []
    | _ => failure

/-- The items of a block list that is indented no more than what is around it. -/
def flushItems : (fuel : Nat) → Reading (List Node)
  | 0 => failure
  | fuel + 1 => do
    match ← peek with
    | some .blockEntry =>
      pass
      let item ← if ← nextIs [.blockEntry, .key, .value, .blockEnd] then pure (Node.empty none)
        else node true false fuel
      return item :: (← flushItems fuel)
    | _ => return []

/-- A key or a value in a block mapping. -/
def blockPart : (fuel : Nat) → Reading Node
  | 0 => failure
  | fuel + 1 => do
    if ← nextIs [.key, .value, .blockEnd] then return .empty none
    node true true fuel

/-- The members of a block mapping up to its end. -/
def blockMembers : (fuel : Nat) → Reading (List (Node × Node))
  | 0 => failure
  | fuel + 1 => do
    match ← peek with
    | some .blockEnd =>
      pass
      return []
    | some .key =>
      pass
      let key ← blockPart fuel
      let value ← if ← nextIs [.value] then do
          pass
          blockPart fuel
        else pure (Node.empty none)
      return (key, value) :: (← blockMembers fuel)
    | _ => failure

/-- A value in a flow collection, which ends with `ending`. -/
def flowValue (ending : Token) : (fuel : Nat) → Reading Node
  | 0 => failure
  | fuel + 1 => do
    if ← nextIs [.value] then
      pass
      if !(← nextIs [.flowEntry, ending]) then return ← node false false fuel
    return .empty none

/-- The items of a flow list up to its end; a comma stands before all but the first. An item may be
a mapping of one key. If that key is missing, the token in its place is passed over. -/
def flowItems (first : Bool) : (fuel : Nat) → Reading (List Node)
  | 0 => failure
  | fuel + 1 => do
    if ← nextIs [.flowListEnd] then
      pass
      return []
    if !first then
      if ← nextIs [.flowEntry] then pass else failure
    match ← peek with
    | some .flowListEnd =>
      pass
      return []
    | some .key =>
      pass
      let key ← if ← nextIs [.value, .flowEntry, .flowListEnd] then do
          pass
          pure (Node.empty none)
        else node false false fuel
      let value ← flowValue .flowListEnd fuel
      return .mapping [(key, value)] :: (← flowItems false fuel)
    | _ =>
      let item ← node false false fuel
      return item :: (← flowItems false fuel)

/-- The members of a flow mapping up to its end; a comma stands before all but the first. -/
def flowMembers (first : Bool) : (fuel : Nat) → Reading (List (Node × Node))
  | 0 => failure
  | fuel + 1 => do
    if ← nextIs [.flowMappingEnd] then
      pass
      return []
    if !first then
      if ← nextIs [.flowEntry] then pass else failure
    match ← peek with
    | some .flowMappingEnd =>
      pass
      return []
    | some .key =>
      pass
      let key ← if ← nextIs [.value, .flowEntry, .flowMappingEnd] then pure (Node.empty none)
        else node false false fuel
      let value ← flowValue .flowMappingEnd fuel
      return (key, value) :: (← flowMembers false fuel)
    | _ =>
      let key ← node false false fuel
      return (key, .empty none) :: (← flowMembers false fuel)

end

/-- The handles that need no directive. -/
def standardHandles : List (String × String) := [("!", "!"), ("!!", "tag:yaml.org,2002:")]

/-- The directives at the start of a document, with what they make of handles: at most one version,
which has to be known, and no handle twice. Any token but the start of the document is refused after
one. -/
def directives :
    (fuel : Nat) → (versionGiven : Bool) → (handles : List (String × String)) → Reading Unit
  | 0, _, _ => failure
  | fuel + 1, versionGiven, handles => do
    match ← peek with
    | some (.directive (.version major minor)) =>
      if versionGiven || major ≠ 1 || !(minor ∈ [1, 2]) then failure
      pass
      directives fuel true handles
    | some (.directive (.tag handle meaning)) =>
      if (handles.lookup handle).isSome then failure
      pass
      directives fuel versionGiven ((handle, meaning) :: handles)
    | some .documentStart =>
      pass
      modify fun p => { p with handles := handles ++ standardHandles }
    | _ => failure

/-- Does a document start here explicitly? -/
def startsDocument : Token → Bool
  | .directive _ => true
  | .documentStart => true
  | _ => false

/-- The only document of a stream of tokens. -/
def document (fuel : Nat) : Reading Node := do
  let root ← match ← peek with
    | none => pure (Node.empty none)
    | some t => do
      if startsDocument t then
        directives fuel false []
        match ← peek with
        | none => pure (Node.empty none)
        | some t =>
          if startsDocument t || t = .documentEnd then pure (Node.empty none)
          else node true false fuel
      else node true false fuel
  if (← get).tokens.all (· = .documentEnd) then return root else failure

end Reading

namespace Document

/-- The only document that tokens stand for. -/
def ofTokens? (ts : List Token) : Option Document := do
  let (root, p) ← (Reading.document (2 * ts.length + 2)).run ⟨ts, .empty, Reading.standardHandles⟩
  return ⟨root, p.anchors⟩

/-- The only document of a text; an empty text has an empty document. -/
def ofText? (s : String) : Option Document := do ofTokens? (← tokens? s)

/-- How often a named node may be looked up while a document is read. -/
def lookups (d : Document) : Nat := 100 * d.root.size

/-- The node itself, or the one that it stands for. The state is how many more may be looked up. -/
def resolve (d : Document) : Node → StateT Nat Option Node
  | .alias number => do
    let left ← get
    if left = 0 then failure
    set (left - 1)
    d.anchors.node? number
  | n => return n

end Document

end AlarmServer.Yaml

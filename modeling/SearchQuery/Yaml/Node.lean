import SearchQuery.Yaml.Token.Lexer
/-!
# YAML nodes

The tree that a YAML text stands for. An alias stays in its place, with the number of the node that
it mentions; a node that is left empty is an empty plain scalar.
-/

namespace SearchQuery

namespace Yaml

/-- A node of a document, with its tag in full. The tag `!` alone only says that a scalar has no tag
of its own, unless nothing else is written. -/
inductive Node where
  | scalar (tag : Option String) (style : ScalarStyle) (text : String)
  | sequence (tag : Option String) (items : List Node)
  | mapping (tag : Option String) (entries : List (Node × Node))
  /-- A mention of the node that has the number. -/
  | alias (number : Nat)

def Node.empty : Node := .scalar none .plain ""

def coreTagFront : String := "tag:yaml.org,2002:"

/-- A node that has a number. -/
structure Anchored where
  number : Nat
  /-- How many nodes got a number before it. -/
  place : Nat
  node : Node

/-- A document. -/
structure Document where
  root : Node
  anchored : List Anchored
  /-- How many scalars, aliases, and starts and ends of collections are written. -/
  events : Nat

/-- The node that a number stands for: the last one that got it. -/
def Document.node? (document : Document) (number : Nat) : Option Node :=
  let latest := (document.anchored.filter (·.number = number)).foldl (fun latest anchored =>
    if latest.all fun (before : Anchored) => before.place < anchored.place then some anchored
    else latest) none
  latest.map (·.node)

/-- The state while nodes are read. -/
structure Reader where
  tokens : List Token
  /-- The fronts that the handles of tags stand for. -/
  handles : List (String × String) := []
  /-- The number that each anchor stands for. -/
  anchors : List (String × Nat) := []
  /-- How many nodes got a number. -/
  places : Nat := 0
  anchored : List Anchored := []
  events : Nat := 0

namespace Reader

/-- The reader behind its first token. -/
def next (reader : Reader) : Reader := { reader with tokens := reader.tokens.drop 1 }

def head? (reader : Reader) : Option Token := reader.tokens.head?

def counted (reader : Reader) : Reader := { reader with events := reader.events + 1 }

def countedTwice (reader : Reader) : Reader := reader.counted.counted

def handleFront? (reader : Reader) (handle : String) : Option String :=
  match reader.handles.find? (·.1 == handle) with
  | some (_, front) => some front
  | none => if handle = "!" then some "!" else if handle = "!!" then some coreTagFront else none

def fullTag? (reader : Reader) (handle suffix : String) : Option String :=
  if handle.isEmpty then some suffix else (reader.handleFront? handle).map (· ++ suffix)

def properties (reader : Reader) : Option (Option String × Option String × Reader) :=
  match reader.tokens with
  | .anchor name :: .tag handle suffix :: rest => do
    return (some name, some (← reader.fullTag? handle suffix), { reader with tokens := rest })
  | .tag handle suffix :: .anchor name :: rest => do
    return (some name, some (← reader.fullTag? handle suffix), { reader with tokens := rest })
  | .anchor name :: rest => some (some name, none, { reader with tokens := rest })
  | .tag handle suffix :: rest => do
    return (none, some (← reader.fullTag? handle suffix), { reader with tokens := rest })
  | _ => some (none, none, reader)

/-- Gives the node that is about to be read its number: that of how many different anchors there
were before, also where its anchor is one of them. -/
def announce (reader : Reader) (anchor : Option String) : Reader :=
  match anchor with
  | some name =>
    { reader with
      anchors := (name, reader.anchors.length) :: reader.anchors.filter (·.1 != name)
      places := reader.places + 1 }
  | none => reader

/-- Keeps a node that has been read, if it has an anchor; `before` is the reader in front of it. -/
def keep (reader : Reader) (anchor : Option String) (before : Reader) (node : Node) : Reader :=
  if anchor.isSome then
    let anchored : Anchored := { number := before.anchors.length, place := before.places, node }
    { reader with anchored := anchored :: reader.anchored }
  else reader

def number? (reader : Reader) (name : String) : Option Nat :=
  (reader.anchors.find? (·.1 == name)).map (·.2)

/-- Whether a value is left out in front of this token of a block mapping. -/
def endsBlockValue : Option Token → Bool
  | some .key | some .value | some .blockEnd => true
  | _ => false

/-- Whether an item is left out in front of this token of a block sequence without indentation. -/
def endsBareItem : Option Token → Bool
  | some .blockEntry | some .key | some .value | some .blockEnd => true
  | _ => false

/-- Whether a key or value is left out in front of this token inside brackets that end with
`close`. -/
def endsFlowNode (close : Token) (token : Option Token) : Bool :=
  token = some .flowEntry || token = some close

mutual

/-- Reads a node. `block` tells whether it may be a block, `bare` whether the items of a sequence
may stand without indentation of their own. -/
def node (block bare : Bool) : Nat → Reader → Option (Node × Reader)
  | 0, _ => none
  | fuel + 1, reader =>
    match reader.head? with
    | some (.alias name) => do return (.alias (← reader.number? name), reader.next.counted)
    | _ => do
      let (anchor, tag, before) ← reader.properties
      let reader := before.announce anchor
      let (node, reader) ← match reader.head? with
        | some (.scalar style text) =>
          some (.scalar (tag.filter (· != "!")) style text, reader.next.counted)
        | some .flowSequenceStart => do
          let (items, reader) ← flowItems true fuel reader.next.countedTwice
          pure (.sequence tag items, reader)
        | some .flowMappingStart => do
          let (entries, reader) ← flowEntries true fuel reader.next.countedTwice
          pure (.mapping tag entries, reader)
        | some .blockSequenceStart => do
          if !block then none
          let (items, reader) ← blockItems fuel reader.next.countedTwice
          pure (.sequence tag items, reader)
        | some .blockMappingStart => do
          if !block then none
          let (entries, reader) ← blockEntries fuel reader.next.countedTwice
          pure (.mapping tag entries, reader)
        | other =>
          if bare ∧ other = some .blockEntry then do
            let (items, reader) ← bareItems fuel reader.countedTwice
            pure (.sequence tag items, reader)
          else if anchor.isSome ∨ tag.isSome then some (.scalar tag .plain "", reader.counted)
          else none
      return (node, reader.keep anchor before node)

def blockItems : Nat → Reader → Option (List Node × Reader)
  | 0, _ => none
  | fuel + 1, reader =>
    match reader.head? with
    | some .blockEntry => do
      let reader := reader.next
      let (item, reader) ←
        if reader.head? = some .blockEntry ∨ reader.head? = some .blockEnd then
          some (Node.empty, reader.counted)
        else node true false fuel reader
      let (items, reader) ← blockItems fuel reader
      return (item :: items, reader)
    | some .blockEnd => some ([], reader.next)
    | _ => none

/-- Reads the items of a sequence without indentation of its own. -/
def bareItems : Nat → Reader → Option (List Node × Reader)
  | 0, _ => none
  | fuel + 1, reader =>
    match reader.head? with
    | some .blockEntry => do
      let reader := reader.next
      let (item, reader) ←
        if endsBareItem reader.head? then some (Node.empty, reader.counted)
        else node true false fuel reader
      let (items, reader) ← bareItems fuel reader
      return (item :: items, reader)
    | _ => some ([], reader)

def blockEntries : Nat → Reader → Option (List (Node × Node) × Reader)
  | 0, _ => none
  | fuel + 1, reader => do
    match reader.head? with
    | some .blockEnd => return ([], reader.next)
    | some .key =>
      let reader := reader.next
      let (key, reader) ←
        if endsBlockValue reader.head? then some (Node.empty, reader.counted)
        else node true true fuel reader
      let (value, reader) ← blockValue fuel reader
      let (entries, reader) ← blockEntries fuel reader
      return ((key, value) :: entries, reader)
    | _ => none

def blockValue : Nat → Reader → Option (Node × Reader)
  | 0, _ => none
  | fuel + 1, reader =>
    match reader.head? with
    | some .value =>
      let reader := reader.next
      if endsBlockValue reader.head? then some (Node.empty, reader.counted)
      else node true true fuel reader
    | _ => some (Node.empty, reader.counted)

def flowItems (first : Bool) : Nat → Reader → Option (List Node × Reader)
  | 0, _ => none
  | fuel + 1, reader => do
    if reader.head? = some .flowSequenceEnd then return ([], reader.next)
    let reader ←
      if first then some reader
      else if reader.head? = some .flowEntry then some reader.next
      else none
    match reader.head? with
    | some .flowSequenceEnd => return ([], reader.next)
    | some .key =>
      let (key, reader) ← itemKey fuel reader.next.countedTwice
      let (value, reader) ← flowValue .flowSequenceEnd fuel reader
      let (items, reader) ← flowItems false fuel reader
      return (.mapping none [(key, value)] :: items, reader)
    | _ =>
      let (item, reader) ← node false false fuel reader
      let (items, reader) ← flowItems false fuel reader
      return (item :: items, reader)

/-- Reads the key behind a question mark in front of an item. Where no key is written, the token
that stands in its place does not count. -/
def itemKey : Nat → Reader → Option (Node × Reader)
  | 0, _ => none
  | fuel + 1, reader =>
    if reader.head? = some .value ∨ endsFlowNode .flowSequenceEnd reader.head? then
      some (Node.empty, reader.next.counted)
    else node false false fuel reader

def flowEntries (first : Bool) : Nat → Reader → Option (List (Node × Node) × Reader)
  | 0, _ => none
  | fuel + 1, reader => do
    if reader.head? = some .flowMappingEnd then return ([], reader.next)
    let reader ←
      if first then some reader
      else if reader.head? = some .flowEntry then some reader.next
      else none
    match reader.head? with
    | some .flowMappingEnd => return ([], reader.next)
    | some .key =>
      let reader := reader.next
      let (key, reader) ←
        if reader.head? = some .value ∨ endsFlowNode .flowMappingEnd reader.head? then
          some (Node.empty, reader.counted)
        else node false false fuel reader
      let (value, reader) ← flowValue .flowMappingEnd fuel reader
      let (entries, reader) ← flowEntries false fuel reader
      return ((key, value) :: entries, reader)
    | _ =>
      let (key, reader) ← node false false fuel reader
      let (entries, reader) ← flowEntries false fuel reader.counted
      return ((key, Node.empty) :: entries, reader)

/-- Reads the value behind a key between brackets that end with `close`. -/
def flowValue (close : Token) : Nat → Reader → Option (Node × Reader)
  | 0, _ => none
  | fuel + 1, reader =>
    match reader.head? with
    | some .value =>
      let reader := reader.next
      if endsFlowNode close reader.head? then some (Node.empty, reader.counted)
      else node false false fuel reader
    | _ => some (Node.empty, reader.counted)

end

/-- Reads the directives in front of a document. At most one tells the version, which must be 1.1 or
1.2, and none explains a handle again. -/
def directives (versioned : Bool) (reader : Reader) : List Token → Option Reader
  | .version major minor :: rest =>
    if versioned ∨ major ≠ 1 ∨ (minor ≠ 1 ∧ minor ≠ 2) then none
    else directives true reader rest
  | .tagFront handle front :: rest =>
    if reader.handles.any (·.1 == handle) then none
    else directives versioned { reader with handles := (handle, front) :: reader.handles } rest
  | tokens => some { reader with tokens }

def isDirective : Option Token → Bool
  | some (.version ..) | some (.tagFront ..) => true
  | _ => false

/-- Whether nothing stands between the start of a document and this token. -/
def endsDocument (token : Option Token) : Bool :=
  token.isNone || isDirective token || token = some .documentStart || token = some .documentEnd

/-- Reads the only document; nothing for a text without any. With directives its start must be
marked. -/
def document (reader : Reader) : Option (Option Document) := do
  if reader.tokens.isEmpty then return none
  let directed := isDirective reader.head?
  let reader ← directives false reader reader.tokens
  let fuel := 4 * reader.tokens.length + 4
  let (root, reader) ←
    if reader.head? = some .documentStart then
      if endsDocument reader.next.head? then some (Node.empty, reader.next.counted)
      else node true false fuel reader.next
    else if directed then none
    else node true false fuel reader
  if !reader.tokens.all (· = .documentEnd) then none
  return some { root, anchored := reader.anchored, events := reader.events }

end Reader

/-- Reads a text of at most one document: whether it is well-formed, and the document if there is
one. -/
def parse (text : List Char) : Option (Option Document) := do
  Reader.document { tokens := ← tokens text }

end Yaml

end SearchQuery

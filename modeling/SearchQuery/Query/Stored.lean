import SearchQuery.Query.Decode
import SearchQuery.Yaml.Node
import SearchQuery.Yaml.Printer
/-!
# Stored queries

Queries as YAML text. What a scalar is read as depends on where it stands: a text field takes it as
it is written, while inside conditions and free values plain scalars stand for null, truth values
and numbers. `Form` says what stands where; a document is first made data by its form, from which
the query is then read.
-/

namespace SearchQuery

/-- What may stand in a place of a stored query. -/
inductive Form where
  /-- Any scalar, as it is written. -/
  | text
  /-- One of a few words, as it is written or as a tag with nothing behind it. -/
  | word
  /-- A whole number that is not negative. -/
  | count
  /-- A number. -/
  | number
  /-- A truth value. -/
  | truth
  /-- Any value, whose keys are taken as they are written. -/
  | free
  /-- Any value, with keys of any kind. -/
  | content
  /-- Content in a map with a type, or in a list behind its type; the type is taken as it is
  written. -/
  | tagged
  /-- Null, or another form. -/
  | optional (form : Form)
  /-- A list. -/
  | list (form : Form)
  /-- Named members; other members are passed over. -/
  | record (members : List (String × Form))
  /-- Named members; other members are content. -/
  | openRecord (members : List (String × Form))
  /-- An aggregation, which may hold others. -/
  | aggregation

namespace Form

def clauseOptions : Form :=
  .record [("boost", .optional .number), ("inner_hits", .optional .free)]

def clause : Form := .openRecord [("boolean", .word), ("options", clauseOptions)]

def sortKey : Form := .record [("column", .text), ("direction", .word), ("kind", .tagged)]

def requestOptions : Form :=
  .record [("routing", .optional .text), ("parent_id", .optional .text),
    ("conflicts", .optional .word), ("refresh", .optional .word), ("include_inner_hits", .truth)]

/-- A query. -/
def query : Form :=
  .record [("collection", .text), ("wheres", .list clause), ("filters", .list clause),
    ("post_filters", .list clause), ("aggregations", .list .aggregation),
    ("orders", .list sortKey), ("columns", .optional (.list .text)),
    ("limit", .optional .count), ("offset", .optional .count), ("options", requestOptions)]

def strip : Form → Form
  | .optional form => form.strip
  | form => form

/-- The forms of the first item and of the others, if a list may stand here. -/
def items? : Form → Option (Form × Form)
  | .list form => some (form, form)
  | .free => some (.free, .free)
  | .content => some (.content, .content)
  | .tagged => some (.text, .content)
  | _ => none

/-- The form of keys, if a map may stand here. -/
def key? : Form → Option Form
  | .free | .record _ | .openRecord _ | .aggregation => some .text
  | .content | .tagged => some .content
  | _ => none

/-- The form of the member with a name, or else `others`. -/
def named (members : List (String × Form)) (others : Option Form) (key : Datum) : Option Form :=
  match members.find? fun member => key.isName member.1 with
  | some (_, form) => some form
  | none => others

/-- The form of the value under a key; nothing for a value that is passed over. -/
def member? (key : Datum) : Form → Option Form
  | .free => some .free
  | .content => some .content
  | .tagged => named [("type", .text)] (some .content) key
  | .record members => named members none key
  | .openRecord members => named members (some .content) key
  | .aggregation => named [("key", .text), ("children", .list .aggregation)] (some .content) key
  | _ => none

end Form

namespace Yaml

def localTagName? (tag : Option String) : Option String :=
  match tag.map String.toList with
  | some ('!' :: name) => some (String.ofList name)
  | _ => none

def coreTag (name : String) : String := coreTagFront ++ name

/-- The value that a text resolves to; nothing for a number that is too large. -/
def resolvedValue? (text : String) : Option Datum :=
  match resolve text with
  | .null => some .null
  | .bool value => some (.bool value)
  | .count value => some (.count value)
  | .signed value => some (.signed value)
  | .tooLarge => none
  | .float value => some (.float value)
  | .text => some (.str text)

def scalarValue? (tag : Option String) (style : ScalarStyle) (text : String) : Option Datum :=
  match tag with
  | none => if style = .plain then resolvedValue? text else some (.str text)
  | some tag =>
    if tag = coreTag "bool" then (boolWord? text).map .bool
    else if tag = coreTag "int" then
      match resolve text with
      | .count value => some (.count value)
      | .signed value => some (.signed value)
      | _ => none
    else if tag = coreTag "float" then (float? text).map .float
    else if tag = coreTag "null" then if isNullWord text then some .null else none
    else if (localTagName? (some tag)).isSome then none
    else some (.str text)

def isNullText (text : String) : Bool := text.isEmpty || isNullWord text

/-- The word of a scalar: its text, or the name in a tag of its own in front of nothing. -/
def wordOf (tag : Option String) (style : ScalarStyle) (text : String) : Option Datum :=
  match localTagName? tag with
  | some name => if style = .plain ∧ isNullText text then some (.str name) else none
  | none => some (.str text)

/-- Whether a scalar stands for nothing where a value is optional. -/
def isAbsent? (tag : Option String) (style : ScalarStyle) (text : String) : Option Bool :=
  if style ≠ .plain then some false
  else match tag with
    | none => some (isNullText text)
    | some tag =>
      if tag = coreTag "null" then if isNullWord text then some true else none
      else some false

/-- Whether a scalar may be read as the given kind of the core schema: it is plain, or a literal
block with just that tag. -/
def mayBe (kind : String) (tag : Option String) : ScalarStyle → Bool
  | .plain => true
  | .literal => tag = some (coreTag kind)
  | .other => false

/-- The value of a scalar by its form. -/
def scalarOf (tag : Option String) (style : ScalarStyle) (text : String) : Form → Option Datum
  | .text => some (.str text)
  | .word => wordOf tag style text
  | .count =>
    if mayBe "int" tag style then
      ((count? text.toList).filter (· < 2 ^ 64)).map .count
    else none
  | .number => if mayBe "float" tag style then (float? text).map .float else none
  | .truth => if mayBe "bool" tag style then (boolWord? text).map .bool else none
  | .free | .content => scalarValue? tag style text
  | .tagged => none
  | .optional form => do
    if ← isAbsent? tag style text then return .null
    scalarOf tag style text form
  | .list _ => if style = .plain ∧ text.isEmpty then some (.list []) else none
  | .record _ | .openRecord _ | .aggregation =>
    if style = .plain ∧ text.isEmpty then some (.map []) else none

/-- Whether a collection may have this tag in a place of the form. -/
def allowsTag (tag : Option String) : Form → Bool
  | .free | .content | .tagged => (localTagName? tag).isNone
  | _ => true

/-- A walk through a document, which counts how many aliases may still be followed. -/
abbrev Walk := StateT Nat Option

/-- The node itself, or the node that an alias mentions. -/
def Document.follow (document : Document) : Node → Walk Node
  | .alias number => do
    let left ← get
    if left = 0 then failure
    set (left - 1)
    document.node? number
  | node => pure node

/-- The value of a node by its form. Collections may be nested in so many others. -/
def Document.valueOf (document : Document) : Nat → Form → Node → Walk Datum
  | 0, form, node => do
    match ← document.follow node with
    | .scalar tag style text => scalarOf tag style text form
    | _ => failure
  | depth + 1, form, node => do
    match ← document.follow node with
    | .scalar tag style text => scalarOf tag style text form
    | .sequence tag items => do
      if !allowsTag tag form.strip then failure
      let (first, others) ← form.strip.items?
      match items with
      | [] => return .list []
      | item :: rest =>
        let item ← document.valueOf depth first item
        return .list (item :: (← rest.mapM (document.valueOf depth others)))
    | .mapping tag entries => do
      if !allowsTag tag form.strip then failure
      let keyForm ← form.strip.key?
      let members ← entries.mapM fun (key, value) => do
        let key ← document.valueOf depth keyForm key
        match form.strip.member? key with
        | some inner => return some (key, ← document.valueOf depth inner value)
        | none => return none
      return .map (members.filterMap id)
    | .alias _ => failure

/-- How deep collections may be nested. -/
def depthLimit : Nat := 128

/-- How many aliases may be followed for each event of a document. -/
def aliasesPerEvent : Nat := 100

def Document.value? (document : Document) (form : Form) : Option Datum :=
  ((document.valueOf depthLimit form document.root).run
    (aliasesPerEvent * document.events)).map (·.1)

/-- The value of a text by its form; nothing for a text without content. -/
def readText (form : Form) (text : List Char) : Reading (Option Datum) :=
  match parse text with
  | none => .error "invalid YAML"
  | some none => .ok none
  | some (some document) =>
    match document.value? form with
    | none => .error "unexpected value"
    | some value => .ok (some value)

/-- What writes an object as text, and reads a value from text by its form. -/
structure Codec where
  print : Object → String
  /-- The value of a text, nothing for a text without content, or why it cannot be read. -/
  read : Form → String → Reading (Option Datum)

def codec : Codec where
  print object := String.ofList (documentText object)
  read form text := readText form text.toList

end Yaml

namespace Query

/-- The text of a stored query. -/
def print (codec : Yaml.Codec) (query : Query) : String :=
  codec.print (query.toJson.obj?.getD [])

/-- Reads a query from what was found in a text; without content it is the empty query. -/
def ofFound : Option Datum → Reading Query
  | some value => Query.read false value
  | none => .ok {}

/-- Reads a stored query. -/
def parse (codec : Yaml.Codec) (text : String) : Reading Query := do
  ofFound (← codec.read Form.query text)

/-- Reads a query that is stored as YAML. -/
def ofYaml (text : String) : Except Error Query := (parse Yaml.codec text).mapError .yaml

/-- The text of a query that is stored as YAML. -/
def toYaml (query : Query) : String := query.print Yaml.codec

end Query

end SearchQuery

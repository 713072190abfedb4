import SearchQuery.Json.Parser
import SearchQuery.Text.Blank
/-!
# Documents in lines

A text with one JSON object a line. Blank lines do not count; the first line that is no object is
an error, and the documents in front of it are still read.
-/

namespace SearchQuery

/-- The lines of a text. A line ends at a line feed, with a carriage return in front of it or not;
what follows the last line feed is a line only if it is not empty. -/
def textLines (text : List Char) : List (List Char) :=
  go [] text
where
  /-- The lines of a text whose first line begins with the given characters, the last in front. -/
  go (back : List Char) : List Char → List (List Char)
    | [] => if back.isEmpty then [] else [back.reverse]
    | c :: rest =>
      if c = '\n' then
        let line := match back with
          | '\r' :: front => front
          | line => line
        line.reverse :: go [] rest
      else go (c :: back) rest

/-- A document with the size of its line in bytes. -/
structure SizedDocument where
  document : Object
  size : Nat

/-- A line that is no JSON object: its number and its text. -/
structure BadLine where
  number : Nat
  line : String
deriving DecidableEq

def documentOfLine? (line : String) : Option Object :=
  ((Json.parse line).map Json.canonical).bind Json.obj?

/-- The documents in front of the first bad line, and that line; `number` is the number of the
first line. -/
def readDocuments (number : Nat) : List String → List SizedDocument × Option BadLine
  | [] => ([], none)
  | line :: rest =>
    if (trimmed line).isEmpty then readDocuments (number + 1) rest
    else match documentOfLine? line with
      | some document =>
        let (documents, bad) := readDocuments (number + 1) rest
        ({ document, size := line.utf8ByteSize } :: documents, bad)
      | none => ([], some { number, line })

/-- A list in pieces of the given size, of which only the last may be smaller; none is empty. A
size of zero counts as one. -/
def batches {α : Type} (size : Nat) (list : List α) : List (List α) :=
  go [] list
where
  /-- The pieces of a list, the first of which begins with the items held back. -/
  go (held : List α) : List α → List (List α)
    | [] => if held.isEmpty then [] else [held]
    | item :: rest =>
      let held := held ++ [item]
      if max size 1 ≤ held.length then held :: go [] rest else go held rest

end SearchQuery

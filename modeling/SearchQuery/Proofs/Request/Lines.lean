import Mathlib
import SearchQuery.Http.Message
/-!
# Lines of bulk requests

The compact text of a JSON value has no line end in it, whatever its strings and names are. The text
of a bulk request therefore falls into exactly two lines an operation, and a server that reads line
by line gets back the operations that were sent, in their order.
-/

namespace SearchQuery

/-- Whether a text has no line end in it. -/
def OneLine (text : String) : Prop := '\n' ∉ text.toList

instance (text : String) : Decidable (OneLine text) :=
  inferInstanceAs (Decidable ('\n' ∉ text.toList))

theorem OneLine.append {front back : String} (hfront : OneLine front) (hback : OneLine back) :
    OneLine (front ++ back) := by
  rw [OneLine, String.toList_append, List.mem_append]
  exact not_or.mpr ⟨hfront, hback⟩

theorem oneLine_of_isNumeral {text : String} (h : DecimalLayout.IsNumeral text) :
    OneLine text := by
  intro hmem
  exact absurd (h '\n' hmem) (by decide)

/-! ### Compact text -/

namespace Json

/-- No character is written as a line end inside a string, not even a line end. -/
theorem newline_not_mem_escapeChar (c : Char) : '\n' ∉ escapeChar c := by
  -- The controls are few; of all other characters, two are escaped and the rest are kept.
  have hcontrols : ∀ n < 32, '\n' ∉ escapeChar (Char.ofNat n) := by decide
  by_cases hcontrol : c.toNat < 32
  · have hc := hcontrols c.toNat hcontrol
    rwa [Char.ofNat_toNat] at hc
  · have hother {d : Char} (hd : d.toNat < 32) : c ≠ d := fun h => hcontrol (h ▸ hd)
    by_cases hquote : c = '"'
    · subst hquote
      decide
    by_cases hslash : c = '\\'
    · subst hslash
      decide
    have hself : escapeChar c = [c] := by
      simp [escapeChar, hquote, hslash, hcontrol, hother]
    rw [hself, List.mem_singleton]
    exact (hother (by decide)).symm

theorem oneLine_quote (text : String) : OneLine (quote text) := by
  have hbody : OneLine (String.ofList (text.toList.flatMap escapeChar)) := by
    rw [OneLine, String.toList_ofList, List.mem_flatMap]
    rintro ⟨c, -, hc⟩
    exact newline_not_mem_escapeChar c hc
  exact ((by decide : OneLine "\"").append hbody).append (by decide)

theorem oneLine_numberText (x : Binary64) : OneLine (numberText x) := by
  unfold numberText
  split
  · next h => exact oneLine_of_isNumeral (DecimalLayout.isNumeral_text _ h)
  · decide

mutual

theorem oneLine_compact : (value : Json) → OneLine value.compact
  | .null => by
    rw [compact]
    decide
  | .bool value => by
    rw [compact]
    cases value <;> decide
  | .int value => by
    rw [compact]
    exact oneLine_of_isNumeral (DecimalLayout.isNumeral_toString value)
  | .float value => by
    rw [compact]
    exact oneLine_numberText value
  | .str value => by
    rw [compact]
    exact oneLine_quote value
  | .arr items => by
    rw [compact]
    exact ((by decide : OneLine "[").append (oneLine_compactItems items)).append (by decide)
  | .obj entries => by
    rw [compact]
    exact ((by decide : OneLine "\x7b").append (oneLine_compactEntries entries)).append (by decide)

theorem oneLine_compactItems : (items : List Json) → OneLine (compactItems items)
  | [] => by
    rw [compactItems]
    decide
  | [item] => by
    rw [compactItems]
    exact oneLine_compact item
  | item :: next :: rest => by
    rw [compactItems]
    · exact ((oneLine_compact item).append (by decide)).append (oneLine_compactItems (next :: rest))
    · simp

theorem oneLine_compactEntries :
    (entries : List (String × Json)) → OneLine (compactEntries entries)
  | [] => by
    rw [compactEntries]
    decide
  | [(name, value)] => by
    rw [compactEntries]
    exact ((oneLine_quote name).append (by decide)).append (oneLine_compact value)
  | (name, value) :: next :: rest => by
    rw [compactEntries]
    · exact ((((oneLine_quote name).append (by decide)).append (oneLine_compact value)).append
        (by decide)).append (oneLine_compactEntries (next :: rest))
    · simp

end

end Json

/-! ### Lines of a text -/

/-- The texts between the line ends of a text, with what is left behind the last of them. -/
def linesOf (text : String) : List String := (text.toList.splitOn '\n').map String.ofList

theorem linesOf_line {line : String} (h : OneLine line) (rest : String) :
    linesOf (line ++ "\n" ++ rest) = line :: linesOf rest := by
  have hline : ∀ c ∈ line.toList, (c == '\n') = false := by
    intro c hc
    exact beq_eq_false_iff_ne.mpr fun heq => h (heq ▸ hc)
  have hsplit := List.splitOnP_append_cons_of_forall_mem hline '\n' rfl rest.toList
  rw [linesOf, String.toList_append, String.toList_append, List.append_assoc]
  change (List.splitOnP (· == '\n') (line.toList ++ '\n' :: rest.toList)).map _ = _
  rw [hsplit, List.map_cons, String.ofList_toList]
  rfl

/-- The two lines of an operation: what to do, and the document. -/
def BulkOperation.lines (operation : BulkOperation) : List String :=
  [operation.action.compact, (Json.obj operation.source).compact]

theorem lines_cons (operation : BulkOperation) (rest : List BulkOperation) :
    BulkRequest.lines ⟨operation :: rest⟩ = operation.action.compact ++ "\n" ++
      ((Json.obj operation.source).compact ++ "\n" ++ BulkRequest.lines ⟨rest⟩) := by
  simp [BulkRequest.lines, String.append_assoc]

theorem lines_append (front back : List BulkOperation) :
    BulkRequest.lines ⟨front ++ back⟩ = BulkRequest.lines ⟨front⟩ ++ BulkRequest.lines ⟨back⟩ := by
  simp [BulkRequest.lines, String.join_append]

theorem linesOf_lines (operations : List BulkOperation) :
    linesOf (BulkRequest.lines ⟨operations⟩) = operations.flatMap BulkOperation.lines ++ [""] := by
  induction operations with
  | nil => rfl
  | cons operation rest ih =>
    rw [lines_cons, linesOf_line (Json.oneLine_compact _), linesOf_line (Json.oneLine_compact _),
      ih]
    rfl

/-- The lines of an operation stand at twice its position. -/
theorem getElem?_flatMap_lines (operations : List BulkOperation) (rest : List String) {i : Nat}
    {operation : BulkOperation} (h : operations[i]? = some operation) :
    (operations.flatMap BulkOperation.lines ++ rest)[2 * i]? = some operation.action.compact ∧
      (operations.flatMap BulkOperation.lines ++ rest)[2 * i + 1]? =
        some (Json.obj operation.source).compact := by
  induction operations generalizing i with
  | nil => cases h
  | cons first later ih =>
    cases i with
    | zero =>
      obtain rfl := Option.some.inj h
      exact ⟨rfl, rfl⟩
    | succ i => exact ih h

theorem length_flatMap_lines (operations : List BulkOperation) :
    (operations.flatMap BulkOperation.lines).length = 2 * operations.length := by
  induction operations with
  | nil => rfl
  | cons operation rest ih =>
    rw [List.flatMap_cons, List.length_append, ih, List.length_cons]
    change 2 + _ = _
    omega

/-! ### Reading line by line -/

/-- The operations in lines, read two by two. Nothing may follow the last line end. -/
def BulkOperation.ofLines? (read : String → Option Json) : List String → Option (List BulkOperation)
  | action :: source :: rest => do
    let action ← read action
    let source ← (← read source).obj?
    let others ← BulkOperation.ofLines? read rest
    return { action, source } :: others
  | [rest] => if rest.isEmpty then some [] else none
  | [] => none

/-- The bulk request that a server finds in a text, which reads each value from a line by `read`. -/
def BulkRequest.ofText? (read : String → Option Json) (text : String) : Option BulkRequest :=
  (BulkOperation.ofLines? read (linesOf text)).map BulkRequest.mk

/-- Whether what a server reads in the lines of an operation are its action and its document. -/
def BulkOperation.ReadBy (read : String → Option Json) (operation : BulkOperation) : Prop :=
  read operation.action.compact = some operation.action ∧
    read (Json.obj operation.source).compact = some (.obj operation.source)

theorem ofLines?_flatMap_lines {read : String → Option Json} {operations : List BulkOperation}
    (h : ∀ operation ∈ operations, operation.ReadBy read) :
    BulkOperation.ofLines? read (operations.flatMap BulkOperation.lines ++ [""]) =
      some operations := by
  induction operations with
  | nil => rfl
  | cons operation rest ih =>
    obtain ⟨⟨haction, hsource⟩, hrest⟩ := List.forall_mem_cons.mp h
    rw [List.flatMap_cons, List.append_assoc]
    change BulkOperation.ofLines? read (operation.action.compact ::
      (Json.obj operation.source).compact :: (rest.flatMap BulkOperation.lines ++ [""])) = _
    rw [BulkOperation.ofLines?, haction, hsource, ih hrest]
    rfl

/-- `request.FramedIn text`: the lines of a text hold the operations of a request and nothing
else. -/
structure BulkRequest.FramedIn (request : BulkRequest) (text : String) : Prop where
  count : (linesOf text).length = 2 * request.operations.length + 1
  /-- Each operation has two lines, at twice its position. -/
  operations (i : Nat) (operation : BulkOperation) : request.operations[i]? = some operation →
    (linesOf text)[2 * i]? = some operation.action.compact ∧
      (linesOf text)[2 * i + 1]? = some (Json.obj operation.source).compact
  /-- The text ends with a line end. -/
  remainder : (linesOf text).getLast? = some ""
  /-- A server that reads back every single value reads back the request. -/
  received (read : String → Option Json) :
    (∀ operation ∈ request.operations, operation.ReadBy read) →
      BulkRequest.ofText? read text = some request

/-- Whatever a bulk request holds, its text holds just its operations, in their order; the text of
two requests in one is that of the first, and then that of the second. It is what goes over HTTP. -/
theorem lines_frame_operations (request : BulkRequest) :
    request.FramedIn request.lines ∧
      (∀ other : BulkRequest, BulkRequest.lines ⟨request.operations ++ other.operations⟩ =
        request.lines ++ other.lines) ∧
      ∀ server : Http.Url,
        (Http.Message.ofRequest server (.bulk request)).body = .jsonLines request.lines := by
  obtain ⟨operations⟩ := request
  refine ⟨?_, fun other => lines_append operations other.operations, fun server => rfl⟩
  constructor
  · rw [linesOf_lines, List.length_append, length_flatMap_lines]
    rfl
  · intro i operation h
    rw [linesOf_lines]
    exact getElem?_flatMap_lines operations [""] h
  · rw [linesOf_lines, List.getLast?_concat]
  · intro read h
    rw [BulkRequest.ofText?, linesOf_lines, ofLines?_flatMap_lines h]
    rfl

/-- A write with line ends, quotes and controls in its id, in a name and in a text. -/
def awkwardRequest : BulkRequest where
  operations := [{
    action := .single "index" (.obj [("_id", .str "1\n2"), ("_index", .str "posts")])
    source := [("line\r\nend", .str "\"\\\x00\u2028")] }]

theorem lines_frame_operations_awkwardRequest :
    (∀ operation ∈ awkwardRequest.operations, operation.ReadBy Json.parse) ∧
      BulkRequest.ofText? Json.parse awkwardRequest.lines = some awkwardRequest := by
  have hread : ∀ operation ∈ awkwardRequest.operations, operation.ReadBy Json.parse := by
    rintro operation (_ | ⟨_, ⟨⟩⟩)
    exact ⟨by cbv, by cbv⟩
  exact ⟨hread, (lines_frame_operations awkwardRequest).1.received Json.parse hread⟩

end SearchQuery

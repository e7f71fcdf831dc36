/-
Reading a query by offsets.

The reader of queries has the unread text in its hand and never cuts a text at an offset. A reader
that keeps an offset instead, and cuts the text there whenever it looks at it, does the same work
but can also break down: where the offset is inside a character there is no text to look at. This is
such a reader. It is laid down function by function beside the reader of queries, with every cut
spelled out and a breakdown as an outcome of its own; that it never breaks down, and reads what the
reader of queries reads, is shown in the next module.
-/
import FilterQuery.Proofs.Text.Bytes
import FilterQuery.Compile

set_option autoImplicit false

namespace FilterQuery.Cursor

open Text (dropBytes? takeBytes?)

/-- Why reading by offsets stops. -/
inductive Stop where
  /-- A text was to be cut inside a character, or behind its end. -/
  | breakdown
  | fault (e : ParseError)

/-- A fault at an offset. -/
def failAt {α : Type} (cause : SyntaxCause) (pos : Nat) : Except Stop α :=
  .error (.fault ⟨cause, pos⟩)

/-! ## Cuts -/

/-- What follows an offset. -/
def after (s : List Char) (pos : Nat) : Except Stop (List Char) :=
  match dropBytes? s pos with
  | some rest => .ok rest
  | none => .error .breakdown

/-- What comes before an offset. -/
def before (s : List Char) (pos : Nat) : Except Stop (List Char) :=
  match takeBytes? s pos with
  | some start => .ok start
  | none => .error .breakdown

/-- What is between two offsets. -/
def between (text : List Char) (start stop : Nat) : Except Stop (List Char) :=
  if start ≤ stop then (after text start).bind fun rest => before rest (stop - start)
  else .error .breakdown

/-! ## Tokens -/

variable (text : List Char)

theorem add_le_byteLength {c : Char} {rest : List Char} {pos : Nat}
    (h : dropBytes? text pos = some (c :: rest)) : pos + c.utf8Size ≤ byteLength text := by
  obtain ⟨start, rfl, rfl⟩ := Text.exists_of_dropBytes? h
  rw [byteLength_append, byteLength_cons]
  omega

/-- Passes characters as long as they have the property `p`, one by one. -/
def skipWhile (p : Char → Bool) (pos : Nat) : Except Stop Nat :=
  match _h : dropBytes? text pos with
  | none => .error .breakdown
  | some [] => .ok pos
  | some (c :: _) => if p c then skipWhile p (pos + c.utf8Size) else .ok pos
termination_by byteLength text - pos
decreasing_by
  have := add_le_byteLength text _h
  have := c.utf8Size_pos
  omega

/-- Reads the name of a filter. -/
def readName (pos : Nat) : Except Stop (String × Nat) :=
  (after text pos).bind fun
    | [] => failAt .expectedName pos
    | c :: _ =>
      if isNameStart c then
        (skipWhile text isNameChar (pos + c.utf8Size)).bind fun stop =>
          (between text pos stop).bind fun name =>
            match reservedWord? name with
            | some word => failAt (.reservedName word) pos
            | none => .ok (String.ofList name, stop)
      else failAt .expectedName pos

/-- Reads the rest of a quoted text whose opening quote is at `start`, of which `read` has been
read. -/
def readQuotedFrom (start : Nat) (read : List Char) (pos : Nat) : Except Stop (String × Nat) :=
  match _h : dropBytes? text pos with
  | none => .error .breakdown
  | some [] => failAt .unclosedQuote start
  | some (c :: _) =>
    if c == '"' then .ok (String.ofList read.reverse, pos + c.utf8Size)
    else if c == '\\' then
      match dropBytes? text (pos + c.utf8Size) with
      | none => .error .breakdown
      | some [] => readQuotedFrom start ('\\' :: read) (pos + c.utf8Size)
      | some (d :: _) =>
        if Text.needsEscape d then
          readQuotedFrom start (d :: read) (pos + c.utf8Size + d.utf8Size)
        else readQuotedFrom start ('\\' :: read) (pos + c.utf8Size)
    else readQuotedFrom start (c :: read) (pos + c.utf8Size)
termination_by byteLength text - pos
decreasing_by
  all_goals
    have := add_le_byteLength text _h
    have := c.utf8Size_pos
    omega

/-- Reads a quoted text, from its opening quote on. -/
def readQuotedText (pos : Nat) : Except Stop (String × Nat) :=
  readQuotedFrom text pos [] (pos + '"'.utf8Size)

/-- Reads the value of a comparison, with the blanks before it. -/
def readValue (pos : Nat) : Except Stop (Literal × Nat) :=
  (skipWhile text Text.isBlank pos).bind fun start =>
    (after text start).bind fun rest =>
      if rest.head? == some '"' then
        (readQuotedText text start).map fun p => (.quoted p.1, p.2)
      else
        (skipWhile text isBareChar start).bind fun stop =>
          if start = stop then failAt .expectedValue start
          else (between text start stop).map fun run => (bareLiteral run, stop)

/-- Reads an operator, whose length is added to the offset. -/
def readOperator (pos : Nat) : Except Stop (Option (Operator × Nat)) :=
  (after text pos).map fun rest =>
    (Operator.read? rest).map fun p => (p.1, pos + (byteLength rest - byteLength p.2))

/-- Reads what follows the name of a filter. -/
def readComparison (name : String) (pos : Nat) : Except Stop (Statement × Nat) :=
  (skipWhile text Text.isBlank pos).bind fun start =>
    (readOperator text start).bind fun
      | some (op, next) => (readValue text next).map fun p => (.comparison name op p.1, p.2)
      | none => .ok (.flag name false, start)

/-- Reads a statement, from its first character on. -/
def readStatement (pos : Nat) : Except Stop (Statement × Nat) :=
  (after text pos).bind fun
    | [] => failAt .expectedStatement pos
    | c :: _ =>
      if c == '"' then (readQuotedText text pos).map fun p => (.freetext p.1, p.2)
      else if c == '!' then
        (skipWhile text Text.isBlank (pos + c.utf8Size)).bind fun start =>
          (readName text start).map fun p => (.flag p.1 true, p.2)
      else if isNameStart c then
        (readName text pos).bind fun p => readComparison text p.1 p.2
      else failAt (.unexpectedChar c) pos

/-- Looks ahead for a word by its number of bytes. Before anything is cut there, it is made sure
that the text can be. -/
def readWord (word : String) (pos : Nat) : Except Stop (Option Nat) :=
  (after text pos).bind fun rest =>
    let length := word.utf8ByteSize
    if byteLength rest < length || (dropBytes? rest length).isNone then .ok none
    else (before rest length).bind fun start =>
      if spells word start then
        (after rest length).map fun next =>
          if next.head?.any isNameChar then none else some (pos + length)
      else .ok none

/-- Reads a connective. -/
def readConnective (pos : Nat) : Except Stop (Option (Connective × Nat)) :=
  (readWord text Connective.and.word pos).bind fun
    | some next => .ok (some (.and, next))
    | none => (readWord text Connective.or.word pos).map fun found =>
        found.map fun next => (.or, next)

/-! ## Queries -/

/-- A group that has been opened and not yet closed. -/
structure OpenGroup where
  before : List Node
  start : Nat

/-- Where the reader stands. -/
structure State where
  expected : Expectation
  groups : List OpenGroup
  nodes : List Node
  pos : Nat

/-- What one step of the reader comes to. -/
inductive Step where
  | go (next : State)
  | done (nodes : List Node)

/-- Opens a group at an offset. -/
def openGroup (limits : Limits) (st : State) (pos : Nat) : Except Stop Step :=
  if limits.maxDepth ≤ st.groups.length then failAt (.tooDeep limits.maxDepth) pos
  else (skipWhile text Text.isBlank (pos + '('.utf8Size)).bind fun inner =>
    (after text inner).bind fun rest =>
      if rest.head? == some ')' then failAt .emptyGroup inner
      else .ok (.go ⟨.condition, ⟨st.nodes, pos⟩ :: st.groups, [], inner⟩)

/-- Reads a statement, or the opening parenthesis of a group. -/
def stepCondition (limits : Limits) (st : State) : Except Stop Step :=
  (skipWhile text Text.isBlank st.pos).bind fun pos =>
    (after text pos).bind fun rest =>
      if rest.head? == some '(' then openGroup text limits st pos
      else (readStatement text pos).map fun p =>
        .go { st with expected := .continuation, nodes := .statement p.1 :: st.nodes, pos := p.2 }

/-- Ends the text. -/
def finish (st : State) : Except Stop Step :=
  match st.groups with
  | [] => .ok (.done st.nodes.reverse)
  | g :: _ => failAt .unclosedGroup g.start

/-- Closes the innermost group at an offset. -/
def closeGroup (st : State) (pos : Nat) : Except Stop Step :=
  match st.groups with
  | [] => failAt .unbalanced pos
  | g :: gs =>
    .ok (.go ⟨.continuation, gs, .group st.nodes.reverse :: g.before, pos + ')'.utf8Size⟩)

/-- Reads a connective, the end of a group, or the end of the text. -/
def stepContinuation (st : State) : Except Stop Step :=
  (skipWhile text Text.isBlank st.pos).bind fun pos =>
    (after text pos).bind fun rest =>
      if rest.isEmpty then finish st
      else if rest.head? == some ')' then closeGroup st pos
      else (readConnective text pos).bind fun
        | some (k, next) => .ok (.go ⟨.condition, st.groups, .connective k :: st.nodes, next⟩)
        | none => failAt .expectedConnective pos

/-- One step of the reader. -/
def step (limits : Limits) (st : State) : Except Stop Step :=
  match st.expected with
  | .condition => stepCondition text limits st
  | .continuation => stepContinuation text st

/-- Reads on, for a number of steps at most. To run out of them is a breakdown, too. -/
def run (limits : Limits) : Nat → State → Except Stop (List Node)
  | 0, _ => .error .breakdown
  | steps + 1, st => (step text limits st).bind fun
    | .done nodes => .ok nodes
    | .go next => run limits steps next

/-- Reads a text as a query. No step is without a character. -/
def parseWithin (limits : Limits) (text : String) : Except Stop Query :=
  let s := text.toList
  if limits.maxLength < byteLength s then failAt (.tooLong limits.maxLength) limits.maxLength
  else (skipWhile s Text.isBlank 0).bind fun pos =>
    (after s pos).bind fun rest =>
      if rest.isEmpty then .ok ⟨[]⟩
      else (run s limits (s.length + 1) ⟨.condition, [], [], 0⟩).map fun nodes => ⟨nodes⟩

/-! ## Keys -/

/-- The name of a filter before the suffix for keys, which is looked for by its number of bytes. -/
def dropKeySuffix (name : String) : Except Stop (Option String) :=
  let s := name.toList
  let length := byteLength keySuffix
  if byteLength s < length || (dropBytes? s (byteLength s - length)).isNone then .ok none
  else (after s (byteLength s - length)).bind fun suffix =>
    if suffix.map Char.toLower == keySuffix then
      (before s (byteLength s - length)).map fun base => some (String.ofList base)
    else .ok none

end FilterQuery.Cursor

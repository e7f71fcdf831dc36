/-
Reading a text as a query.

The reader keeps what it has read of the innermost open group, and for every group that is open
around it what had been read before that group's parenthesis. It alternates between two
expectations: a condition, which a parenthesis may open as a group, and what may follow a condition,
namely a connective, the end of a group or the end of the text.

Each step takes at least one character (`State.length_lt_of_step`), and that is all that makes
`State.run` end. Nesting costs the reader no stack, so the limit on depth is a rule of the language
and not a safeguard of this reader.
-/
import FilterQuery.Query.Token

set_option autoImplicit false

namespace FilterQuery

open Text (skipBlanks length_skipBlanks_le)

/-- A group that has been opened and not yet closed. -/
structure OpenGroup where
  /-- The nodes before the group, last first. -/
  before : List Node
  /-- The text from the group's opening parenthesis on. -/
  start : List Char

/-- What the reader expects next. -/
inductive Expectation where
  | condition
  /-- A connective, the end of a group, or the end of the text. -/
  | continuation
deriving DecidableEq, Repr

/-- Where the reader stands. -/
structure State where
  expected : Expectation
  /-- The groups that are open, innermost first. -/
  groups : List OpenGroup
  /-- What has been read of the innermost open group, last node first. -/
  nodes : List Node
  unread : List Char

/-- What one step of the reader comes to. -/
inductive Step where
  | go (next : State)
  | done (nodes : List Node)

namespace State

/-- The reader at the beginning of a text. -/
def start (s : List Char) : State :=
  ⟨.condition, [], [], s⟩

/-- Opens a group at the parenthesis that `text` begins with; `inner` follows the parenthesis. -/
def openGroup (limits : Limits) (st : State) (text inner : List Char) : Except Fault Step :=
  if limits.maxDepth ≤ st.groups.length then .error ⟨.tooDeep limits.maxDepth, text⟩
  else match skipBlanks inner with
    | ')' :: r => .error ⟨.emptyGroup, ')' :: r⟩
    | r => .ok (.go ⟨.condition, ⟨st.nodes, text⟩ :: st.groups, [], r⟩)

/-- Reads a statement, or the opening parenthesis of a group. -/
def stepCondition (limits : Limits) (st : State) : Except Fault Step :=
  match skipBlanks st.unread with
  | '(' :: r => st.openGroup limits ('(' :: r) r
  | t => (readStatement t).map fun (s, rest) =>
      .go { st with expected := .continuation, nodes := .statement s :: st.nodes, unread := rest }

/-- Ends the text, which must not leave a group open. -/
def finish (st : State) : Except Fault Step :=
  match st.groups with
  | [] => .ok (.done st.nodes.reverse)
  | g :: _ => .error ⟨.unclosedGroup, g.start⟩

/-- Closes the innermost group at the parenthesis that `text` begins with; `rest` follows it. -/
def closeGroup (st : State) (text rest : List Char) : Except Fault Step :=
  match st.groups with
  | [] => .error ⟨.unbalanced, text⟩
  | g :: gs => .ok (.go ⟨.continuation, gs, .group st.nodes.reverse :: g.before, rest⟩)

/-- Reads a connective, the end of a group, or the end of the text. -/
def stepContinuation (st : State) : Except Fault Step :=
  match skipBlanks st.unread with
  | [] => st.finish
  | ')' :: r => st.closeGroup (')' :: r) r
  | t =>
    match Connective.read? t with
    | some (k, rest) =>
      .ok (.go { st with
        expected := .condition, nodes := .connective k :: st.nodes, unread := rest })
    | none => .error ⟨.expectedConnective, t⟩

/-- One step of the reader. -/
def step (limits : Limits) (st : State) : Except Fault Step :=
  match st.expected with
  | .condition => st.stepCondition limits
  | .continuation => st.stepContinuation

/-! ## Every step takes a character -/

theorem length_lt_of_stepCondition {limits : Limits} {st next : State}
    (h : st.stepCondition limits = .ok (.go next)) : next.unread.length < st.unread.length := by
  have hs := length_skipBlanks_le st.unread
  unfold stepCondition at h
  split at h
  · rename_i r heq
    rw [heq, List.length_cons] at hs
    have hr := length_skipBlanks_le r
    unfold openGroup at h
    split at h
    · simp at h
    · split at h
      · simp at h
      · simp only [Except.ok.injEq, Step.go.injEq] at h
        subst h
        dsimp only
        omega
  · cases hst : readStatement (skipBlanks st.unread) with
    | error f => simp [hst, Except.map] at h
    | ok p =>
      have := length_lt_of_readStatement hst
      simp only [hst, Except.map, Except.ok.injEq, Step.go.injEq] at h
      subst h
      dsimp only
      omega

theorem length_lt_of_stepContinuation {st next : State}
    (h : st.stepContinuation = .ok (.go next)) : next.unread.length < st.unread.length := by
  have hs := length_skipBlanks_le st.unread
  unfold stepContinuation at h
  split at h
  · unfold finish at h
    split at h <;> simp at h
  · rename_i r heq
    rw [heq, List.length_cons] at hs
    unfold closeGroup at h
    split at h
    · simp at h
    · simp only [Except.ok.injEq, Step.go.injEq] at h
      subst h
      dsimp only
      omega
  · split at h
    · rename_i hk
      have := Connective.length_lt_of_read? hk
      simp only [Except.ok.injEq, Step.go.injEq] at h
      subst h
      dsimp only
      omega
    · simp at h

/-- **Each step takes at least one character**, so the reader comes to an end. -/
theorem length_lt_of_step {limits : Limits} {st next : State}
    (h : st.step limits = .ok (.go next)) : next.unread.length < st.unread.length := by
  unfold step at h
  split at h
  · exact length_lt_of_stepCondition h
  · exact length_lt_of_stepContinuation h

/-- Reads on from where the reader stands to the end of the text. -/
def run (limits : Limits) (st : State) : Except Fault (List Node) :=
  match _h : st.step limits with
  | .error f => .error f
  | .ok (.done nodes) => .ok nodes
  | .ok (.go next) => run limits next
termination_by st.unread.length
decreasing_by exact length_lt_of_step _h

end State

/-! ## Whole texts -/

/-- Reads the characters of a text as the nodes of a query. A blank text has none. -/
def readNodes (limits : Limits) (s : List Char) : Except Fault (List Node) :=
  if (skipBlanks s).isEmpty then .ok [] else (State.start s).run limits

namespace Query

/-- Reads a text as a query, within the limits given. -/
def parseWithin (limits : Limits) (text : String) : Except ParseError Query :=
  let s := text.toList
  if limits.maxLength < byteLength s then .error ⟨.tooLong limits.maxLength, limits.maxLength⟩
  else match readNodes limits s with
    | .ok nodes => .ok ⟨nodes⟩
    | .error fault => .error (fault.locate s)

/-- Reads a text as a query, within the usual limits. -/
def parse (text : String) : Except ParseError Query :=
  parseWithin {} text

end Query

end FilterQuery

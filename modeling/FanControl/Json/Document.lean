import FanControl.Json.Token

/-!
# JSON documents

A text is read once, from left to right, into a tree of nodes: the **document** of the text. A
text that is no JSON has a document too. It goes as far as the text makes sense, and the node
where it stops says why. What the text would have held further on is not there, so a
reader that walks the tree meets the fault exactly where it would have met it in the text, after
everything that stands before it.

The reading is a pushdown automaton. `State` holds what may come next in the container at hand and
the containers around it; `State.step` takes one token. It needs no bound on the depth of the
text; `Node.toValue?` is where depth is limited.

## Main definitions

* `Node`, `Document.ofBytes`: the tree of a text;
* `Node.skip`: a value that nobody wants, of any depth;
* `Node.plain`: a value with its containers closed;
* `Node.toValue?`: the whole value, with containers nested at most so deep.
-/

namespace FanControl.Json

/-- How a container ends in the text. -/
inductive Ending where
  /-- With its closing mark. -/
  | closed
  /-- After its opening mark or an element, where neither a comma nor the closing mark follows. -/
  | unclosed (fault : Fault)
  /-- After a comma that no element follows. -/
  | dangling (fault : Fault)
  /-- Inside its last element; the fault is the one seen by a reader that passes by. -/
  | stopped (skipped : Fault)
deriving DecidableEq, Repr

/-- A value as it stands in a text. -/
inductive Node where
  | null
  | boolean (b : Bool)
  | number (t : NumberText)
  | string (t : StringText)
  | array (items : List Node) (ending : Ending)
  | object (members : List (StringText × Node)) (ending : Ending)
  /-- An object with something that is no string for its first key. -/
  | keyless (first : Node)
  /-- No value at all, with the fault seen by a reader that wants it and the one seen by a reader
  that passes by. -/
  | broken (kept skipped : Fault)
deriving Repr

/-- The fault of a container that is not closed. -/
def Ending.check : Ending → Except Fault Unit
  | .closed => .ok ()
  | .unclosed fault | .dangling fault | .stopped fault => .error fault

namespace Node

/-- Passes by a value. Only an unfinished one is an error, whatever stands in it. -/
def skip : Node → Except Fault Unit
  | string t =>
    match t.cut with
    | some fault => .error fault
    | none => .ok ()
  | array _ ending | object _ ending => ending.check
  | keyless _ => .error .malformed
  | broken _ skipped => .error skipped
  | null | boolean _ | number _ => .ok ()

/-- The value with its containers closed; what they hold is not looked at. -/
def plain : Node → Except Fault Plain
  | null => .ok .null
  | boolean b => .ok (.boolean b)
  | number t =>
    match t.value? with
    | some n => .ok (.number n)
    | none => .error .malformed
  | string t => .string <$> t.decode
  | array _ _ => .ok .sequence
  | object _ _ | keyless _ => .ok .map
  | broken kept _ => .error kept

mutual

/-- The whole value, with containers nested at most `depth` deep. -/
def toValue? (depth : Nat) : Node → Except Fault Value
  | null => .ok .null
  | boolean b => .ok (.boolean b)
  | number t =>
    match t.value? with
    | some n => .ok (.number n)
    | none => .error .malformed
  | string t => .string <$> t.decode
  | array items ending =>
    match depth with
    | 0 => .error .malformed
    | depth + 1 => do
      let values ← itemValues depth [] items
      ending.check
      return .array values
  | object members ending =>
    match depth with
    | 0 => .error .malformed
    | depth + 1 => do
      let values ← memberValues depth [] members
      ending.check
      return .object values
  | keyless _ => .error .malformed
  | broken kept _ => .error kept

/-- The values of items after those in `before`, the last one first. -/
def itemValues (depth : Nat) (before : List Value) : List Node → Except Fault (List Value)
  | [] => .ok before.reverse
  | node :: rest => do
    let value ← node.toValue? depth
    itemValues depth (value :: before) rest

/-- The members after those in `before`, in order of keys. Of equal keys the last one counts. -/
def memberValues (depth : Nat) (before : List (String × Value)) :
    List (StringText × Node) → Except Fault (List (String × Value))
  | [] => .ok before
  | (key, node) :: rest => do
    let key ← key.decode
    let value ← node.toValue? depth
    memberValues depth (Value.insert key value before) rest

end

end Node

/-! ### The automaton -/

/-- What may come next, with what the container at hand holds so far, the last element first. -/
inductive Place where
  /-- A value. -/
  | value
  /-- A value or the end of an array that has just begun. -/
  | firstItem
  /-- A value after a comma of an array. -/
  | nextItem (before : List Node)
  /-- A comma or the end of an array. -/
  | afterItem (before : List Node)
  /-- A key or the end of an object that has just begun. -/
  | firstKey
  /-- A key after a comma of an object. -/
  | nextKey (before : List (StringText × Node))
  /-- The colon after a key. -/
  | colon (before : List (StringText × Node)) (key : StringText)
  /-- A comma or the end of an object. -/
  | afterMember (before : List (StringText × Node))

/-- A container that is waiting for an element. -/
inductive Frame where
  | items (before : List Node)
  | members (before : List (StringText × Node)) (key : StringText)

/-- Where the reading stands: in the container at hand, within the containers around it. -/
structure State where
  place : Place
  frames : List Frame

/-- The outcome of a token. -/
inductive Step where
  /-- The reading goes on. -/
  | next (s : State)
  /-- The root is complete. -/
  | whole (root : Node)
  /-- The text makes no sense from here on. -/
  | cut (root : Node)

/-- The root of a text that stops in a value, given the containers around it. -/
def unwind (node : Node) (skipped : Fault) : List Frame → Node
  | [] => node
  | .items before :: frames =>
    unwind (.array (node :: before).reverse (.stopped skipped)) skipped frames
  | .members before key :: frames =>
    unwind (.object ((key, node) :: before).reverse (.stopped skipped)) skipped frames

/-- Hands a complete value to the container around it. -/
def deliver (node : Node) : List Frame → Step
  | [] => .whole node
  | .items before :: frames => .next ⟨.afterItem (node :: before), frames⟩
  | .members before key :: frames => .next ⟨.afterMember ((key, node) :: before), frames⟩

/-- The node that a token starts, as far as the token alone tells. -/
def Token.node : Token → Node
  | .null => .null
  | .boolean b => .boolean b
  | .number t => .number t
  | .string t => .string t
  | .openArray => .array [] (.unclosed .malformed)
  | .openObject => .object [] (.unclosed .malformed)
  | .broken kept skipped => .broken kept skipped
  | .closeArray | .closeObject | .colon | .comma => .broken .malformed .malformed

/-- A token where a value has to be. -/
def State.startValue (frames : List Frame) : Token → Step
  | .openArray => .next ⟨.firstItem, frames⟩
  | .openObject => .next ⟨.firstKey, frames⟩
  | .null => deliver .null frames
  | .boolean b => deliver (.boolean b) frames
  | .number t => deliver (.number t) frames
  | .string t =>
    match t.cut with
    | none => deliver (.string t) frames
    | some fault => .cut (unwind (.string t) fault frames)
  | .broken kept skipped => .cut (unwind (.broken kept skipped) skipped frames)
  | .closeArray | .closeObject | .colon | .comma =>
    .cut (unwind (.broken .malformed .malformed) .malformed frames)

/-- A key where one may be. -/
def State.startKey (before : List (StringText × Node)) (frames : List Frame)
    (t : StringText) : Step :=
  match t.cut with
  | none => .next ⟨.colon before t, frames⟩
  | some fault =>
    .cut (unwind (.object ((t, .broken fault fault) :: before).reverse (.stopped fault)) fault
      frames)

/-- The outcome of one token. -/
def State.step (s : State) (token : Token) : Step :=
  let frames := s.frames
  match s.place with
  | .value => startValue frames token
  | .firstItem =>
    match token with
    | .closeArray => deliver (.array [] .closed) frames
    | token => startValue (.items [] :: frames) token
  | .nextItem before =>
    match token with
    | .closeArray => .cut (unwind (.array before.reverse (.dangling .malformed)) .malformed frames)
    | token => startValue (.items before :: frames) token
  | .afterItem before =>
    match token with
    | .closeArray => deliver (.array before.reverse .closed) frames
    | .comma => .next ⟨.nextItem before, frames⟩
    | _ => .cut (unwind (.array before.reverse (.unclosed .malformed)) .malformed frames)
  | .firstKey =>
    match token with
    | .closeObject => deliver (.object [] .closed) frames
    | .string t => startKey [] frames t
    | token => .cut (unwind (.keyless token.node) .malformed frames)
  | .nextKey before =>
    match token with
    | .string t => startKey before frames t
    | _ => .cut (unwind (.object before.reverse (.dangling .malformed)) .malformed frames)
  | .colon before key =>
    match token with
    | .colon => .next ⟨.value, .members before key :: frames⟩
    | _ =>
      .cut (unwind
        (.object ((key, .broken .malformed .malformed) :: before).reverse (.stopped .malformed))
        .malformed frames)
  | .afterMember before =>
    match token with
    | .closeObject => deliver (.object before.reverse .closed) frames
    | .comma => .next ⟨.nextKey before, frames⟩
    | _ => .cut (unwind (.object before.reverse (.unclosed .malformed)) .malformed frames)

/-- The root of a text that is over. -/
def State.finish (s : State) : Node :=
  match s.place with
  | .value => unwind (.broken .ended .ended) .ended s.frames
  | .firstItem => unwind (.array [] (.unclosed .ended)) .ended s.frames
  | .nextItem before => unwind (.array before.reverse (.dangling .ended)) .ended s.frames
  | .afterItem before => unwind (.array before.reverse (.unclosed .ended)) .ended s.frames
  | .firstKey => unwind (.object [] (.unclosed .ended)) .ended s.frames
  | .nextKey before => unwind (.object before.reverse (.dangling .ended)) .ended s.frames
  | .colon before key =>
    unwind (.object ((key, .broken .ended .ended) :: before).reverse (.stopped .ended)) .ended
      s.frames
  | .afterMember before => unwind (.object before.reverse (.unclosed .ended)) .ended s.frames

/-! ### Documents -/

/-- What stands in a text. -/
structure Document where
  root : Node
  /-- Whether something other than blanks follows a complete root. -/
  trailing : Bool

/-- Reads on from a state. Each token takes at least one byte, so there are enough steps when
there are more steps than bytes. -/
def Document.run : Nat → State → Bytes → Document
  | 0, s, _ => ⟨s.finish, false⟩
  | steps + 1, s, bs =>
    match Token.next? bs with
    | none => ⟨s.finish, false⟩
    | some (token, rest) =>
      match s.step token with
      | .next s => run steps s rest
      | .whole root => ⟨root, (Token.next? rest).isSome⟩
      | .cut root => ⟨root, false⟩

/-- The document of a text. -/
def Document.ofBytes (bs : Bytes) : Document := run (bs.length + 1) ⟨.value, []⟩ bs

/-- Containers that are kept may be nested this deep. -/
def depthLimit : Nat := 127

/-- The value that a text holds. -/
def Value.ofBytes? (bs : Bytes) : Except Fault Value := do
  let document := Document.ofBytes bs
  let value ← document.root.toValue? depthLimit
  if document.trailing then .error .malformed else return value

end FanControl.Json

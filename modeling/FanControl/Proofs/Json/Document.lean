import FanControl.Json.Reader
import FanControl.Proofs.Json.Number

/-!
# Texts and their documents

**Every text of the grammar is read as the tree of its value**, however the value is spelled.
`Spelling.read_chars` says how the automaton comes to it: wherever a value may stand, the text of
one is read up to its end and handed to the container around it. The proof follows the parse tree; a
list of items or members is read from any place that awaits its first element.

What the printer writes is one spelling of a value among many, and is read back as the tree of what
was printed. A number may be printed in many ways, so the tree takes each number as the token that
its text is.

## Main results

* `Document.read_next`: one token of a reading;
* `Spelling.read_chars`: the text of a value anywhere in a document;
* `Document.ofBytes_spelling`: the document of a text of the grammar;
* `Value.exists_spelling`, `Document.ofBytes_render`: printed values.
-/

namespace FanControl.Json

open Text (utf8)

/-! ### Readings -/

/-- The reading of a text from a state on. -/
def Document.read (s : State) (bs : Bytes) : Document := run (bs.length + 1) s bs

/-- What becomes of a reading after a token. -/
def Step.resume : Step → Bytes → Document
  | .next s, rest => .read s rest
  | .whole root, rest => ⟨root, (Token.next? rest).isSome⟩
  | .cut root, _ => ⟨root, false⟩

namespace Document

/-- More steps than bytes are enough, and no more of them make a difference. -/
theorem run_eq_run {n m : Nat} {bs : Bytes} (hn : bs.length < n) (hm : bs.length < m) (s : State) :
    run n s bs = run m s bs := by
  induction n generalizing m s bs with
  | zero => exact absurd hn (Nat.not_lt_zero _)
  | succ n ih =>
      obtain ⟨m, rfl⟩ : ∃ k, m = k + 1 := ⟨m - 1, by omega⟩
      rw [run, run]
      cases hnext : Token.next? bs with
      | none => rfl
      | some found =>
          obtain ⟨token, rest⟩ := found
          have hlength := Token.next?_length hnext
          dsimp only
          cases s.step token with
          | next s => exact ih (by omega) (by omega) s
          | whole root => rfl
          | cut root => rfl

/-- **A reading takes one token after another.** -/
theorem read_next {s : State} {bs rest : Bytes} {token : Token}
    (h : Token.next? bs = some (token, rest)) : read s bs = (s.step token).resume rest := by
  have hlength := Token.next?_length h
  rw [read, run, h]
  dsimp only
  cases s.step token with
  | next s => exact run_eq_run hlength (Nat.lt_succ_self _) s
  | whole root => rfl
  | cut root => rfl

/-- Blanks before a token make no difference. -/
theorem read_spaces (s : State) (spaces : List Space) (rest : Bytes) :
    read s (utf8 (spaceChars spaces) ++ rest) = read s rest := by
  have hnext := Token.next?_spaces spaces rest
  cases htoken : Token.next? rest with
  | none => rw [read, read, run, run, hnext, htoken]
  | some found =>
      obtain ⟨token, more⟩ := found
      rw [read_next (hnext.trans htoken), read_next htoken]

end Document

/-! ### The automaton -/

/-- A state awaits a value for the containers `frames` if it takes every token but the end of an
array as the start of one. -/
def State.Awaits (s : State) (frames : List Frame) : Prop :=
  ∀ token, token ≠ .closeArray → s.step token = State.startValue frames token

/-- A place that awaits an item of an array after those in `before`, the last one first. -/
inductive Place.AwaitsItem : Place → List Node → Prop where
  | first : AwaitsItem .firstItem []
  | next (before : List Node) : AwaitsItem (.nextItem before) before

/-- A place that awaits a key of an object after the members in `before`, the last one first. -/
inductive Place.AwaitsKey : Place → List (StringText × Node) → Prop where
  | first : AwaitsKey .firstKey []
  | next (before : List (StringText × Node)) : AwaitsKey (.nextKey before) before

/-- Where a value has to stand one is awaited. -/
theorem State.awaits_value (frames : List Frame) : Awaits ⟨.value, frames⟩ frames :=
  fun _ _ => rfl

/-- Where an item may stand a value is awaited. -/
theorem Place.AwaitsItem.awaits {place : Place} {before : List Node}
    (h : place.AwaitsItem before) (frames : List Frame) :
    State.Awaits ⟨place, frames⟩ (.items before :: frames) := by
  intro token htoken
  cases h with
  | first => cases token <;> first | rfl | exact absurd rfl htoken
  | next => cases token <;> first | rfl | exact absurd rfl htoken

/-- Where a key may stand a string is taken as one. -/
theorem Place.AwaitsKey.step_string {place : Place} {before : List (StringText × Node)}
    (h : place.AwaitsKey before) (frames : List Frame) (key : StringSpelling) :
    State.step ⟨place, frames⟩ (.string key.text) = .next ⟨.colon before key.text, frames⟩ := by
  cases h <;> rfl

/-- After the colon that follows a key a value is awaited. -/
theorem State.step_colon (before : List (StringText × Node)) (key : StringText)
    (frames : List Frame) :
    step ⟨.colon before key, frames⟩ .colon = .next ⟨.value, .members before key :: frames⟩ :=
  rfl

/-- Marks are one token each. -/
theorem Token.next?_mark {b : UInt8} {token : Token} (h : isSpace b = false)
    (hread : ∀ rest, read b rest = (token, rest)) (rest : Bytes) :
    next? (b :: rest) = some (token, rest) := by
  rw [next?_cons h, hread]

/-- Neither a blank nor a mark continues a number. -/
theorem endsNumber_spaces (spaces : List Space) {rest : Bytes} (h : EndsNumber rest) :
    EndsNumber (utf8 (spaceChars spaces) ++ rest) := by
  cases spaces with
  | nil => exact h
  | cons s spaces =>
      intro b hb
      cases s <;>
      · obtain rfl := Option.mem_some_iff.mp hb
        decide

theorem endsNumber_mark {b : UInt8} (h : b = 0x2C ∨ b = 0x5D ∨ b = 0x7D) (rest : Bytes) :
    EndsNumber (b :: rest) := by
  intro c hc
  obtain rfl := Option.mem_some_iff.mp hc
  rcases h with rfl | rfl | rfl <;> decide

/-! ### Spelled values -/

/-- A key is read up to its colon. -/
theorem Place.AwaitsKey.read_keyChars {place : Place} {before : List (StringText × Node)}
    (h : place.AwaitsKey before) (frames : List Frame) (key : Spaced StringSpelling)
    (rest : Bytes) :
    Document.read ⟨place, frames⟩ (utf8 (keyChars key) ++ rest) =
      Document.read ⟨.value, .members before key.it.text :: frames⟩ rest := by
  have hcolon : utf8 (keyChars key) ++ rest = utf8 (spaceChars key.before) ++
      (utf8 key.it.chars ++ (utf8 (spaceChars key.after) ++ 0x3A :: rest)) := by
    simp [keyChars, Text.utf8EncodeChar_of_lt]
  rw [hcolon, Document.read_spaces, Document.read_next (key.it.next?_chars _),
    h.step_string, Step.resume, Document.read_spaces,
    Document.read_next (Token.next?_mark rfl (fun _ => rfl) _), State.step_colon, Step.resume]

namespace Spelling

mutual

/-- **The text of a value is read up to its end**, wherever a value may stand and however it is
spelled. -/
theorem read_chars (v : Spelling) {s : State} {frames : List Frame} (hs : s.Awaits frames)
    {rest : Bytes} (hrest : EndsNumber rest) :
    Document.read s (utf8 v.chars ++ rest) = (deliver v.node frames).resume rest := by
  match v with
  | null =>
      rw [chars, Document.read_next (Token.next?_null rest), hs _ (by simp)]
      rfl
  | boolean b =>
      rw [chars, Document.read_next (Token.next?_boolean b rest), hs _ (by simp)]
      rfl
  | number n =>
      rw [chars, Document.read_next (n.next?_chars hrest), hs _ (by simp)]
      rfl
  | string t =>
      rw [chars, Document.read_next (t.next?_chars rest), hs _ (by simp)]
      rfl
  | array inner items =>
      have hopen : utf8 (array inner items).chars ++ rest =
          0x5B :: (utf8 (spaceChars inner) ++ (utf8 (itemChars items) ++ 0x5D :: rest)) := by
        simp [chars, Text.utf8EncodeChar_of_lt]
      rw [hopen, Document.read_next (Token.next?_mark rfl (fun _ => rfl) _), hs _ (by simp)]
      refine (Document.read_spaces ⟨.firstItem, frames⟩ inner _).trans ?_
      match items with
      | [] =>
          have hclose : Token.next? (0x5D :: rest) = some (.closeArray, rest) :=
            Token.next?_mark rfl (fun _ => rfl) rest
          exact Document.read_next hclose
      | item :: items =>
          exact read_itemChars (item :: items) (by simp) .first frames rest
  | object inner members =>
      have hopen : utf8 (object inner members).chars ++ rest =
          0x7B :: (utf8 (spaceChars inner) ++ (utf8 (memberChars members) ++ 0x7D :: rest)) := by
        simp [chars, Text.utf8EncodeChar_of_lt]
      rw [hopen, Document.read_next (Token.next?_mark rfl (fun _ => rfl) _), hs _ (by simp)]
      refine (Document.read_spaces ⟨.firstKey, frames⟩ inner _).trans ?_
      match members with
      | [] =>
          have hclose : Token.next? (0x7D :: rest) = some (.closeObject, rest) :=
            Token.next?_mark rfl (fun _ => rfl) rest
          exact Document.read_next hclose
      | m :: members =>
          exact read_memberChars (m :: members) (by simp) .first frames rest

/-- Items up to the end of their array are read as the array. -/
theorem read_itemChars (items : List (Spaced Spelling)) (hne : items ≠ [])
    {place : Place} {before : List Node} (hplace : place.AwaitsItem before) (frames : List Frame)
    (rest : Bytes) :
    Document.read ⟨place, frames⟩ (utf8 (itemChars items) ++ 0x5D :: rest) =
      (deliver (.array (before.reverse ++ itemNodes items) .closed) frames).resume rest := by
  match items with
  | [] => exact absurd rfl hne
  | [⟨lead, v, trail⟩] =>
      have hsplit : utf8 (itemChars [⟨lead, v, trail⟩]) ++ 0x5D :: rest =
          utf8 (spaceChars lead) ++
            (utf8 v.chars ++ (utf8 (spaceChars trail) ++ 0x5D :: rest)) := by
        simp [itemChars]
      have hends := endsNumber_spaces trail (endsNumber_mark (.inr (.inl rfl)) rest)
      rw [hsplit, Document.read_spaces, read_chars v (hplace.awaits frames) hends,
        deliver, Step.resume, Document.read_spaces,
        Document.read_next (Token.next?_mark rfl (fun _ => rfl) _)]
      simp [State.step, itemNodes]
  | ⟨lead, v, trail⟩ :: item :: items =>
      have hsplit : utf8 (itemChars (⟨lead, v, trail⟩ :: item :: items)) ++ 0x5D :: rest =
          utf8 (spaceChars lead) ++ (utf8 v.chars ++ (utf8 (spaceChars trail) ++
            0x2C :: (utf8 (itemChars (item :: items)) ++ 0x5D :: rest))) := by
        simp [itemChars, Text.utf8EncodeChar_of_lt]
      have hends := endsNumber_spaces trail
        (endsNumber_mark (.inl rfl) (utf8 (itemChars (item :: items)) ++ 0x5D :: rest))
      rw [hsplit, Document.read_spaces, read_chars v (hplace.awaits frames) hends,
        deliver, Step.resume, Document.read_spaces,
        Document.read_next (Token.next?_mark rfl (fun _ => rfl) _)]
      refine (read_itemChars (item :: items) (by simp) (.next (v.node :: before)) frames
        rest).trans ?_
      simp [itemNodes]

/-- Members up to the end of their object are read as the object. -/
theorem read_memberChars (members : List MemberSpelling) (hne : members ≠ [])
    {place : Place} {before : List (StringText × Node)} (hplace : place.AwaitsKey before)
    (frames : List Frame) (rest : Bytes) :
    Document.read ⟨place, frames⟩ (utf8 (memberChars members) ++ 0x7D :: rest) =
      (deliver (.object (before.reverse ++ memberNodes members) .closed) frames).resume rest := by
  match members with
  | [] => exact absurd rfl hne
  | [(key, ⟨lead, v, trail⟩)] =>
      have hsplit : utf8 (memberChars [(key, ⟨lead, v, trail⟩)]) ++ 0x7D :: rest =
          utf8 (keyChars key) ++ (utf8 (spaceChars lead) ++
            (utf8 v.chars ++ (utf8 (spaceChars trail) ++ 0x7D :: rest))) := by
        simp [memberChars]
      have hends := endsNumber_spaces trail (endsNumber_mark (.inr (.inr rfl)) rest)
      rw [hsplit, hplace.read_keyChars, Document.read_spaces,
        read_chars v (State.awaits_value _) hends, deliver, Step.resume, Document.read_spaces,
        Document.read_next (Token.next?_mark rfl (fun _ => rfl) _)]
      simp [State.step, memberNodes]
  | (key, ⟨lead, v, trail⟩) :: m :: members =>
      have hsplit : utf8 (memberChars ((key, ⟨lead, v, trail⟩) :: m :: members)) ++ 0x7D :: rest =
          utf8 (keyChars key) ++ (utf8 (spaceChars lead) ++ (utf8 v.chars ++
            (utf8 (spaceChars trail) ++
              0x2C :: (utf8 (memberChars (m :: members)) ++ 0x7D :: rest)))) := by
        simp [memberChars, Text.utf8EncodeChar_of_lt]
      have hends := endsNumber_spaces trail
        (endsNumber_mark (.inl rfl) (utf8 (memberChars (m :: members)) ++ 0x7D :: rest))
      rw [hsplit, hplace.read_keyChars, Document.read_spaces,
        read_chars v (State.awaits_value _) hends, deliver, Step.resume, Document.read_spaces,
        Document.read_next (Token.next?_mark rfl (fun _ => rfl) _)]
      refine (read_memberChars (m :: members) (by simp)
        (.next ((key.it.text, v.node) :: before)) frames rest).trans ?_
      simp [memberNodes]

end

end Spelling

/-- **The document of a text of the grammar is the tree of its value**, however it is spelled. -/
theorem Document.ofBytes_spelling (text : Spaced Spelling) :
    ofBytes text.bytes = ⟨text.it.node, false⟩ := by
  have hbytes : text.bytes = utf8 (spaceChars text.before) ++
      (utf8 text.it.chars ++ (utf8 (spaceChars text.after) ++ [])) := by
    rw [Spaced.bytes, Text.bytes_ofList, Text.utf8_append, Text.utf8_append, List.append_nil]
  have hends := endsNumber_spaces text.after endsNumber_nil
  have htrailing : Token.next? (utf8 (spaceChars text.after) ++ []) = none :=
    Token.next?_spaces text.after []
  calc ofBytes text.bytes
      = read ⟨.value, []⟩ text.bytes := rfl
    _ = (deliver text.it.node []).resume (utf8 (spaceChars text.after) ++ []) := by
        rw [hbytes, read_spaces, text.it.read_chars (State.awaits_value []) hends]
    _ = ⟨text.it.node, false⟩ := by
        rw [deliver, Step.resume, htrailing]
        rfl

/-! ### Printed values -/

namespace Value

mutual

/-- The tree of a value. -/
def node : Value → Node
  | null => .null
  | boolean b => .boolean b
  | number n => n.token.node
  | string s => .string (.ofString s)
  | array items => .array (itemNodes items) .closed
  | object members => .object (memberNodes members) .closed

/-- The trees of items. -/
def itemNodes : List Value → List Node
  | [] => []
  | v :: rest => v.node :: itemNodes rest

/-- The trees of members. -/
def memberNodes : List (String × Value) → List (StringText × Node)
  | [] => []
  | (k, v) :: rest => (.ofString k, v.node) :: memberNodes rest

end

/-- A number is printed as a spelling of one, or of `null`. -/
theorem exists_spelling_number (n : Number) :
    ∃ w : Spelling, w.chars = n.chars ∧ w.node = n.token.node := by
  rcases n.chars_cases with hnull | ⟨p, hp, hchars⟩
  · refine ⟨.null, ?_, ?_⟩
    · rw [Spelling.chars, hnull]
    · rw [Spelling.node, Number.token, hnull]
      rfl
  · refine ⟨.number (p.spelling hp), ?_, ?_⟩
    · rw [Spelling.chars, p.chars_spelling hp, hchars]
    · rw [Spelling.node, p.text_spelling hp, Number.token_of_printed hp hchars, Token.node]

mutual

/-- **What the printer writes is a spelling of the value**: a text of the grammar, without a
blank. -/
theorem exists_spelling (v : Value) : ∃ w : Spelling, w.chars = v.chars ∧ w.node = v.node := by
  match v with
  | null => exact ⟨.null, rfl, rfl⟩
  | boolean b => exact ⟨.boolean b, rfl, rfl⟩
  | number n => exact exists_spelling_number n
  | string s =>
      obtain ⟨t, hchars, htext⟩ := StringSpelling.exists_quoteString s
      exact ⟨.string t, hchars, congrArg Node.string htext⟩
  | array items =>
      obtain ⟨ws, -, hchars, hnodes⟩ := exists_spelling_items items
      refine ⟨.array [] ws, ?_, ?_⟩
      · rw [Spelling.chars, chars, hchars]
        rfl
      · rw [Spelling.node, node, hnodes]
  | object members =>
      obtain ⟨ws, -, hchars, hnodes⟩ := exists_spelling_members members
      refine ⟨.object [] ws, ?_, ?_⟩
      · rw [Spelling.chars, chars, hchars]
        rfl
      · rw [Spelling.node, node, hnodes]

/-- Printed items with their commas are a spelling of the items. -/
theorem exists_spelling_items (items : List Value) : ∃ ws : List (Spaced Spelling),
    ws.length = items.length ∧ Spelling.itemChars ws = itemChars items ∧
      Spelling.itemNodes ws = itemNodes items := by
  match items with
  | [] => exact ⟨[], rfl, rfl, rfl⟩
  | [v] =>
      obtain ⟨w, hchars, hnode⟩ := exists_spelling v
      refine ⟨[⟨[], w, []⟩], rfl, ?_, ?_⟩
      · simp [Spelling.itemChars, itemChars, spaceChars, hchars]
      · simp [Spelling.itemNodes, itemNodes, hnode]
  | v :: v' :: items =>
      obtain ⟨w, hchars, hnode⟩ := exists_spelling v
      obtain ⟨ws, hlength, hrest, hnodes⟩ := exists_spelling_items (v' :: items)
      obtain ⟨w', ws, rfl⟩ := List.exists_cons_of_length_eq_add_one hlength
      refine ⟨⟨[], w, []⟩ :: w' :: ws, by simpa using hlength, ?_, ?_⟩
      · simp [Spelling.itemChars, itemChars, spaceChars, hchars, hrest]
      · rw [Spelling.itemNodes, itemNodes, hnode, hnodes]

/-- Printed members with their commas are a spelling of the members. -/
theorem exists_spelling_members (members : List (String × Value)) :
    ∃ ws : List MemberSpelling, ws.length = members.length ∧
      Spelling.memberChars ws = memberChars members ∧
      Spelling.memberNodes ws = memberNodes members := by
  match members with
  | [] => exact ⟨[], rfl, rfl, rfl⟩
  | [(k, v)] =>
      obtain ⟨key, hkey, htext⟩ := StringSpelling.exists_quoteString k
      obtain ⟨w, hchars, hnode⟩ := exists_spelling v
      refine ⟨[(⟨[], key, []⟩, ⟨[], w, []⟩)], rfl, ?_, ?_⟩
      · simp [Spelling.memberChars, memberChars, keyChars, spaceChars, hkey, hchars]
      · simp [Spelling.memberNodes, memberNodes, htext, hnode]
  | (k, v) :: m :: members =>
      obtain ⟨key, hkey, htext⟩ := StringSpelling.exists_quoteString k
      obtain ⟨w, hchars, hnode⟩ := exists_spelling v
      obtain ⟨ws, hlength, hrest, hnodes⟩ := exists_spelling_members (m :: members)
      obtain ⟨w', ws, rfl⟩ := List.exists_cons_of_length_eq_add_one hlength
      refine ⟨(⟨[], key, []⟩, ⟨[], w, []⟩) :: w' :: ws, by simpa using hlength, ?_, ?_⟩
      · simp [Spelling.memberChars, memberChars, keyChars, spaceChars, hkey, hchars, hrest]
      · rw [Spelling.memberNodes, memberNodes, htext, hnode, hnodes]

end

end Value

/-- **The document of a printed value is its tree.** -/
theorem Document.ofBytes_render (v : Value) : ofBytes (Text.bytes v.render) = ⟨v.node, false⟩ := by
  obtain ⟨w, hchars, hnode⟩ := v.exists_spelling
  have hbytes : (Spaced.mk [] w []).bytes = Text.bytes v.render := by
    simp [Spaced.bytes, spaceChars, Value.render, hchars]
  rw [← hbytes, ofBytes_spelling, hnode]

namespace Spelling

/-- A value that is spelled as it is printed has the tree of what is printed. -/
theorem node_eq_of_render {w : Spelling} {v : Value} (h : String.ofList w.chars = v.render) :
    w.node = v.node := by
  have hbytes : (Spaced.mk [] w []).bytes = Text.bytes v.render := by
    simp [Spaced.bytes, spaceChars, h]
  have hdocument := Document.ofBytes_spelling ⟨[], w, []⟩
  rw [hbytes, Document.ofBytes_render] at hdocument
  exact (congrArg Document.root hdocument).symm

/-- **A value of the grammar can be passed by**, whatever stands in it. -/
theorem skip_node (w : Spelling) : w.node.skip = .ok () := by
  cases w <;> rfl

end Spelling

/-- A reader of a text of the grammar looks at its tree. -/
theorem Reader.ofBytes_spelling {α : Type} (r : Reader α) (text : Spaced Spelling) :
    r.ofBytes text.bytes = r.node depthLimit text.it.node := by
  rw [ofBytes, Document.ofBytes_spelling]
  cases r.node depthLimit text.it.node <;> rfl

/-- A reader of a printed value looks at its tree. -/
theorem Reader.ofBytes_render {α : Type} (r : Reader α) (v : Value) :
    r.ofBytes (Text.bytes v.render) = r.node depthLimit v.node := by
  rw [ofBytes, Document.ofBytes_render v]
  cases r.node depthLimit v.node <;> rfl

end FanControl.Json

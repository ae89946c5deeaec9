import FanControl.Json.Document

/-!
# Spellings

The grammar of JSON, as the type of its parse trees. A `Spelling` is a value with everything that a
writer is free to choose: the blanks between tokens, the case of a hexadecimal digit, a character
that is escaped without need, a number with a zero behind its point. So **the texts of the grammar
are the `chars` of all spellings**, and nothing has to be said about which of them are well-formed.

A spelling knows the `node` that it stands for in a document. Nothing here scans: what a reader
makes of the characters is for proofs to say.

## Main definitions

* `StringSpelling`, `NumberSpelling`: tokens of which there are many;
* `Spelling.chars`, `Spelling.node`: the text of a value and its tree.
-/

namespace FanControl.Json

/-! ### Blanks -/

/-- What may stand between tokens. -/
inductive Space where
  | blank
  | tab
  | line
  | carriage
deriving DecidableEq, Repr

/-- The character of a blank. -/
def Space.char : Space → Char
  | blank => ' '
  | tab => '\t'
  | line => '\n'
  | carriage => '\r'

/-- The characters of some blanks. -/
def spaceChars (spaces : List Space) : List Char := spaces.map Space.char

/-- Something with the blanks around it. -/
structure Spaced (α : Type) where
  before : List Space
  it : α
  after : List Space

/-! ### Strings -/

/-- The escapes of one letter. -/
inductive Escape where
  | quote
  | backslash
  | slash
  | backspace
  | feed
  | line
  | carriage
  | tab
deriving DecidableEq, Repr

/-- The letter after the backslash. -/
def Escape.letter : Escape → Char
  | quote => '"'
  | backslash => '\\'
  | slash => '/'
  | backspace => 'b'
  | feed => 'f'
  | line => 'n'
  | carriage => 'r'
  | tab => 't'

/-- What an escape stands for. -/
def Escape.byte : Escape → UInt8
  | quote => 0x22
  | backslash => 0x5C
  | slash => 0x2F
  | backspace => 8
  | feed => 12
  | line => 10
  | carriage => 13
  | tab => 9

/-- A hexadecimal digit in either case. -/
structure HexDigit where
  value : Fin 16
  upper : Bool
deriving DecidableEq, Repr

/-- The character of a hexadecimal digit. -/
def HexDigit.char (d : HexDigit) : Char :=
  let c := Text.hexDigit d.value
  if d.upper then c.toUpper else c

/-- One element of a string. -/
inductive Glyph where
  /-- A character that stands for itself. -/
  | plain (c : Char) (quote : c ≠ '"') (slash : c ≠ '\\') (control : ¬ c.toNat < 32)
  | escape (e : Escape)
  /-- A sixteen-bit unit by its number. -/
  | unit (p q r s : HexDigit)

/-- The characters of an element. -/
def Glyph.chars : Glyph → List Char
  | plain c _ _ _ => [c]
  | escape e => ['\\', e.letter]
  | unit p q r s => ['\\', 'u', p.char, q.char, r.char, s.char]

/-- What an element stands for. -/
def Glyph.pieces : Glyph → List Piece
  | plain c _ _ _ => (String.utf8EncodeChar c).map .byte
  | escape e => [.byte e.byte]
  | unit p q r s => [.unit (((p.value.val * 16 + q.value) * 16 + r.value) * 16 + s.value)]

/-- A string. -/
structure StringSpelling where
  glyphs : List Glyph

namespace StringSpelling

/-- The characters of a string, its quotes included. -/
def chars (s : StringSpelling) : List Char := '"' :: (s.glyphs.flatMap Glyph.chars ++ ['"'])

/-- The string as it stands in a document. -/
def text (s : StringSpelling) : StringText := ⟨s.glyphs.flatMap Glyph.pieces, none⟩

end StringSpelling

/-! ### Numbers -/

/-- What some digits stand for, one by one. -/
def digitValues (cs : List Char) : List Nat := cs.map fun c => c.toNat - 48

/-- The characters of a sign. -/
def signChars (negative : Bool) : List Char := if negative then ['-'] else []

/-- What stands before the digits of an exponent. -/
structure ExponentMark where
  /-- Whether the letter is a capital. -/
  upper : Bool
  /-- Whether the sign is a minus sign, if there is one. -/
  sign : Option Bool
deriving DecidableEq, Repr

namespace ExponentMark

/-- The letter of the mark. -/
def letter (m : ExponentMark) : Char := if m.upper then 'E' else 'e'

/-- The characters of the sign. -/
def signChars (m : ExponentMark) : List Char :=
  match m.sign with
  | none => []
  | some down => [if down then '-' else '+']

/-- Whether the exponent is negative. -/
def down (m : ExponentMark) : Bool := m.sign.getD false

end ExponentMark

/-- A number: its parts are digits, there is a whole part, and it begins with a zero only if that
is all. -/
structure NumberSpelling where
  negative : Bool
  whole : List Char
  /-- The digits after the point, which is left out if there are none. -/
  fraction : List Char
  exponent : Option (ExponentMark × List Char)
  whole_digits : ∀ c ∈ whole, c.isDigit = true
  whole_ne_nil : whole ≠ []
  whole_head : whole.head? = some '0' → whole.length = 1
  fraction_digits : ∀ c ∈ fraction, c.isDigit = true
  exponent_digits : ∀ e ∈ exponent, e.2 ≠ [] ∧ ∀ c ∈ e.2, c.isDigit = true

namespace NumberSpelling

/-- The point and what follows it up to the exponent. -/
def fractionChars (n : NumberSpelling) : List Char :=
  match n.fraction with
  | [] => []
  | cs => '.' :: cs

/-- The exponent with its mark. -/
def exponentChars (n : NumberSpelling) : List Char :=
  match n.exponent with
  | none => []
  | some (mark, cs) => mark.letter :: (mark.signChars ++ cs)

/-- The characters of a number. -/
def chars (n : NumberSpelling) : List Char :=
  signChars n.negative ++ (n.whole ++ (n.fractionChars ++ n.exponentChars))

/-- The number as it stands in a document. -/
def text (n : NumberSpelling) : NumberText :=
  ⟨n.negative, digitValues n.whole, digitValues n.fraction,
    n.exponent.map fun (mark, cs) => (mark.down, digitValues cs)⟩

end NumberSpelling

/-! ### Values -/

/-- A value. What stands in an empty container are the `inner` blanks; in another one they come
before those of its first element. -/
inductive Spelling where
  | null
  | boolean (b : Bool)
  | number (n : NumberSpelling)
  | string (s : StringSpelling)
  | array (inner : List Space) (items : List (Spaced Spelling))
  | object (inner : List Space) (members : List (Spaced StringSpelling × Spaced Spelling))

/-- A key and its value, with a colon between them. -/
abbrev MemberSpelling := Spaced StringSpelling × Spaced Spelling

/-- A key with its colon. -/
def keyChars (key : Spaced StringSpelling) : List Char :=
  spaceChars key.before ++ (key.it.chars ++ (spaceChars key.after ++ [':']))

namespace Spelling

mutual

/-- The characters of a value. -/
def chars : Spelling → List Char
  | null => ['n', 'u', 'l', 'l']
  | boolean b => if b then ['t', 'r', 'u', 'e'] else ['f', 'a', 'l', 's', 'e']
  | number n => n.chars
  | string s => s.chars
  | array inner items => '[' :: (spaceChars inner ++ (itemChars items ++ [']']))
  | object inner members => '\x7b' :: (spaceChars inner ++ (memberChars members ++ ['\x7d']))

/-- The items of an array with commas between them. -/
def itemChars : List (Spaced Spelling) → List Char
  | [] => []
  | [⟨before, v, after⟩] => spaceChars before ++ (v.chars ++ spaceChars after)
  | ⟨before, v, after⟩ :: item :: rest =>
    spaceChars before ++ (v.chars ++ (spaceChars after ++ ',' :: itemChars (item :: rest)))

/-- The members of an object with commas between them. -/
def memberChars : List MemberSpelling → List Char
  | [] => []
  | [(key, ⟨before, v, after⟩)] =>
    keyChars key ++ (spaceChars before ++ (v.chars ++ spaceChars after))
  | (key, ⟨before, v, after⟩) :: member :: rest =>
    keyChars key ++ (spaceChars before ++ (v.chars ++ (spaceChars after ++
      ',' :: memberChars (member :: rest))))

end

mutual

/-- The value as it stands in a document. -/
def node : Spelling → Node
  | null => .null
  | boolean b => .boolean b
  | number n => .number n.text
  | string s => .string s.text
  | array _ items => .array (itemNodes items) .closed
  | object _ members => .object (memberNodes members) .closed

/-- The items of an array. -/
def itemNodes : List (Spaced Spelling) → List Node
  | [] => []
  | ⟨_, v, _⟩ :: rest => v.node :: itemNodes rest

/-- The members of an object. -/
def memberNodes : List MemberSpelling → List (StringText × Node)
  | [] => []
  | (⟨_, key, _⟩, ⟨_, v, _⟩) :: rest => (key.text, v.node) :: memberNodes rest

end

end Spelling

/-- The bytes of a text that holds a value and nothing else but blanks. -/
def Spaced.bytes (text : Spaced Spelling) : Bytes :=
  Text.bytes (String.ofList (spaceChars text.before ++ (text.it.chars ++ spaceChars text.after)))

end FanControl.Json

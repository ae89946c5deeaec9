import FanControl.Json.Error
import FanControl.Text.Bytes

/-!
# JSON tokens

The text of a body is cut into tokens. A token keeps what stands in the text and leaves its
meaning for later, because a value that nobody wants is held to looser rules: a number in it may
be of any size, and a string may hold lone halves of surrogate pairs or bytes that are no UTF-8.
`NumberText.value?` and `StringText.decode` say what the two mean where they are wanted.
-/

namespace FanControl.Json

open FloatingPoint

/-- One step of a string: a byte that stands for itself, or a sixteen-bit unit given by number. -/
inductive Piece where
  | byte (b : UInt8)
  | unit (u : Nat)
deriving DecidableEq, Repr

/-- A string as it stands in a text, up to its closing quote or to where it cannot go on. -/
structure StringText where
  pieces : List Piece
  /-- Why the string has no end. -/
  cut : Option Fault
deriving DecidableEq, Repr

/-- The digits of a number as they stand in a text. -/
structure NumberText where
  negative : Bool
  whole : List Nat
  /-- The digits after the point, if there is one. -/
  fraction : List Nat
  /-- Sign and digits after the `e`, if there is one. -/
  exponent : Option (Bool × List Nat)
deriving DecidableEq, Repr

/-- A token. -/
inductive Token where
  | openArray
  | closeArray
  | openObject
  | closeObject
  | colon
  | comma
  | null
  | boolean (b : Bool)
  | number (t : NumberText)
  | string (t : StringText)
  /-- What is no token, with the fault seen by a reader that wants a value here and the one seen
  by a reader that only passes by. -/
  | broken (kept skipped : Fault)
deriving DecidableEq, Repr

/-! ### Strings -/

/-- What a backslash and a letter other than `u` stand for. -/
def escaped? (b : UInt8) : Option UInt8 :=
  if b = 0x22 ∨ b = 0x5C ∨ b = 0x2F then some b
  else if b = 0x62 then some 8
  else if b = 0x66 then some 12
  else if b = 0x6E then some 10
  else if b = 0x72 then some 13
  else if b = 0x74 then some 9
  else none

/-- The unit that four hexadecimal digits stand for. -/
def unit? (a b c d : UInt8) : Option Nat := do
  let a ← Text.hexValue? a
  let b ← Text.hexValue? b
  let c ← Text.hexValue? c
  let d ← Text.hexValue? d
  return ((a * 16 + b) * 16 + c) * 16 + d

/-- Reads a string after its opening quote; `before` holds the pieces so far, the last one
first. -/
def StringText.scan (before : List Piece) : Bytes → StringText × Bytes
  | [] => (⟨before.reverse, some .ended⟩, [])
  | b :: rest =>
    if b = 0x22 then (⟨before.reverse, none⟩, rest)
    else if b = 0x5C then
      match rest with
      | [] => (⟨before.reverse, some .ended⟩, [])
      | e :: more =>
        if e = 0x75 then
          match more with
          | p :: q :: r :: s :: more =>
            match unit? p q r s with
            | some u => scan (.unit u :: before) more
            | none => (⟨before.reverse, some .malformed⟩, [])
          | _ => (⟨before.reverse, some .ended⟩, [])
        else
          match escaped? e with
          | some b => scan (.byte b :: before) more
          | none => (⟨before.reverse, some .malformed⟩, [])
    else if b < 0x20 then (⟨before.reverse, some .malformed⟩, [])
    else scan (.byte b :: before) rest

/-- The first half of a surrogate pair. -/
def isLeadingSurrogate (u : Nat) : Bool := decide (0xD800 ≤ u ∧ u ≤ 0xDBFF)

/-- The second half of a surrogate pair. -/
def isTrailingSurrogate (u : Nat) : Bool := decide (0xDC00 ≤ u ∧ u ≤ 0xDFFF)

/-- The encoding of the character with a number. -/
def charBytes (n : Nat) : Bytes := String.utf8EncodeChar (Char.ofNat n)

/-- The bytes of a string after those in `before`, the last one first. A surrogate counts only as
half of a pair. -/
def decodePieces (cut : Option Fault) (before : Bytes) : List Piece → Except Fault Bytes
  | [] =>
    match cut with
    | some fault => .error fault
    | none => .ok before.reverse
  | .byte b :: rest => decodePieces cut (b :: before) rest
  | .unit u :: rest =>
    if isTrailingSurrogate u then .error .malformed
    else if isLeadingSurrogate u then
      match rest with
      | .unit v :: rest =>
        if isTrailingSurrogate v then
          let n := 0x10000 + (u - 0xD800) * 0x400 + (v - 0xDC00)
          decodePieces cut ((charBytes n).reverse ++ before) rest
        else .error .malformed
      | .byte _ :: _ => .error .malformed
      | [] => .error (cut.getD .malformed)
    else decodePieces cut ((charBytes u).reverse ++ before) rest

/-- The text that a string stands for. -/
def StringText.decode (t : StringText) : Except Fault String := do
  let bs ← decodePieces t.cut [] t.pieces
  match Text.ofBytes? bs with
  | some s => .ok s
  | none => .error .malformed

/-! ### Numbers -/

/-- The digits at the front of the bytes, and what comes after them. -/
def scanDigits (bs : Bytes) : List Nat × Bytes :=
  let (digits, rest) := bs.span fun b => (Text.digit? b).isSome
  (digits.filterMap Text.digit?, rest)

/-- Digits where at least one has to be. -/
def scanSomeDigits (bs : Bytes) : Except Fault (List Nat × Bytes) :=
  match scanDigits bs with
  | ([], []) => .error .ended
  | ([], _ :: _) => .error .malformed
  | found => .ok found

/-- Whether a minus sign comes first, and what comes after it. -/
def scanMinus : Bytes → Bool × Bytes
  | 0x2D :: rest => (true, rest)
  | bs => (false, bs)

/-- Whether a sign that comes first is a minus sign, and what comes after it. -/
def scanSign : Bytes → Bool × Bytes
  | 0x2B :: rest => (false, rest)
  | bs => scanMinus bs

/-- The digits after a point, if there is one. -/
def scanFraction : Bytes → Except Fault (List Nat × Bytes)
  | 0x2E :: rest => scanSomeDigits rest
  | bs => .ok ([], bs)

/-- Sign and digits after an `e`, if there is one. -/
def scanExponent : Bytes → Except Fault (Option (Bool × List Nat) × Bytes)
  | [] => .ok (none, [])
  | b :: rest =>
    if b = 0x65 ∨ b = 0x45 then
      let (down, rest) := scanSign rest
      (fun (digits, bs) => (some (down, digits), bs)) <$> scanSomeDigits rest
    else .ok (none, b :: rest)

/-- Reads a number. No digit may follow a zero it starts with. -/
def NumberText.scan (bs : Bytes) : Except Fault (NumberText × Bytes) := do
  let (negative, bs) := scanMinus bs
  let (whole, bs) ← scanSomeDigits bs
  if whole.head? = some 0 ∧ 1 < whole.length then
    .error .malformed
  else
    let (fraction, bs) ← scanFraction bs
    let (exponent, bs) ← scanExponent bs
    return (⟨negative, whole, fraction, exponent⟩, bs)

/-- Takes digits into a significand as long as it fits in 64 bits; the others are left. -/
def absorb (significand : Nat) : List Nat → Nat × List Nat
  | [] => (significand, [])
  | d :: ds =>
    if significand * 10 + d < 0x10000000000000000 then absorb (significand * 10 + d) ds
    else (significand, d :: ds)

/-- A power of ten, rounded. -/
def tenTo (n : Nat) : Datum .double := .ofInt .double (Nat.pow 10 n)

/-- A significand times a power of ten, by one multiplication or by as many divisions as the
largest power of ten in range makes necessary; two such divisions leave nothing of a 64-bit
significand. There is no result when it would be infinite. -/
def scaleByTen? (significand : Nat) (e : Int) : Option (Datum .double) :=
  let x := Datum.ofInt .double significand
  if 0 ≤ e then
    if e ≤ 308 then
      let y := x.mul (tenTo e.toNat)
      if y.isFinite then some y else none
    else if significand = 0 then some x else none
  else
    let n := (-e).toNat
    if n ≤ 308 then some (x.div (tenTo n))
    else if n ≤ 616 then some ((x.div (tenTo 308)).div (tenTo (n - 308)))
    else some (.finite false 0)

/-- The number that digits stand for. Without a point, an exponent or too many digits it is a
64-bit integer, except that there is no negative zero among these. Otherwise as many digits as
fit make up the significand: digits of the whole part that do not fit still count as places, and
those of the fraction are ignored. -/
def NumberText.value? (t : NumberText) : Option Number :=
  let (whole, dropped) := absorb 0 t.whole
  if t.fraction = [] ∧ t.exponent = none ∧ dropped = [] then
    if !t.negative then some (.integer whole)
    else if 0 < whole ∧ whole ≤ 0x8000000000000000 then some (.integer (-whole))
    else some (.double (Datum.ofInt .double whole).neg)
  else
    let (significand, ignored) := absorb whole t.fraction
    let places : Int := dropped.length - (t.fraction.length - ignored.length : Nat)
    let e : Int := match t.exponent with
      | none => 0
      | some (down, digits) =>
        let n : Nat := digits.foldl (fun n d => n * 10 + d) 0
        if down then -n else n
    (scaleByTen? significand (places + e)).map fun x =>
      .double (if t.negative then x.neg else x)

/-! ### Tokens -/

/-- What may stand between tokens. -/
def isSpace (b : UInt8) : Bool := b == 0x20 || b == 0x09 || b == 0x0A || b == 0x0D

/-- What follows a word, if the bytes start with it. -/
def matchWord : (word : Bytes) → Bytes → Except Fault Bytes
  | [], rest => .ok rest
  | _ :: _, [] => .error .ended
  | w :: word, b :: rest => if b = w then matchWord word rest else .error .malformed

/-- A word whose first letter has been read. -/
def Token.word (token : Token) (letters : String) (rest : Bytes) : Token × Bytes :=
  match matchWord (Text.bytes letters) rest with
  | .ok rest => (token, rest)
  | .error fault => (.broken fault fault, [])

/-- The token that starts with a byte. A number that is cut short is malformed for one who only
passes by. -/
def Token.read (b : UInt8) (rest : Bytes) : Token × Bytes :=
  if b = 0x5B then (.openArray, rest)
  else if b = 0x5D then (.closeArray, rest)
  else if b = 0x7B then (.openObject, rest)
  else if b = 0x7D then (.closeObject, rest)
  else if b = 0x3A then (.colon, rest)
  else if b = 0x2C then (.comma, rest)
  else if b = 0x22 then
    let (t, rest) := StringText.scan [] rest
    (.string t, rest)
  else if b = 0x6E then word .null "ull" rest
  else if b = 0x74 then word (.boolean true) "rue" rest
  else if b = 0x66 then word (.boolean false) "alse" rest
  else if b = 0x2D ∨ (Text.digit? b).isSome then
    match NumberText.scan (b :: rest) with
    | .ok (t, rest) => (.number t, rest)
    | .error fault => (.broken fault .malformed, [])
  else (.broken .malformed .malformed, [])

/-- The next token, unless only blanks are left. -/
def Token.next? (bs : Bytes) : Option (Token × Bytes) :=
  match bs.dropWhile isSpace with
  | [] => none
  | b :: rest => some (Token.read b rest)

end FanControl.Json

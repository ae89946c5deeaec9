import FanControl.Http.MediaType
import FanControl.Text.Bytes
import FanControl.Text.Quoted

/-!
# Forms in parts

A file is uploaded as a part of a form. Each part stands between two lines that hold the boundary,
and starts with lines of its own that give its name; two more dashes after the boundary end the
form. A form may break off, and then it matters whether it did so inside a part.

## Main definitions

* `encodeForm`: the body of a form;
* `parseForm`: the parts of a body, and where it breaks off.
-/

namespace FanControl.Http

/-- One part of a form. -/
structure Part where
  name : Option String
  fileName : Option String
  contentType : Option String
  data : Bytes
deriving DecidableEq, Repr

/-- How a form breaks off. -/
inductive FormFault where
  /-- Between parts. -/
  | incompleteStream
  /-- In the lines at the start of a part. -/
  | incompleteHeaders
  /-- In the data of a part. -/
  | incompleteData (name : Option String)
deriving DecidableEq, Repr

/-- The wording of a fault. -/
def FormFault.message : FormFault → String
  | incompleteStream => "incomplete multipart stream"
  | incompleteHeaders => "failed to read complete headers"
  | incompleteData name =>
    "field " ++ Text.quoted (name.getD "<unknown>") ++ " received with incomplete data"

/-! ### Writing -/

/-- The end of a line. -/
def lineEnd : Bytes := [0x0D, 0x0A]

/-- A character of a value between quotes. A backslash stands before what would end the value or
its line. -/
def quoteChar (c : Char) : List Char :=
  if c = '"' ∨ c = '\\' ∨ c = '\r' ∨ c = '\n' then ['\\', c] else [c]

/-- A value between quotes. -/
def quoteValue (s : String) : String :=
  String.ofList ('"' :: (s.toList.flatMap quoteChar ++ ['"']))

/-- A parameter of a line, if it has a value. -/
def parameterText (key : String) : Option String → String
  | some s => "; " ++ key ++ "=" ++ quoteValue s
  | none => ""

/-- The line that names a part. -/
def dispositionLine (p : Part) : String :=
  "Content-Disposition: form-data" ++ parameterText "name" p.name ++
    parameterText "filename" p.fileName

/-- The line that says what is in a part. -/
def contentLine (contentType : String) : String := "Content-Type: " ++ contentType

/-- The lines at the start of a part. -/
def partHeaders (p : Part) : Bytes :=
  let named := Text.bytes (dispositionLine p)
  match p.contentType with
  | some s => named ++ lineEnd ++ Text.bytes (contentLine s)
  | none => named

/-- The body of a form, with or without its end. -/
def encodeForm (boundary : String) (parts : List Part) (complete : Bool) : Bytes :=
  let dashed := Text.bytes ("--" ++ boundary)
  let opened := parts.flatMap fun p =>
    dashed ++ lineEnd ++ partHeaders p ++ lineEnd ++ lineEnd ++ p.data ++ lineEnd
  if complete then opened ++ dashed ++ [0x2D, 0x2D] ++ lineEnd else opened

/-! ### Reading -/

/-- The bytes before the first occurrence of a pattern, and those after it; `before` holds the
bytes so far, the last one first. -/
def breakOn (pattern : Bytes) (before : Bytes) : Bytes → Option (Bytes × Bytes)
  | [] => if pattern.isEmpty then some (before.reverse, []) else none
  | b :: rest =>
    if pattern.isPrefixOf (b :: rest) then
      some (before.reverse, (b :: rest).drop pattern.length)
    else breakOn pattern (b :: before) rest

/-- A quoted value, up to its closing quote. -/
def unquoteValue : List Char → List Char
  | [] => []
  | '"' :: _ => []
  | '\\' :: c :: rest => c :: unquoteValue rest
  | c :: rest => c :: unquoteValue rest

/-- The value of a parameter among those of a line. A parameter follows a semicolon or a blank. -/
def parameter? (name : List Char) (previous : Char) : List Char → Option String
  | [] => none
  | c :: rest =>
    if (previous = ';' ∨ previous = ' ') ∧ (name ++ ['=']).isPrefixOf (c :: rest) then
      match (c :: rest).drop (name.length + 1) with
      | '"' :: value => some (String.ofList (unquoteValue value))
      | value => some (String.ofList (value.takeWhile fun c => c ≠ ';' ∧ c ≠ ' '))
    else parameter? name c rest

/-- The value of the line with a name, among the lines at the start of a part. -/
def headerLine? (name : String) (lines : List (List Char)) : Option (List Char) :=
  lines.findSome? fun line =>
    let (key, value) := line.span (· ≠ ':')
    if MediaType.lower key = name then some (value.drop 1) else none

/-- The lines of a text. -/
def linesOf (before : List Char) : List Char → List (List Char)
  | [] => [before.reverse]
  | '\r' :: '\n' :: rest => before.reverse :: linesOf [] rest
  | c :: rest => linesOf (c :: before) rest

/-- The part with some lines at its start and its data. -/
def partOf (headers data : Bytes) : Part :=
  let lines := linesOf [] ((Text.ofBytes? headers).getD "").toList
  let disposition := (headerLine? "content-disposition" lines).getD []
  { name := parameter? ['n', 'a', 'm', 'e'] ' ' disposition
    fileName := parameter? ['f', 'i', 'l', 'e', 'n', 'a', 'm', 'e'] ' ' disposition
    contentType := (headerLine? "content-type" lines).map fun cs =>
      String.ofList (cs.dropWhile (· = ' '))
    data }

/-- The parts after a boundary, of which there are at most `n`. -/
def partsAfter (dashed : Bytes) : Nat → Bytes → List Part × Option FormFault
  | 0, _ => ([], some .incompleteStream)
  | n + 1, bs =>
    if [0x2D, 0x2D].isPrefixOf bs then ([], none)
    else
      match bs.dropWhile fun b => b = 0x20 ∨ b = 0x09 with
      | 0x0D :: 0x0A :: bs =>
        match breakOn (lineEnd ++ lineEnd) [] bs with
        | none => ([], some .incompleteHeaders)
        | some (headers, bs) =>
          match breakOn (lineEnd ++ dashed) [] bs with
          | none => ([], some (.incompleteData (partOf headers []).name))
          | some (data, bs) =>
            let (parts, fault) := partsAfter dashed n bs
            (partOf headers data :: parts, fault)
      | _ => ([], some .incompleteStream)

/-- The complete parts of a form, and the fault where it breaks off. -/
def parseForm (boundary : String) (body : Bytes) : List Part × Option FormFault :=
  let dashed := Text.bytes ("--" ++ boundary)
  match breakOn dashed [] body with
  | none => ([], some .incompleteStream)
  | some (_, bs) => partsAfter dashed (bs.length + 1) bs

end FanControl.Http

/-!
# Media types

The header that says what a body is: a kind and a subtype, which may end in a suffix after a plus
sign, and parameters. Letters count the same in both cases, except in the values of parameters.
-/

namespace FanControl.Http

/-- What a body is. -/
structure MediaType where
  kind : String
  /-- Up to the suffix. -/
  subtype : String
  suffix : Option String
  parameters : List (String × String)
deriving DecidableEq, Repr

namespace MediaType

/-- A character that needs no quotes. -/
def isTokenChar (c : Char) : Bool :=
  c.isAlphanum || "!#$%&'*+-.^_`|~".toList.contains c

/-- A quoted value up to its closing quote, and what comes after it. -/
def quotedValue? (before : List Char) : List Char → Option (List Char × List Char)
  | [] => none
  | '"' :: rest => if before.isEmpty then none else some (before.reverse, rest)
  | '\\' :: c :: rest => quotedValue? (c :: '\\' :: before) rest
  | c :: rest => if c.toNat < 32 ∨ c.toNat = 127 then none else quotedValue? (c :: before) rest

/-- The text of characters in lower case. -/
def lower (cs : List Char) : String := String.ofList (cs.map Char.toLower)

/-- The parameters after a semicolon, of which there are at most `n`. -/
def parameters? : Nat → List Char → Option (List (String × String))
  | 0, _ => none
  | n + 1, cs =>
    match cs.dropWhile (· = ' ') with
    | [] => some []
    | cs =>
      match cs.span isTokenChar with
      | (c :: name, '=' :: '"' :: rest) => do
        let (value, rest) ← quotedValue? [] rest
        let more ← match rest.dropWhile (· = ' ') with
          | [] => some []
          | ';' :: rest => parameters? n rest
          | _ => none
        return (lower (c :: name), String.ofList value) :: more
      | (c :: name, '=' :: rest) =>
        match rest.span isTokenChar with
        | (value, []) => some [(lower (c :: name), String.ofList value)]
        | (v :: value, ';' :: rest) => do
          let more ← parameters? n rest
          return (lower (c :: name), String.ofList (v :: value)) :: more
        | _ => none
      | _ => none

/-- Splits a subtype before its last plus sign, unless that is its first character. -/
def splitSuffix (cs : List Char) : List Char × Option (List Char) :=
  let (suffix, rest) := cs.reverse.span (· ≠ '+')
  match rest.drop 1 with
  | [] => (cs, none)
  | subtype => (subtype.reverse, some suffix.reverse)

/-- The media type that a header names. -/
def parse? (header : String) : Option MediaType := do
  let cs := header.toList
  match cs.span isTokenChar with
  | (k :: kind, '/' :: rest) =>
    let (subtype, rest) := rest.span isTokenChar
    let parameters ← match rest with
      | [] => some []
      | ';' :: rest => if subtype.isEmpty then none else parameters? (rest.length + 1) rest
      | _ => none
    let (subtype, suffix) := splitSuffix subtype
    return ⟨lower (k :: kind), lower subtype, suffix.map lower, parameters⟩
  | _ => none

/-- Whether a body is JSON: `application/json`, or another kind of `application` with the suffix
`json`. -/
def isJson (m : MediaType) : Bool :=
  m.kind == "application" && (m.subtype == "json" || m.suffix == some "json")

/-- The boundary between the parts of a form. -/
def formBoundary? (m : MediaType) : Option String :=
  if m.kind = "multipart" ∧ m.subtype = "form-data" ∧ m.suffix = none then
    m.parameters.lookup "boundary"
  else none

end MediaType

end FanControl.Http

/-!
# Numbers written in digits

The strict readers of decimal numbers: a text is a number from its first character to its last, or
it is none.
-/

namespace FanControl.Text

/-- What a run of decimal digits stands for. No digits are no number. -/
def decimal? (cs : List Char) : Option Nat :=
  if cs.isEmpty || cs.any fun c => !c.isDigit then none
  else some (cs.foldl (fun n c => n * 10 + (c.toNat - 48)) 0)

/-- The number of 64 bits that a text stands for, with or without a plus sign. -/
def uint64? (s : String) : Option UInt64 := do
  let n ← decimal? (match s.toList with
    | '+' :: rest => rest
    | cs => cs)
  if n < 0x10000000000000000 then some (UInt64.ofNat n) else none

/-- The number of 64 bits with a sign that a text stands for. -/
def int64? (s : String) : Option Int64 := do
  match s.toList with
  | '-' :: rest =>
    let n ← decimal? rest
    if n ≤ 0x8000000000000000 then some (Int64.ofInt (-n)) else none
  | cs =>
    let n ← decimal? (match cs with
      | '+' :: rest => rest
      | cs => cs)
    if n < 0x8000000000000000 then some (Int64.ofNat n) else none

end FanControl.Text

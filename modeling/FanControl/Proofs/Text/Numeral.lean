import FanControl.Form
import FanControl.Proofs.Clamp
import FanControl.Proofs.Json.Number
import FanControl.Proofs.Text.Blank
import FanControl.Proofs.Text.Bytes
import FanControl.Text.Numeral

/-!
# The number that a field counts for

A field counts for the number that its text begins with, counted up digit by digit and never beyond
the largest machine word. Stopping at each digit is stopping once, at the end, so it is **the number
itself, or the nearest one that a machine word can hold with either sign**. A setting holds it
within a narrower range, and then it does not show that a machine word was too small.

The scan of the bytes cuts the text after its sign and after its digits. Both of these are single
bytes, and what comes next begins a character; so each cut is possible, and the scan never breaks
off.

## Main results

* `Text.Numeral.eq`, `Text.Numeral.exists_numeral`: one way to take a text apart;
* `toInt_leadingInt`: what a text counts for;
* `toNat_clampByte_leadingInt`, `toInt_clampInt32_leadingInt`: what it makes of a setting;
* `Text.scanInt?_eq`: the scan;
* `Text.Numeral.exists_ofNat`, `Text.Numeral.exists_ofInt`: printed numbers.
-/

namespace FanControl

namespace Text

/-! ### Numerals -/

/-- A sign is written in one way. -/
theorem Sign.char_inj {σ τ : Sign} (h : σ.char = τ.char) : σ = τ := by
  cases σ <;> cases τ <;> first | rfl | exact absurd h (by decide)

namespace Numeral

variable {s : String}

/-- A text without the blanks in front is its sign, its digits and the rest. -/
theorem dropWhile_eq (n : Numeral s) :
    s.toList.dropWhile isBlank = Sign.chars? n.sign ++ (n.digits ++ n.rest) :=
  dropWhile_eq_iff.mpr ⟨n.blanks, n.parts, n.blank, n.begun⟩

/-- The digits of a numeral end where the rest begins. -/
theorem span_eq (n : Numeral s) : (n.digits ++ n.rest).span Char.isDigit = (n.digits, n.rest) :=
  span_append n.digit n.ended

/-- All digits that come are digits of the numeral. -/
theorem takeWhile_eq (n : Numeral s) : (n.digits ++ n.rest).takeWhile Char.isDigit = n.digits := by
  have hspan := n.span_eq
  rw [List.span_eq_takeWhile_dropWhile] at hspan
  exact (Prod.mk.inj hspan).1

/-- **There is one way to take a text apart.** -/
theorem eq (n m : Numeral s) : n = m := by
  have htail := n.dropWhile_eq.symm.trans m.dropWhile_eq
  have hsign : n.sign = m.sign ∧ n.digits ++ n.rest = m.digits ++ m.rest := by
    have hn := n.unsigned
    have hm := m.unsigned
    have hchar (σ : Sign) : σ.char = '+' ∨ σ.char = '-' := by cases σ <;> simp [Sign.char]
    revert htail hn hm
    cases n.sign <;> cases m.sign
    case none.none => exact fun htail _ _ => ⟨rfl, htail⟩
    case some.some σ τ =>
      intro htail _ _
      obtain ⟨hhead, htail⟩ := List.cons.inj htail
      exact ⟨congrArg some (Sign.char_inj hhead), htail⟩
    case none.some τ =>
      intro htail hn _
      have := hn rfl τ.char (by
        change n.digits ++ n.rest = τ.char :: _ at htail
        rw [htail]
        rfl)
      rcases hchar τ with h | h <;> simp [h] at this
    case some.none σ =>
      intro htail _ hm
      have := hm rfl σ.char (by
        change σ.char :: _ = m.digits ++ m.rest at htail
        rw [← htail]
        rfl)
      rcases hchar σ with h | h <;> simp [h] at this
  have hspan := n.span_eq.symm.trans ((congrArg (List.span Char.isDigit) hsign.2).trans m.span_eq)
  obtain ⟨hdigits, hrest⟩ := Prod.mk.inj hspan
  have hblanks : n.blanks = m.blanks := by
    have hparts := n.parts.symm.trans m.parts
    rw [hsign.1, hsign.2] at hparts
    exact List.append_cancel_right hparts
  obtain ⟨blanks, sign, digits, rest, _, _, _, _, _, _⟩ := n
  obtain ⟨_, _, _, _, _, _, _, _, _, _⟩ := m
  obtain rfl := hblanks
  obtain rfl := hsign.1
  obtain rfl := hdigits
  obtain rfl := hrest
  rfl

/-- A text begins with a sign, or with something that is not one. -/
theorem exists_sign (cs : List Char) : ∃ sign rest, cs = Sign.chars? sign ++ rest ∧
    (sign = none → ∀ c ∈ rest.head?, c ≠ '+' ∧ c ≠ '-') := by
  by_cases hplus : cs.head? = some '+'
  · obtain ⟨rest, rfl⟩ := List.head?_eq_some_iff.mp hplus
    exact ⟨some .plus, rest, rfl, fun h => by cases h⟩
  · by_cases hminus : cs.head? = some '-'
    · obtain ⟨rest, rfl⟩ := List.head?_eq_some_iff.mp hminus
      exact ⟨some .minus, rest, rfl, fun h => by cases h⟩
    · refine ⟨none, cs, rfl, fun _ c hc => ⟨?_, ?_⟩⟩
      · rintro rfl
        exact hplus hc
      · rintro rfl
        exact hminus hc

/-- **Every text can be taken apart.** -/
theorem exists_numeral (s : String) : Nonempty (Numeral s) := by
  obtain ⟨blanks, hparts, hblank, hbegun⟩ :=
    dropWhile_eq_iff.mp (rfl : s.toList.dropWhile isBlank = _)
  generalize s.toList.dropWhile isBlank = cs at hparts hbegun
  obtain ⟨sign, ds, rfl, hunsigned⟩ := exists_sign cs
  obtain ⟨digits, hds, hdigit, hended⟩ := dropWhile_eq_iff.mp (rfl : ds.dropWhile Char.isDigit = _)
  rw [hds] at hparts hbegun hunsigned
  exact ⟨⟨blanks, sign, digits, _, hparts, hblank, hbegun, hunsigned, hdigit, hended⟩⟩

end Numeral

end Text

open Text

/-! ### Counting up -/

/-- **Stopping at the largest number at each digit is stopping there once.** -/
theorem foldl_appendDigit {digits : List Char} (n : Nat) :
    digits.foldl appendDigit (min n 0x7FFFFFFFFFFFFFFF) =
      min (Nat.ofDigitChars 10 digits n) 0x7FFFFFFFFFFFFFFF := by
  induction digits generalizing n with
  | nil => rfl
  | cons c digits ih =>
      have hstep : appendDigit (min n 0x7FFFFFFFFFFFFFFF) c =
          min (10 * n + (c.toNat - '0'.toNat)) 0x7FFFFFFFFFFFFFFF := by
        have hzero : '0'.toNat = 48 := rfl
        rw [appendDigit, hzero]
        omega
      rw [List.foldl_cons, hstep, ih, Nat.ofDigitChars_cons]

/-- **What a field counts for** is the number that it begins with, unless that is too large. -/
theorem leadingInt_eq {s : String} (n : Numeral s) :
    leadingInt s = Int64.ofInt (n.factor * (min n.magnitude 0x7FFFFFFFFFFFFFFF : Nat)) := by
  have hmagnitude : n.digits.foldl appendDigit 0 = min n.magnitude 0x7FFFFFFFFFFFFFFF :=
    foldl_appendDigit 0
  simp only [leadingInt, n.dropWhile_eq]
  cases hsign : n.sign with
  | some σ =>
      cases σ <;>
        simp [Sign.chars?, Sign.char, Numeral.factor, Sign.factor, hsign, n.takeWhile_eq,
          hmagnitude]
  | none =>
      have hunsigned := n.unsigned hsign
      have htake := n.takeWhile_eq
      rw [show Sign.chars? none ++ (n.digits ++ n.rest) = n.digits ++ n.rest from rfl]
      generalize n.digits ++ n.rest = cs at hunsigned htake
      split
      · exact absurd rfl (hunsigned '-' rfl).2
      · exact absurd rfl (hunsigned '+' rfl).1
      · simp [htake, hmagnitude, Numeral.factor, hsign]

/-- A sign makes a number what it is or its opposite. -/
theorem Text.Numeral.factor_cases {s : String} (n : Numeral s) : n.factor = 1 ∨ n.factor = -1 := by
  rw [Numeral.factor]
  rcases n.sign with _ | σ
  · exact .inl rfl
  · cases σ
    · exact .inl rfl
    · exact .inr rfl

/-- A text is read as the number that it begins with, whose magnitude is cut off where 64 bits
cannot hold it with either sign. -/
theorem toInt_leadingInt {s : String} (n : Numeral s) :
    (leadingInt s).toInt = n.factor * (min n.magnitude 0x7FFFFFFFFFFFFFFF : Nat) := by
  rw [leadingInt_eq n]
  generalize n.magnitude = m
  rcases n.factor_cases with h | h <;> rw [h] <;> refine Int64.toInt_ofInt_of_le ?_ ?_ <;> omega

/-- **Holding the number within a narrower range** makes up for stopping at the largest one. -/
theorem clamp_leadingInt {s : String} (n : Numeral s) (low high : Int)
    (hlow : -0x7FFFFFFFFFFFFFFF ≤ low) (hhigh : high ≤ 0x7FFFFFFFFFFFFFFF) (hle : low ≤ high) :
    max low (min high (leadingInt s).toInt) = max low (min high n.value) := by
  rw [toInt_leadingInt n, Numeral.value]
  generalize n.magnitude = m
  rcases n.factor_cases with h | h <;> rw [h] <;> omega

/-- A byte of a setting is the number that its field begins with, held within its range. -/
theorem toNat_clampByte_leadingInt {s : String} (n : Numeral s) {top : Nat} (htop : top ≤ 255) :
    ((clampByte top (leadingInt s)).toNat : Int) = max 0 (min (top : Int) n.value) := by
  have hclamp := clamp_leadingInt n 0 top (by decide) (by omega) (by omega)
  rw [clampByte, UInt8.toNat_ofNat', Nat.mod_eq_of_lt (by omega)]
  omega

/-- A bound of a band is the number that its field begins with, held within 32 bits. -/
theorem toInt_clampInt32_leadingInt {s : String} (n : Numeral s) :
    (clampInt32 (leadingInt s)).toInt = max (-0x80000000) (min 0x7FFFFFFF n.value) := by
  have hclamp := clamp_leadingInt n (-0x80000000) 0x7FFFFFFF (by decide) (by decide)
    (by decide)
  rw [clampInt32, hclamp]
  exact Int32.toInt_ofInt_of_le (by omega) (by omega)

/-! ### Printed numbers -/

namespace Text.Numeral

/-- The digits of a number, with or without a sign, are all of its text. -/
theorem exists_toDigits {s : String} (sign : Option Sign) (n : Nat)
    (hs : s.toList = Sign.chars? sign ++ Nat.toDigits 10 n) :
    ∃ m : Numeral s, m.value = sign.elim 1 Sign.factor * n := by
  have hdigit (c : Char) (hc : c ∈ Nat.toDigits 10 n) : c.isDigit = true :=
    Json.isDigit_of_mem_toDigits hc
  have hplain {c : Char} (hc : c.isDigit = true) :
      isBlank c = false ∧ c ≠ '+' ∧ c ≠ '-' := by
    have hrange := Json.isDigit_range hc
    refine ⟨?_, ?_, ?_⟩
    · simp [isBlank]
      omega
    · rintro rfl
      exact absurd hc (by decide)
    · rintro rfl
      exact absurd hc (by decide)
  refine ⟨⟨[], sign, Nat.toDigits 10 n, [], by simpa using hs, by simp, ?_, ?_, hdigit, by simp⟩,
    ?_⟩
  · intro c hc
    cases sign with
    | none => exact (hplain (hdigit c (List.mem_of_head? (by simpa [Sign.chars?] using hc)))).1
    | some σ =>
        obtain rfl := Option.some.inj hc
        cases σ <;> decide
  · intro _ c hc
    exact (hplain (hdigit c (List.mem_of_head? (by simpa using hc)))).2
  · exact congrArg (fun n : Nat => sign.elim 1 Sign.factor * (n : Int))
      Nat.ofDigitChars_ten_toDigits

/-- **A printed number begins with itself.** -/
theorem exists_ofNat (n : Nat) : ∃ m : Numeral (toString n), m.value = n := by
  obtain ⟨m, hm⟩ := exists_toDigits none n (s := toString n) Nat.toList_repr
  exact ⟨m, hm.trans (Int.one_mul _)⟩

/-- A printed number with a sign begins with itself. -/
theorem exists_ofInt (i : Int) : ∃ m : Numeral (toString i), m.value = i := by
  by_cases hpos : 0 ≤ i
  · rw [Int.toString_eq_repr, Int.repr_eq_if, if_pos hpos]
    obtain ⟨m, hm⟩ := exists_ofNat i.toNat
    exact ⟨m, hm.trans (Int.toNat_of_nonneg hpos)⟩
  · rw [Int.toString_eq_repr, Int.repr_eq_if, if_neg hpos]
    obtain ⟨m, hm⟩ := exists_toDigits (some .minus) (-i).toNat (s := "-" ++ (-i).toNat.repr)
      (by rw [String.toList_append, Nat.toList_repr]; rfl)
    refine ⟨m, hm.trans ?_⟩
    change -1 * ((-i).toNat : Int) = i
    omega

end Text.Numeral

namespace Text

/-! ### Cuts between characters -/

/-- **No character begins with a byte that goes on with one.** -/
theorem not_continuation_of_mem_head? {c : Char} {b : UInt8}
    (h : b ∈ (String.utf8EncodeChar c).head?) : ¬(0x80 ≤ b.toNat ∧ b.toNat < 0xC0) := by
  have hbyte {x k : Nat} (hk : 0xC0 ≤ k) (hx : x + k < 256) :
      ¬(0x80 ≤ (UInt8.ofNat (x + k)).toNat ∧ (UInt8.ofNat (x + k)).toNat < 0xC0) := by
    rw [UInt8.toNat_ofNat', Nat.mod_eq_of_lt hx]
    omega
  simp only [String.utf8EncodeChar] at h
  split at h
  · next hlt =>
    obtain rfl := Option.some.inj h
    rw [UInt8.toNat_ofNat', Nat.mod_eq_of_lt (by omega)]
    omega
  -- The first byte of a longer encoding is a remainder and a mark of at least 192.
  · split at h
    · obtain rfl := Option.some.inj h
      exact hbyte (by decide) (by omega)
    · split at h <;>
      · obtain rfl := Option.some.inj h
        exact hbyte (by decide) (by omega)

/-- The first byte of a text is that of its first character. -/
theorem head?_utf8_cons (c : Char) (cs : List Char) :
    (utf8 (c :: cs)).head? = (String.utf8EncodeChar c).head? := by
  have hne : String.utf8EncodeChar c ≠ [] := by
    simp only [String.utf8EncodeChar]
    split
    · simp
    · split
      · simp
      · split <;> simp
  rw [utf8_cons]
  exact List.head?_append_of_ne_nil _ hne

/-- **Bytes can be cut between two characters.** -/
theorem isBoundary_utf8 (cs ds : List Char) :
    isBoundary (utf8 cs ++ utf8 ds) (utf8 cs).length = true := by
  rw [isBoundary, List.drop_left]
  cases ds with
  | nil => simp
  | cons d ds =>
      split
      · simp
      · next b bs hbytes =>
        have hhead : b ∈ (String.utf8EncodeChar d).head? := by
          rw [← head?_utf8_cons d ds, hbytes]
          rfl
        simp [not_continuation_of_mem_head? hhead]

theorem bytesFrom?_utf8 (cs ds : List Char) :
    bytesFrom? (utf8 cs ++ utf8 ds) (utf8 cs).length = some (utf8 ds) := by
  rw [bytesFrom?, if_pos (isBoundary_utf8 cs ds), List.drop_left]

theorem bytesTo?_utf8 (cs ds : List Char) :
    bytesTo? (utf8 cs ++ utf8 ds) (utf8 cs).length = some (utf8 cs) := by
  rw [bytesTo?, if_pos (isBoundary_utf8 cs ds), List.take_left]

/-- A byte of ASCII at the beginning of a text is its first character. -/
theorem head?_of_ascii {cs : List Char} {b : UInt8} (h : (utf8 cs).head? = some b)
    (hb : b.toNat < 128) : ∃ c ∈ cs.head?, c.toNat = b.toNat := by
  cases cs with
  | nil => cases h
  | cons c cs =>
      rw [head?_utf8_cons] at h
      exact ⟨c, rfl, toNat_eq_of_mem_utf8EncodeChar (List.mem_of_head? h) hb⟩

/-- The numbers of the digits. -/
theorem isDigit_of_range {c : Char} (hlow : 48 ≤ c.toNat) (hhigh : c.toNat ≤ 57) :
    c.isDigit = true := by
  simpa [Char.isDigit, UInt32.le_iff_toNat_le] using ⟨hlow, hhigh⟩

/-- The digits of a text end where no digit follows. -/
theorem findIdx_digits {digits rest : List Char} (hdigits : ∀ c ∈ digits, c.isDigit = true)
    (hrest : ∀ c ∈ rest.head?, c.isDigit = false) :
    (utf8 digits ++ utf8 rest).findIdx (fun b => (digit? b).isNone) = (utf8 digits).length := by
  have hnone : (utf8 digits).findIdx (fun b => (digit? b).isNone) = (utf8 digits).length := by
    rw [List.findIdx_eq_length]
    intro b hb
    rw [Json.utf8_digits hdigits] at hb
    obtain ⟨c, hc, rfl⟩ := List.mem_map.mp hb
    rw [Json.digit?_of_isDigit (hdigits c hc)]
    rfl
  rw [List.findIdx_append, hnone, if_neg (Nat.lt_irrefl _)]
  cases hbytes : utf8 rest with
  | nil => simp
  | cons b bs =>
      have hb : digit? b = none := by
        by_contra hdigit
        have hrange : 48 ≤ b.toNat ∧ b.toNat ≤ 57 := by simpa [digit?] using hdigit
        have hhead : (utf8 rest).head? = some b := by
          rw [hbytes]
          rfl
        obtain ⟨c, hc, hcb⟩ := head?_of_ascii hhead (by omega)
        have hnot := hrest c hc
        rw [isDigit_of_range (by omega) (by omega)] at hnot
        cases hnot
      simp [List.findIdx_cons, hb]

/-! ### The scan -/

/-- **Pushing a digit** is appending it. -/
theorem pushDigit?_digit {c : Char} (hc : c.isDigit = true) {n : Nat}
    (hn : n ≤ 0x7FFFFFFFFFFFFFFF) :
    pushDigit? (Int64.ofInt n) (UInt8.ofNat c.toNat) = some (Int64.ofInt (appendDigit n c)) := by
  have hrange := Json.isDigit_range hc
  have hbyte : (UInt8.ofNat c.toNat).toNat = c.toNat := by
    rw [UInt8.toNat_ofNat', Nat.mod_eq_of_lt (by omega)]
  have hint {i : Int} (hlow : 0 ≤ i) (hhigh : i ≤ 0x7FFFFFFFFFFFFFFF) : (Int64.ofInt i).toInt = i :=
    Int64.toInt_ofInt_of_le (by omega) (by omega)
  rw [pushDigit?, hbyte, if_pos hrange.1, hint (by omega) (by omega)]
  simp only [saturate]
  rw [hint (by omega) (by omega), appendDigit]
  congr 2
  omega

/-- Digits are pushed one after another. -/
theorem foldlM_pushDigit? {digits : List Char} (hdigits : ∀ c ∈ digits, c.isDigit = true) {n : Nat}
    (hn : n ≤ 0x7FFFFFFFFFFFFFFF) :
    (utf8 digits).foldlM pushDigit? (Int64.ofInt n) =
      some (Int64.ofInt (digits.foldl appendDigit n : Nat)) := by
  rw [Json.utf8_digits hdigits]
  induction digits generalizing n with
  | nil => rfl
  | cons c digits ih =>
      obtain ⟨hc, hdigits⟩ := List.forall_mem_cons.mp hdigits
      rw [List.map_cons, List.foldlM_cons, pushDigit?_digit hc hn]
      exact ih hdigits (Nat.min_le_right _ _)

/-- The opposite of a magnitude can be held. -/
theorem negate?_magnitude {n : Nat} (hn : n ≤ 0x7FFFFFFFFFFFFFFF) :
    negate? (Int64.ofInt n) = some (Int64.ofInt (-n)) := by
  have hint : (Int64.ofInt n).toInt = n := Int64.toInt_ofInt_of_le (by omega) (by omega)
  rw [negate?, hint, if_neg (by omega), Int64.ofInt_neg]

/-- Where the digits begin, they are counted up. -/
theorem countDigits?_eq {s : String} (n : Numeral s) (negative : Bool) :
    countDigits? negative (utf8 (n.digits ++ n.rest)) =
      some (Int64.ofInt ((if negative then -1 else 1) *
        (min n.magnitude 0x7FFFFFFFFFFFFFFF : Nat))) := by
  have hmagnitude : n.digits.foldl appendDigit 0 = min n.magnitude 0x7FFFFFFFFFFFFFFF :=
    foldl_appendDigit 0
  have hle : min n.magnitude 0x7FFFFFFFFFFFFFFF ≤ 0x7FFFFFFFFFFFFFFF := Nat.min_le_right _ _
  have hfold : (utf8 n.digits).foldlM pushDigit? 0 = _ :=
    foldlM_pushDigit? n.digit (n := 0) (by decide)
  rw [hmagnitude] at hfold
  simp only [countDigits?, utf8_append, findIdx_digits n.digit n.ended, bytesTo?_utf8, hfold,
    Option.bind_eq_bind, Option.bind_some]
  cases negative with
  | true => exact (negate?_magnitude hle).trans (by simp)
  | false => simp

/-- A sign in front is taken off and tells whether the number is negative. -/
theorem signedBytes?_sign (σ : Sign) (cs : List Char) :
    signedBytes? (utf8 (σ.char :: cs)) = some (σ == .minus, utf8 cs) := by
  have hfrom := bytesFrom?_utf8 [σ.char] cs
  cases σ with
  | plus => exact congrArg (Option.map (false, ·)) hfrom
  | minus => exact congrArg (Option.map (true, ·)) hfrom

/-- Where no sign is, none is taken off. -/
theorem signedBytes?_unsigned {cs : List Char} (h : ∀ c ∈ cs.head?, c ≠ '+' ∧ c ≠ '-') :
    signedBytes? (utf8 cs) = some (false, utf8 cs) := by
  rw [signedBytes?]
  split
  · next hhead =>
    obtain ⟨c, hc, hminus⟩ := head?_of_ascii hhead (by decide)
    exact absurd (Char.toNat_inj.mp hminus) (h c hc).2
  · next hhead =>
    obtain ⟨c, hc, hplus⟩ := head?_of_ascii hhead (by decide)
    exact absurd (Char.toNat_inj.mp hplus) (h c hc).1
  · rfl

/-- **The scan never breaks off**, and finds what the text counts for. -/
theorem scanInt?_eq (s : String) : scanInt? s = some (leadingInt s) := by
  obtain ⟨n⟩ := Numeral.exists_numeral s
  have hbytes : bytes (trimStart s) = utf8 (Sign.chars? n.sign ++ (n.digits ++ n.rest)) := by
    rw [trimStart, bytes_ofList, n.dropWhile_eq]
  rw [leadingInt_eq n, Numeral.factor, scanInt?, hbytes]
  cases hsign : n.sign with
  | some σ =>
      have hsigned := signedBytes?_sign σ (n.digits ++ n.rest)
      change (signedBytes? (utf8 (σ.char :: (n.digits ++ n.rest))) >>= _) = _
      rw [hsigned]
      cases σ with
      | plus => exact countDigits?_eq n false
      | minus => exact countDigits?_eq n true
  | none =>
      have hsigned := signedBytes?_unsigned (n.unsigned hsign)
      change (signedBytes? (utf8 (n.digits ++ n.rest)) >>= _) = _
      rw [hsigned]
      exact countDigits?_eq n false

end Text

end FanControl

import FanControl.Json.Spelling
import FanControl.Proofs.Text.Bytes

/-!
# Spelled tokens

However a token is spelled, the scanner takes it up to its end and keeps **what it was spelled
from**. Blanks before it make no difference. A string ends at its quote, whatever elements it has;
a number ends where nothing follows that could continue it.

## Main results

* `Token.next?_spaces`: blanks before a token;
* `StringSpelling.next?_chars`, `NumberSpelling.next?_chars`: the tokens of which there are many.
-/

namespace FanControl.Json

open Text (utf8)

/-! ### Blanks and words -/

/-- A blank is one byte. -/
theorem Space.utf8_char (s : Space) :
    ∃ b, String.utf8EncodeChar s.char = [b] ∧ isSpace b = true := by
  cases s <;> exact ⟨_, rfl, rfl⟩

/-- **Blanks before a token are passed by.** -/
theorem Token.next?_spaces (spaces : List Space) (rest : Bytes) :
    next? (utf8 (spaceChars spaces) ++ rest) = next? rest := by
  induction spaces with
  | nil => rfl
  | cons s spaces ih =>
      obtain ⟨b, hbytes, hspace⟩ := s.utf8_char
      rw [← ih, spaceChars, List.map_cons, Text.utf8_cons, hbytes, next?]
      simp only [List.cons_append, List.nil_append, List.dropWhile_cons, hspace, if_true]
      rfl

/-- A token begins with the first byte that is no blank. -/
theorem Token.next?_cons {b : UInt8} (h : isSpace b = false) (rest : Bytes) :
    next? (b :: rest) = some (read b rest) := by
  simp [next?, h]

/-- A word is one token. -/
theorem Token.next?_null (rest : Bytes) :
    next? (utf8 ['n', 'u', 'l', 'l'] ++ rest) = some (.null, rest) := by
  rfl

theorem Token.next?_boolean (b : Bool) (rest : Bytes) :
    next? (utf8 (if b then ['t', 'r', 'u', 'e'] else ['f', 'a', 'l', 's', 'e']) ++ rest) =
      some (.boolean b, rest) := by
  cases b <;> rfl

/-! ### Strings -/

namespace StringText

/-- The scan of a string takes over bytes that stand for themselves. -/
theorem scan_plain (before : List Piece) {bs : Bytes} (rest : Bytes)
    (h : ∀ b ∈ bs, b ≠ 0x22 ∧ b ≠ 0x5C ∧ ¬ b < 0x20) :
    scan before (bs ++ rest) = scan ((bs.map Piece.byte).reverse ++ before) rest := by
  induction bs generalizing before with
  | nil => rfl
  | cons b bs ih =>
      obtain ⟨hquote, hslash, hcontrol⟩ := h b List.mem_cons_self
      rw [List.cons_append, scan.eq_def]
      simp only [hquote, hslash, hcontrol, if_false]
      rw [ih _ fun b hb => h b (List.mem_cons_of_mem _ hb)]
      simp

/-- The bytes of a character that is spelled as it is stand for themselves. -/
theorem plain_of_mem_utf8EncodeChar {c : Char} (hquote : c ≠ '"') (hslash : c ≠ '\\')
    (hcontrol : ¬ c.toNat < 32) {b : UInt8} (hb : b ∈ String.utf8EncodeChar c) :
    b ≠ 0x22 ∧ b ≠ 0x5C ∧ ¬ b < 0x20 := by
  have hne {d : Char} (hd : c ≠ d) : c.toNat ≠ d.toNat := fun heq => hd (Char.toNat_inj.mp heq)
  have hquote := hne hquote
  have hslash := hne hslash
  simp only [ne_eq, ← UInt8.toNat_inj, UInt8.lt_iff_toNat_lt]
  by_cases hascii : c.toNat < 128
  · rw [Text.utf8EncodeChar_of_lt hascii, List.mem_singleton] at hb
    subst hb
    rw [UInt8.toNat_ofNat', Nat.mod_eq_of_lt (by omega)]
    exact ⟨hquote, hslash, hcontrol⟩
  · have hbeyond := Text.le_of_mem_utf8EncodeChar (by omega) hb
    refine ⟨?_, ?_, ?_⟩
    · intro heq
      simp [heq] at hbeyond
    · intro heq
      simp [heq] at hbeyond
    · intro hlt
      have : (0x20 : UInt8).toNat = 32 := rfl
      omega

end StringText

/-- The letter of an escape is one byte, which does not announce a number. -/
theorem Escape.utf8_letter (e : Escape) :
    ∃ b, String.utf8EncodeChar e.letter = [b] ∧ b ≠ 0x75 ∧ escaped? b = some e.byte := by
  cases e <;> exact ⟨_, rfl, by decide, rfl⟩

/-- A hexadecimal digit is one byte. -/
theorem HexDigit.utf8_char (d : HexDigit) :
    ∃ b, String.utf8EncodeChar d.char = [b] ∧ Text.hexValue? b = some d.value.val := by
  have hdigit : ∀ (n : Fin 16) (upper : Bool), (HexDigit.char ⟨n, upper⟩).toNat < 128 ∧
      Text.hexValue? (UInt8.ofNat (HexDigit.char ⟨n, upper⟩).toNat) = some n.val := by
    decide
  obtain ⟨hascii, hvalue⟩ := hdigit d.value d.upper
  exact ⟨_, Text.utf8EncodeChar_of_lt hascii, hvalue⟩

/-- **An element of a string is scanned as what it stands for.** -/
theorem Glyph.scan_chars (g : Glyph) (before : List Piece) (rest : Bytes) :
    StringText.scan before (utf8 g.chars ++ rest) =
      StringText.scan (g.pieces.reverse ++ before) rest := by
  cases g with
  | plain c hquote hslash hcontrol =>
      simpa [chars, pieces] using StringText.scan_plain before rest
        fun b hb => StringText.plain_of_mem_utf8EncodeChar hquote hslash hcontrol hb
  | escape e =>
      obtain ⟨b, hletter, hb, hmeans⟩ := e.utf8_letter
      have hbytes : utf8 (escape e).chars = [0x5C, b] := by
        rw [chars, Text.utf8_cons, Text.utf8_cons, hletter]
        rfl
      rw [hbytes, List.cons_append, StringText.scan.eq_def]
      simp [hb, hmeans, pieces]
  | unit p q r s =>
      obtain ⟨a, ha, hp⟩ := p.utf8_char
      obtain ⟨b, hb, hq⟩ := q.utf8_char
      obtain ⟨c, hc, hr⟩ := r.utf8_char
      obtain ⟨d, hd, hs⟩ := s.utf8_char
      have hbytes : utf8 (unit p q r s).chars = [0x5C, 0x75, a, b, c, d] := by
        simp [chars, ha, hb, hc, hd, Text.utf8EncodeChar_of_lt]
      rw [hbytes, List.cons_append, StringText.scan.eq_def]
      simp [unit?, hp, hq, hr, hs, pieces]

/-- **A string is scanned up to its closing quote**, however it is spelled. -/
theorem StringSpelling.scan_chars (s : StringSpelling) (rest : Bytes) :
    StringText.scan [] (utf8 (s.glyphs.flatMap Glyph.chars) ++ 0x22 :: rest) = (s.text, rest) := by
  have hscan (gs : List Glyph) (before : List Piece) :
      StringText.scan before (utf8 (gs.flatMap Glyph.chars) ++ 0x22 :: rest) =
        (⟨before.reverse ++ gs.flatMap Glyph.pieces, none⟩, rest) := by
    induction gs generalizing before with
    | nil =>
        rw [List.flatMap_nil, Text.utf8_nil, List.nil_append, StringText.scan.eq_def]
        simp
    | cons g gs ih =>
        rw [List.flatMap_cons, Text.utf8_append, List.append_assoc, g.scan_chars, ih]
        simp
  simpa [text] using hscan s.glyphs []

/-- **A string is one token**, however it is spelled. -/
theorem StringSpelling.next?_chars (s : StringSpelling) (rest : Bytes) :
    Token.next? (utf8 s.chars ++ rest) = some (.string s.text, rest) := by
  have hquote : utf8 s.chars ++ rest =
      0x22 :: (utf8 (s.glyphs.flatMap Glyph.chars) ++ 0x22 :: rest) := by
    rw [chars, Text.utf8_cons, Text.utf8_append]
    simp [Text.utf8EncodeChar_of_lt]
  rw [hquote, Token.next?_cons rfl]
  simp [Token.read, scan_chars]

/-! ### Digits -/

/-- Whether nothing follows that could continue a number. -/
def EndsNumber (rest : Bytes) : Prop :=
  ∀ b ∈ rest.head?, Text.digit? b = none ∧ b ≠ 0x2E ∧ b ≠ 0x65 ∧ b ≠ 0x45

theorem endsNumber_nil : EndsNumber [] := fun _ hb => absurd hb (Option.not_mem_none _)

/-- The digits are the characters with the numbers from 48 up to 57. -/
theorem isDigit_range {c : Char} (h : c.isDigit = true) : 48 ≤ c.toNat ∧ c.toNat ≤ 57 := by
  simpa [Char.isDigit, UInt32.le_iff_toNat_le] using h

/-- The byte of a digit is read as the value of the digit. -/
theorem digit?_of_isDigit {c : Char} (h : c.isDigit = true) :
    Text.digit? (UInt8.ofNat c.toNat) = some (c.toNat - 48) := by
  have hrange := isDigit_range h
  have hbyte : (UInt8.ofNat c.toNat).toNat = c.toNat := by
    rw [UInt8.toNat_ofNat', Nat.mod_eq_of_lt (by omega)]
  simp [Text.digit?, hbyte, hrange]

/-- Of the digits only zero stands for nothing. -/
theorem eq_zero_of_isDigit {c : Char} (h : c.isDigit = true) (hzero : c.toNat - 48 = 0) :
    c = '0' := by
  have hrange := isDigit_range h
  have hnat : c.toNat = 48 := by omega
  exact Char.toNat_inj.mp hnat

/-- Digits are encoded in one byte each, their number. -/
theorem utf8_digits {cs : List Char} (h : ∀ c ∈ cs, c.isDigit = true) :
    utf8 cs = cs.map fun c => UInt8.ofNat c.toNat := by
  induction cs with
  | nil => rfl
  | cons c cs ih =>
      have hrange := isDigit_range (h c List.mem_cons_self)
      rw [Text.utf8_cons, Text.utf8EncodeChar_of_lt (by omega),
        ih fun c hc => h c (List.mem_cons_of_mem _ hc)]
      rfl

/-- Digits are scanned as they are, up to where no other follows. -/
theorem scanDigits_chars {cs : List Char} (h : ∀ c ∈ cs, c.isDigit = true) {rest : Bytes}
    (hrest : ∀ b ∈ rest.head?, Text.digit? b = none) :
    scanDigits (utf8 cs ++ rest) = (digitValues cs, rest) := by
  have hspan : (utf8 cs ++ rest).span (fun b => (Text.digit? b).isSome) = (utf8 cs, rest) := by
    refine Text.span_append ?_ ?_
    · intro b hb
      rw [utf8_digits h] at hb
      obtain ⟨c, hc, rfl⟩ := List.mem_map.mp hb
      rw [digit?_of_isDigit (h c hc)]
      rfl
    · intro b hb
      rw [hrest b hb]
      rfl
  have hvalues {cs : List Char} (h : ∀ c ∈ cs, c.isDigit = true) :
      (cs.map fun c => UInt8.ofNat c.toNat).filterMap Text.digit? = digitValues cs := by
    induction cs with
    | nil => rfl
    | cons c cs ih =>
        rw [List.map_cons, List.filterMap_cons, digit?_of_isDigit (h c List.mem_cons_self),
          ih fun c hc => h c (List.mem_cons_of_mem _ hc)]
        rfl
  rw [scanDigits, hspan, utf8_digits h]
  exact congrArg (·, rest) (hvalues h)

/-- Digits are also read to their end where at least one of them has to be, as after a decimal
point. -/
theorem scanSomeDigits_chars {cs : List Char} (h : ∀ c ∈ cs, c.isDigit = true) (hne : cs ≠ [])
    {rest : Bytes} (hrest : ∀ b ∈ rest.head?, Text.digit? b = none) :
    scanSomeDigits (utf8 cs ++ rest) = .ok (digitValues cs, rest) := by
  have hvalues : digitValues cs ≠ [] := by simpa [digitValues] using hne
  rw [scanSomeDigits, scanDigits_chars h hrest]
  split
  · next heq => exact absurd (Prod.mk.inj heq).1 hvalues
  · next heq => exact absurd (Prod.mk.inj heq).1 hvalues
  · rfl

/-- The scan for a minus sign finds none before digits. -/
theorem scanMinus_digits {cs : List Char} (h : ∀ c ∈ cs, c.isDigit = true) (hne : cs ≠ [])
    (rest : Bytes) : scanMinus (utf8 cs ++ rest) = (false, utf8 cs ++ rest) := by
  obtain ⟨c, cs, rfl⟩ := List.exists_cons_of_ne_nil hne
  have hbyte := digit?_of_isDigit (h c List.mem_cons_self)
  rw [utf8_digits h, List.map_cons, List.cons_append, scanMinus.eq_def]
  split
  · next heq =>
    rw [(List.cons.inj heq).1] at hbyte
    simp [Text.digit?] at hbyte
  · rfl

/-- The scan for the sign of an exponent finds none before digits. -/
theorem scanSign_digits {cs : List Char} (h : ∀ c ∈ cs, c.isDigit = true) (hne : cs ≠ [])
    (rest : Bytes) : scanSign (utf8 cs ++ rest) = (false, utf8 cs ++ rest) := by
  have hminus := scanMinus_digits h hne rest
  obtain ⟨c, cs, rfl⟩ := List.exists_cons_of_ne_nil hne
  have hbyte := digit?_of_isDigit (h c List.mem_cons_self)
  rw [utf8_digits h, List.map_cons, List.cons_append] at hminus ⊢
  rw [scanSign.eq_def]
  split
  · next heq =>
    rw [(List.cons.inj heq).1] at hbyte
    simp [Text.digit?] at hbyte
  · exact hminus

/-! ### Numbers -/

namespace ExponentMark

/-- The letter of an exponent is one byte. -/
theorem utf8_letter (mark : ExponentMark) :
    ∃ b, String.utf8EncodeChar mark.letter = [b] ∧ (b = 0x65 ∨ b = 0x45) := by
  rw [letter]
  cases mark.upper with
  | false => exact ⟨0x65, rfl, .inl rfl⟩
  | true => exact ⟨0x45, rfl, .inr rfl⟩

/-- The sign of an exponent is scanned, if there is one. -/
theorem scanSign_chars (mark : ExponentMark) {cs : List Char} (h : ∀ c ∈ cs, c.isDigit = true)
    (hne : cs ≠ []) (rest : Bytes) :
    scanSign (utf8 mark.signChars ++ (utf8 cs ++ rest)) = (mark.down, utf8 cs ++ rest) := by
  rw [signChars, down]
  match mark.sign with
  | none => exact scanSign_digits h hne rest
  | some false => rfl
  | some true => rfl

end ExponentMark

/-- A byte that a number begins with begins nothing else. -/
theorem Token.read_number {b : UInt8} (h : b = 0x2D ∨ (Text.digit? b).isSome = true)
    (rest : Bytes) :
    isSpace b = false ∧ read b rest =
      match NumberText.scan (b :: rest) with
      | .ok (t, rest) => (.number t, rest)
      | .error fault => (.broken fault .malformed, []) := by
  have hne {m : UInt8} (hm : ¬ (m = 0x2D ∨ (Text.digit? m).isSome = true)) : b ≠ m :=
    fun heq => hm (heq ▸ h)
  refine ⟨?_, ?_⟩
  · simp [isSpace, hne (m := 0x20) (by decide), hne (m := 0x09) (by decide),
      hne (m := 0x0A) (by decide), hne (m := 0x0D) (by decide)]
  · rw [read, if_neg (hne (by decide)), if_neg (hne (by decide)), if_neg (hne (by decide)),
      if_neg (hne (by decide)), if_neg (hne (by decide)), if_neg (hne (by decide)),
      if_neg (hne (by decide)), if_neg (hne (by decide)), if_neg (hne (by decide)),
      if_neg (hne (by decide))]
    exact if_pos h

namespace NumberSpelling

variable {n : NumberSpelling} {rest : Bytes}

/-- What follows the fraction begins with the letter of the exponent, or is what follows the
number. -/
theorem head_exponentChars (hrest : EndsNumber rest) :
    ∀ b ∈ (utf8 n.exponentChars ++ rest).head?, Text.digit? b = none ∧ b ≠ 0x2E := by
  intro b hb
  rw [exponentChars] at hb
  split at hb
  · exact ⟨(hrest b hb).1, (hrest b hb).2.1⟩
  · next mark cs _ =>
    obtain ⟨e, hletter, he⟩ := mark.utf8_letter
    obtain rfl : e = b := by simpa [hletter] using hb
    rcases he with rfl | rfl <;> exact ⟨rfl, by decide⟩

/-- What follows the whole part is no digit. -/
theorem head_fractionChars (hrest : EndsNumber rest) :
    ∀ b ∈ (utf8 n.fractionChars ++ (utf8 n.exponentChars ++ rest)).head?,
      Text.digit? b = none := by
  intro b hb
  rw [fractionChars] at hb
  split at hb
  · exact (head_exponentChars hrest b hb).1
  · obtain rfl : 0x2E = b := by simpa [Text.utf8EncodeChar_of_lt] using hb
    rfl

/-- The exponent is scanned. -/
theorem scanExponent_chars (hrest : EndsNumber rest) :
    scanExponent (utf8 n.exponentChars ++ rest) = .ok (n.text.exponent, rest) := by
  rw [exponentChars]
  cases hexponent : n.exponent with
  | none =>
      simp only [text, hexponent, Option.map_none, Text.utf8_nil, List.nil_append]
      cases rest with
      | nil => rfl
      | cons b rest =>
          obtain ⟨-, -, he, hE⟩ := hrest b rfl
          simp [scanExponent, he, hE]
  | some e =>
      obtain ⟨mark, cs⟩ := e
      obtain ⟨hne, hdigits⟩ := n.exponent_digits (mark, cs) hexponent
      obtain ⟨b, hletter, hb⟩ := mark.utf8_letter
      have hscan := scanSomeDigits_chars hdigits hne fun b hb => (hrest b hb).1
      rw [Text.utf8_cons, hletter, Text.utf8_append, List.append_assoc, List.append_assoc,
        List.singleton_append, scanExponent, if_pos hb]
      simp only [mark.scanSign_chars hdigits hne, hscan, text, hexponent]
      rfl

/-- The fraction is scanned. -/
theorem scanFraction_chars (hrest : EndsNumber rest) :
    scanFraction (utf8 n.fractionChars ++ (utf8 n.exponentChars ++ rest)) =
      .ok (n.text.fraction, utf8 n.exponentChars ++ rest) := by
  have hhead := head_exponentChars (n := n) hrest
  rw [fractionChars]
  cases hfraction : n.fraction with
  | nil =>
      simp only [text, hfraction, Text.utf8_nil, List.nil_append]
      generalize utf8 n.exponentChars ++ rest = bs at hhead
      rw [scanFraction.eq_def]
      split
      · exact absurd rfl (hhead _ rfl).2
      · rfl
  | cons c cs =>
      have hscan := scanSomeDigits_chars n.fraction_digits (by simp [hfraction])
        fun b hb => (hhead b hb).1
      rw [hfraction] at hscan
      rw [Text.utf8_cons, Text.utf8EncodeChar_of_lt (by decide)]
      simpa [text, hfraction, scanFraction] using hscan

/-- The first byte of a number without a sign is that of a digit. -/
theorem utf8_whole (n : NumberSpelling) :
    ∃ c, c.isDigit = true ∧ n.whole.head? = some c ∧
      (utf8 n.whole).head? = some (UInt8.ofNat c.toNat) := by
  obtain ⟨c, cs, hwhole⟩ := List.exists_cons_of_ne_nil n.whole_ne_nil
  refine ⟨c, n.whole_digits c (by simp [hwhole]), by simp [hwhole], ?_⟩
  rw [utf8_digits n.whole_digits, hwhole]
  rfl

/-- The sign is scanned. -/
theorem scanMinus_chars (n : NumberSpelling) (rest : Bytes) :
    scanMinus (utf8 n.chars ++ rest) =
      (n.negative, utf8 n.whole ++ (utf8 (n.fractionChars ++ n.exponentChars) ++ rest)) := by
  have hsplit : utf8 n.chars ++ rest = (if n.negative then [0x2D] else []) ++
      (utf8 n.whole ++ (utf8 (n.fractionChars ++ n.exponentChars) ++ rest)) := by
    rw [chars]
    cases n.negative <;> simp [signChars, Text.utf8EncodeChar_of_lt]
  rw [hsplit]
  cases n.negative with
  | true => rfl
  | false => exact scanMinus_digits n.whole_digits n.whole_ne_nil _

/-- **The text of a number is scanned into its parts**, up to its end. -/
theorem scan_chars (n : NumberSpelling) (hrest : EndsNumber rest) :
    NumberText.scan (utf8 n.chars ++ rest) = .ok (n.text, rest) := by
  have hwhole := scanSomeDigits_chars n.whole_digits n.whole_ne_nil
    (head_fractionChars (n := n) hrest)
  have hzero : ¬ ((digitValues n.whole).head? = some 0 ∧ 1 < (digitValues n.whole).length) := by
    rintro ⟨hhead, hlength⟩
    obtain ⟨c, hdigit, hfirst, -⟩ := n.utf8_whole
    rw [digitValues, List.head?_map, hfirst] at hhead
    rw [eq_zero_of_isDigit hdigit (Option.some.inj hhead)] at hfirst
    rw [digitValues, List.length_map, n.whole_head hfirst] at hlength
    exact absurd hlength (by decide)
  rw [NumberText.scan]
  simp only [n.scanMinus_chars, Text.utf8_append, List.append_assoc, hwhole, bind, Except.bind,
    hzero, if_false, scanFraction_chars hrest, scanExponent_chars hrest]
  rfl

/-- **The text of a number is one token.** -/
theorem next?_chars (n : NumberSpelling) (hrest : EndsNumber rest) :
    Token.next? (utf8 n.chars ++ rest) = some (.number n.text, rest) := by
  have hfirst : ∃ b more, utf8 n.chars = b :: more ∧
      (b = 0x2D ∨ (Text.digit? b).isSome = true) := by
    rw [chars, signChars]
    cases n.negative with
    | true => exact ⟨0x2D, _, rfl, .inl rfl⟩
    | false =>
        obtain ⟨c, hdigit, -, hhead⟩ := n.utf8_whole
        obtain ⟨more, hmore⟩ := List.head?_eq_some_iff.mp hhead
        refine ⟨UInt8.ofNat c.toNat, more ++ utf8 (n.fractionChars ++ n.exponentChars), ?_, .inr ?_⟩
        · rw [if_neg (by decide), List.nil_append, Text.utf8_append, hmore, List.cons_append]
        · rw [digit?_of_isDigit hdigit]
          rfl
  obtain ⟨b, more, hbytes, hb⟩ := hfirst
  have hscan := n.scan_chars hrest
  obtain ⟨hspace, hread⟩ := Token.read_number hb (more ++ rest)
  rw [hbytes, List.cons_append] at hscan ⊢
  rw [Token.next?_cons hspace, hread, hscan]

end NumberSpelling

end FanControl.Json

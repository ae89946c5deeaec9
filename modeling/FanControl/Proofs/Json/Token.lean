import FanControl.Json.Printer
import FanControl.Proofs.Json.Scan

/-!
# Printed strings

The printer spells each character of a string in a way of its own. A printed string is one token,
which **stands for what was printed**, whatever characters it holds.

Apart from what a token is, it takes up bytes, so that a reading comes to an end.

## Main results

* `StringSpelling.exists_quoteString`, `StringText.decode_ofString`: printed strings;
* `Token.next?_length`: each token takes up bytes.
-/

namespace FanControl.Json

open Text (utf8)

/-! ### Printed strings -/

/-- Whether the printer writes a character by its number. -/
def isNumbered (c : Char) : Bool :=
  decide (c.toNat < 32) && !([8, 9, 10, 12, 13].contains c.toNat)

/-- How a character stands in a printed string. -/
def charPieces (c : Char) : List Piece :=
  if isNumbered c then [.unit c.toNat] else (String.utf8EncodeChar c).map .byte

/-- How a text stands between its quotes. -/
def StringText.ofString (s : String) : StringText := ⟨s.toList.flatMap charPieces, none⟩

/-- The printer spells each character in one of the ways that there are. -/
theorem exists_glyph (c : Char) :
    ∃ g : Glyph, g.chars = escapeChar c ∧ g.pieces = charPieces c := by
  have hof {n : Nat} (h : c.toNat = n) : c = Char.ofNat n := by rw [← h, Char.ofNat_toNat]
  -- The printer's own cases.
  by_cases hquote : c = '"'
  · subst hquote
    exact ⟨.escape .quote, rfl, rfl⟩
  by_cases hslash : c = '\\'
  · subst hslash
    exact ⟨.escape .backslash, rfl, rfl⟩
  by_cases hback : c.toNat = 8
  · obtain rfl := hof hback
    exact ⟨.escape .backspace, rfl, rfl⟩
  by_cases htab : c = '\t'
  · subst htab
    exact ⟨.escape .tab, rfl, rfl⟩
  by_cases hline : c = '\n'
  · subst hline
    exact ⟨.escape .line, rfl, rfl⟩
  by_cases hfeed : c.toNat = 12
  · obtain rfl := hof hfeed
    exact ⟨.escape .feed, rfl, rfl⟩
  by_cases hreturn : c = '\r'
  · subst hreturn
    exact ⟨.escape .carriage, rfl, rfl⟩
  by_cases hcontrol : c.toNat < 32
  · have h9 : c.toNat ≠ 9 := fun h => htab (hof h)
    have h10 : c.toNat ≠ 10 := fun h => hline (hof h)
    have h13 : c.toNat ≠ 13 := fun h => hreturn (hof h)
    refine ⟨.unit ⟨0, false⟩ ⟨0, false⟩ ⟨⟨c.toNat / 16, by omega⟩, false⟩
      ⟨⟨c.toNat % 16, by omega⟩, false⟩, ?_, ?_⟩
    · simp [Glyph.chars, HexDigit.char, Text.hexDigit, escapeChar, hquote, hslash, hback, htab,
        hline, hfeed, hreturn, hcontrol]
    · have hnumber : ((0 * 16 + 0) * 16 + c.toNat / 16) * 16 + c.toNat % 16 = c.toNat := by omega
      simpa [Glyph.pieces, charPieces, isNumbered, hcontrol, hback, h9, h10, hfeed, h13]
        using hnumber
  · refine ⟨.plain c hquote hslash hcontrol, ?_, ?_⟩
    · simp [Glyph.chars, escapeChar, hquote, hslash, hback, htab, hline, hfeed, hreturn, hcontrol]
    · simp [Glyph.pieces, charPieces, isNumbered, hcontrol]

/-- **A printed string is a spelling of what was printed.** -/
theorem StringSpelling.exists_quoteString (s : String) :
    ∃ t : StringSpelling, t.chars = quoteString s ∧ t.text = .ofString s := by
  have hglyphs (cs : List Char) : ∃ gs : List Glyph,
      gs.flatMap Glyph.chars = cs.flatMap escapeChar ∧
        gs.flatMap Glyph.pieces = cs.flatMap charPieces := by
    induction cs with
    | nil => exact ⟨[], rfl, rfl⟩
    | cons c cs ih =>
        obtain ⟨g, hchars, hpieces⟩ := exists_glyph c
        obtain ⟨gs, hrest, hmore⟩ := ih
        refine ⟨g :: gs, ?_, ?_⟩
        · rw [List.flatMap_cons, List.flatMap_cons, hchars, hrest]
        · rw [List.flatMap_cons, List.flatMap_cons, hpieces, hmore]
  obtain ⟨gs, hchars, hpieces⟩ := hglyphs s.toList
  exact ⟨⟨gs⟩, by rw [chars, hchars, quoteString], by rw [text, hpieces, StringText.ofString]⟩

namespace StringText

/-- Pieces that are bytes are decoded as they are. -/
theorem decodePieces_bytes (before bs : Bytes) (ps : List Piece) :
    decodePieces none before (bs.map .byte ++ ps) =
      decodePieces none (bs.reverse ++ before) ps := by
  induction bs generalizing before with
  | nil => rfl
  | cons b bs ih =>
      rw [List.map_cons, List.cons_append, decodePieces, ih]
      simp

/-- A character of a printed string stands for its bytes. -/
theorem decodePieces_charPieces (before : Bytes) (c : Char) (ps : List Piece) :
    decodePieces none before (charPieces c ++ ps) =
      decodePieces none ((String.utf8EncodeChar c).reverse ++ before) ps := by
  cases hnumbered : isNumbered c with
  | false =>
      simp only [charPieces, hnumbered, Bool.false_eq_true, if_false]
      exact decodePieces_bytes before _ ps
  | true =>
      have hcontrol : c.toNat < 32 := by
        simp only [isNumbered, Bool.and_eq_true, decide_eq_true_eq] at hnumbered
        exact hnumbered.1
      have htrailing : isTrailingSurrogate c.toNat = false := by
        simp only [isTrailingSurrogate, decide_eq_false_iff_not]
        omega
      have hleading : isLeadingSurrogate c.toNat = false := by
        simp only [isLeadingSurrogate, decide_eq_false_iff_not]
        omega
      rw [charPieces, if_pos hnumbered, List.cons_append, List.nil_append, decodePieces.eq_def]
      simp [htrailing, hleading, charBytes]

/-- **A printed string stands for what was printed.** -/
@[simp] theorem decode_ofString (s : String) : (ofString s).decode = .ok s := by
  have hdecode (cs : List Char) (before : Bytes) :
      decodePieces none before (cs.flatMap charPieces) = .ok (before.reverse ++ utf8 cs) := by
    induction cs generalizing before with
    | nil => simp [decodePieces]
    | cons c cs ih =>
        rw [List.flatMap_cons, decodePieces_charPieces, ih]
        simp
  have hbytes := hdecode s.toList []
  simp only [List.reverse_nil, List.nil_append] at hbytes
  simp [decode, ofString, hbytes, Text.ofBytes?_utf8, bind, Except.bind]

end StringText

/-! ### What a token leaves -/

/-- Both steps of a computation have succeeded when the whole has. -/
theorem bind_eq_ok {α β : Type} {x : Except Fault α} {f : α → Except Fault β} {b : β}
    (h : x >>= f = .ok b) : ∃ a, x = .ok a ∧ f a = .ok b := by
  cases x with
  | error e => cases h
  | ok a => exact ⟨a, rfl, h⟩

/-- Scanning a string leaves no more than there was. -/
theorem StringText.scan_length (before : List Piece) (bs : Bytes) :
    (scan before bs).2.length ≤ bs.length := by
  fun_induction scan before bs <;> simp_all <;> omega

/-- Passing by a word leaves no more than there was. -/
theorem matchWord_length {word bs rest : Bytes} (h : matchWord word bs = .ok rest) :
    rest.length ≤ bs.length := by
  induction word generalizing bs with
  | nil =>
      obtain rfl := Except.ok.inj h
      exact Nat.le_refl _
  | cons w word ih =>
      cases bs with
      | nil => cases h
      | cons b bs =>
          rw [matchWord] at h
          split at h
          · exact Nat.le_succ_of_le (ih h)
          · cases h

/-- Digits take up bytes. -/
theorem scanSomeDigits_length {bs rest : Bytes} {ds : List Nat}
    (h : scanSomeDigits bs = .ok (ds, rest)) : rest.length < bs.length := by
  have hsplit := List.takeWhile_append_dropWhile (p := fun b => (Text.digit? b).isSome) (l := bs)
  have hlength := congrArg List.length hsplit
  have hscan : scanDigits bs =
      ((bs.takeWhile fun b => (Text.digit? b).isSome).filterMap Text.digit?,
        bs.dropWhile fun b => (Text.digit? b).isSome) := by
    rw [scanDigits, List.span_eq_takeWhile_dropWhile]
  rw [scanSomeDigits, hscan] at h
  rw [List.length_append] at hlength
  split at h
  · cases h
  · cases h
  · next hnil hcons =>
    obtain ⟨rfl, rfl⟩ := Prod.mk.inj (Except.ok.inj h)
    have hne : (bs.takeWhile fun b => (Text.digit? b).isSome) ≠ [] := by
      intro hempty
      rw [hempty] at hnil hcons
      cases hrest : bs.dropWhile fun b => (Text.digit? b).isSome with
      | nil => exact hnil (by simp [hrest])
      | cons b rest => exact hcons b rest (by simp [hrest])
    have := List.length_pos_iff.mpr hne
    omega

/-- The scan for a minus sign leaves no more bytes than there were. -/
theorem scanMinus_length (bs : Bytes) : (scanMinus bs).2.length ≤ bs.length := by
  rw [scanMinus.eq_def]
  split <;> simp

/-- The scan of a fraction leaves no more bytes than there were. -/
theorem scanFraction_length {bs rest : Bytes} {ds : List Nat}
    (h : scanFraction bs = .ok (ds, rest)) : rest.length ≤ bs.length := by
  rw [scanFraction.eq_def] at h
  split at h
  · exact Nat.le_succ_of_le (Nat.le_of_lt (scanSomeDigits_length h))
  · obtain ⟨-, rfl⟩ := Prod.mk.inj (Except.ok.inj h)
    exact Nat.le_refl _

/-- The scan for the sign of an exponent leaves no more bytes than there were. -/
theorem scanSign_length (bs : Bytes) : (scanSign bs).2.length ≤ bs.length := by
  rw [scanSign.eq_def]
  split
  · exact Nat.le_succ _
  · exact scanMinus_length _

/-- The scan of an exponent leaves no more bytes than there were. -/
theorem scanExponent_length {bs rest : Bytes} {e : Option (Bool × List Nat)}
    (h : scanExponent bs = .ok (e, rest)) : rest.length ≤ bs.length := by
  cases bs with
  | nil =>
      obtain ⟨-, rfl⟩ := Prod.mk.inj (Except.ok.inj h)
      exact Nat.le_refl _
  | cons b more =>
      have hsign := scanSign_length more
      rw [scanExponent] at h
      split at h
      · cases hd : scanSomeDigits (scanSign more).2 with
        | error e =>
            simp only [hd] at h
            cases h
        | ok found =>
            simp only [hd] at h
            obtain ⟨-, rfl⟩ := Prod.mk.inj (Except.ok.inj h)
            have := scanSomeDigits_length hd
            rw [List.length_cons]
            omega
      · obtain ⟨-, rfl⟩ := Prod.mk.inj (Except.ok.inj h)
        exact Nat.le_refl _

/-- A number takes up bytes. -/
theorem NumberText.scan_length {bs rest : Bytes} {t : NumberText}
    (h : scan bs = .ok (t, rest)) : rest.length < bs.length := by
  rw [scan] at h
  have hsign := scanMinus_length bs
  obtain ⟨⟨whole, bs₁⟩, hwhole, h⟩ := bind_eq_ok h
  have hwhole : bs₁.length < (scanMinus bs).2.length := scanSomeDigits_length hwhole
  dsimp only at h
  split at h
  · cases h
  · obtain ⟨⟨fraction, bs₂⟩, hfraction, h⟩ := bind_eq_ok h
    obtain ⟨⟨exponent, bs₃⟩, hexponent, h⟩ := bind_eq_ok h
    have hfraction := scanFraction_length hfraction
    have hexponent := scanExponent_length hexponent
    obtain ⟨-, rfl⟩ : _ ∧ bs₃ = rest := Prod.mk.inj (Except.ok.inj h)
    dsimp only at hexponent
    omega

/-- A token leaves no more than follows its first byte. -/
theorem Token.read_length (b : UInt8) (rest : Bytes) : (read b rest).2.length ≤ rest.length := by
  have hword (token : Token) (letters : String) :
      (word token letters rest).2.length ≤ rest.length := by
    rw [word]
    split
    · next h => exact matchWord_length h
    · exact Nat.zero_le _
  fun_cases read b rest with
  | case1 | case2 | case3 | case4 | case5 | case6 => exact Nat.le_refl _
  | case7 _ _ _ _ _ _ _ t more hscan =>
      have hlength := StringText.scan_length [] rest
      rw [hscan] at hlength
      exact hlength
  | case8 | case9 | case10 => exact hword _ _
  | case11 _ _ _ _ _ _ _ _ _ _ _ t more hscan =>
      exact Nat.lt_succ_iff.mp (NumberText.scan_length hscan)
  | case12 | case13 => exact Nat.zero_le _

/-- **Each token takes up bytes.** -/
theorem Token.next?_length {bs rest : Bytes} {t : Token} (h : next? bs = some (t, rest)) :
    rest.length < bs.length := by
  rw [next?] at h
  split at h
  · cases h
  · next b more hmore =>
    have hdrop : (b :: more).length ≤ bs.length := by
      rw [← hmore]
      exact (List.dropWhile_sublist _).length_le
    have hread := read_length b more
    rw [Option.some.inj h] at hread
    rw [List.length_cons] at hdrop
    dsimp only at hread
    omega

end FanControl.Json

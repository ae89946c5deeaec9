import FanControl.Proofs.Decimal.Shortest
import FanControl.Proofs.FloatingPoint.Rounding
import FanControl.Proofs.Json.Token
import Mathlib.Data.List.DropRight

/-!
# Printed numbers

A number is printed as digits, with more of them behind a point and an exponent if it is no integer.
`PrintedNumber` is what such a text is made of, and **a printed number is one of the spellings** of
a number, which are one token each. An infinity or `nan` is printed as `null`.

What the token stands for is another matter, since reading a decimal rounds once or twice. An
integer within 64 bits is read as it was printed. A single-precision number is read as some number:
its exponent is too small for the decimal to be out of range.

## Main results

* `PrintedNumber.spelling`: a text of a number as a spelling;
* `Decimal.Style.write_printed`: floating-point numbers are such texts;
* `Number.chars_cases`: every number is printed as such a text or as `null`;
* `NumberText.value?_ofInt`, `Number.value?_single`: what the tokens stand for.
-/

namespace FanControl.Json

open FloatingPoint
open Text (utf8)

/-! ### Digits -/

/-- The decimal digits of a number. -/
def decimalDigits (n : Nat) : List Nat := digitValues (Nat.toDigits 10 n)

/-- The digits of a number from ten on are those of its tenth and one more. -/
theorem decimalDigits_eq (n : Nat) :
    decimalDigits n = if n < 10 then [n] else decimalDigits (n / 10) ++ [n % 10] := by
  rw [decimalDigits, digitValues, Nat.toDigits_eq_if (by decide)]
  split
  · next h => simp [Nat.toNat_digitChar_sub_48_of_lt_ten h]
  · simp [decimalDigits, digitValues,
      Nat.toNat_digitChar_sub_48_of_lt_ten (Nat.mod_lt n (by decide : 0 < 10))]

/-- Only the number zero begins with a zero. -/
theorem eq_zero_of_head?_decimalDigits {n : Nat} (h : (decimalDigits n).head? = some 0) :
    n = 0 := by
  induction n using Nat.strongRecOn with
  | ind n ih =>
      rw [decimalDigits_eq] at h
      split at h
      · simpa using h
      · next hn =>
        have hlt : n / 10 < n := by omega
        have htenth := ih (n / 10) hlt
        cases hd : decimalDigits (n / 10) with
        | nil => simp [decimalDigits, digitValues, Nat.toDigits_ne_nil] at hd
        | cons d ds =>
            rw [hd] at h
            have := htenth (by rw [hd]; exact h)
            omega

/-- The digits of a number stand for it. -/
theorem foldl_decimalDigits (n : Nat) : (decimalDigits n).foldl (fun n d => n * 10 + d) 0 = n := by
  have hof := Nat.ofDigitChars_ten_toDigits (n := n)
  rw [Nat.ofDigitChars_eq_foldl] at hof
  rw [decimalDigits, digitValues, List.foldl_map]
  simpa [Nat.mul_comm] using hof

/-- Printed digits are digits. -/
theorem isDigit_of_mem_toDigits {n : Nat} {c : Char} (h : c ∈ Nat.toDigits 10 n) :
    c.isDigit = true :=
  Nat.isDigit_of_mem_toDigits (by decide) (by decide) h

/-! ### Printed numbers -/

/-- What the printer makes the text of a number of. -/
structure PrintedNumber where
  negative : Bool
  whole : List Char
  /-- The digits after the point, which is left out if there are none. -/
  fraction : List Char
  /-- Whether the sign of the exponent is a minus sign, and its digits. -/
  exponent : Option (Bool × List Char)

namespace PrintedNumber

/-- The point and what follows it up to the exponent. -/
def fractionChars (p : PrintedNumber) : List Char :=
  match p.fraction with
  | [] => []
  | cs => '.' :: cs

/-- The exponent with its letter. -/
def exponentChars (p : PrintedNumber) : List Char :=
  match p.exponent with
  | none => []
  | some (down, cs) => 'e' :: (if down then '-' else '+') :: cs

/-- The characters of the number. -/
def chars (p : PrintedNumber) : List Char :=
  signChars p.negative ++ (p.whole ++ (p.fractionChars ++ p.exponentChars))

/-- The parts as the scanner gives them. -/
def text (p : PrintedNumber) : NumberText :=
  ⟨p.negative, digitValues p.whole, digitValues p.fraction,
    p.exponent.map fun (down, cs) => (down, digitValues cs)⟩

/-- The parts are digits, there is a whole part, and it begins with a zero only if that is all. -/
structure WellFormed (p : PrintedNumber) : Prop where
  whole_digits : ∀ c ∈ p.whole, c.isDigit = true
  whole_ne_nil : p.whole ≠ []
  whole_head : p.whole.head? = some '0' → p.whole.length = 1
  fraction_digits : ∀ c ∈ p.fraction, c.isDigit = true
  exponent_digits : ∀ e ∈ p.exponent, e.2 ≠ [] ∧ ∀ c ∈ e.2, c.isDigit = true

variable {p : PrintedNumber} {rest : Bytes}

theorem fractionChars_of_ne_nil (h : p.fraction ≠ []) : p.fractionChars = '.' :: p.fraction := by
  rw [fractionChars]
  split
  · next hnil => exact absurd hnil h
  · rfl

/-- **A printed number is spelled in one of the ways that there are**: the letter of its exponent is
small, and a sign comes after it. -/
def spelling (p : PrintedNumber) (hp : p.WellFormed) : NumberSpelling where
  negative := p.negative
  whole := p.whole
  fraction := p.fraction
  exponent := p.exponent.map fun (down, cs) => (⟨false, some down⟩, cs)
  whole_digits := hp.whole_digits
  whole_ne_nil := hp.whole_ne_nil
  whole_head := hp.whole_head
  fraction_digits := hp.fraction_digits
  exponent_digits := by
    intro e he
    obtain ⟨⟨down, cs⟩, hmem, rfl⟩ := Option.map_eq_some_iff.mp he
    exact hp.exponent_digits (down, cs) hmem

theorem chars_spelling (hp : p.WellFormed) : (p.spelling hp).chars = p.chars := by
  obtain ⟨negative, whole, fraction, exponent⟩ := p
  cases exponent <;> rfl

theorem text_spelling (hp : p.WellFormed) : (p.spelling hp).text = p.text := by
  obtain ⟨negative, whole, fraction, exponent⟩ := p
  cases exponent <;> rfl

/-- **The text of a number is one token.** -/
theorem next?_chars (hp : p.WellFormed) (hrest : EndsNumber rest) :
    Token.next? (utf8 p.chars ++ rest) = some (.number p.text, rest) := by
  rw [← chars_spelling hp, ← text_spelling hp]
  exact (p.spelling hp).next?_chars hrest

/-- The text of a whole number. -/
def ofInt (i : Int) : PrintedNumber := ⟨decide (i < 0), Nat.toDigits 10 i.natAbs, [], none⟩

theorem chars_ofInt (i : Int) : (ofInt i).chars = integerChars i := by
  rw [chars, integerChars]
  by_cases h : i < 0 <;> simp [ofInt, h, signChars, fractionChars, exponentChars]

theorem wellFormed_ofInt (i : Int) : (ofInt i).WellFormed where
  whole_digits _ := isDigit_of_mem_toDigits
  whole_ne_nil := Nat.toDigits_ne_nil
  whole_head h := by
    have hzero : (decimalDigits i.natAbs).head? = some 0 := by
      rw [decimalDigits, digitValues, List.head?_map]
      exact congrArg (Option.map _) h
    have hnat := eq_zero_of_head?_decimalDigits hzero
    simp [ofInt, hnat]
  fraction_digits _ h := absurd h List.not_mem_nil
  exponent_digits _ h := absurd h (Option.not_mem_none _)

end PrintedNumber

/-! ### Exponents -/

/-- What an exponent stands for. -/
def NumberText.exponentValue (t : NumberText) : Int :=
  match t.exponent with
  | none => 0
  | some (down, digits) =>
    let n : Nat := digits.foldl (fun n d => n * 10 + d) 0
    if down then -n else n

namespace PrintedNumber

theorem exponentValue_text_of_none (p : PrintedNumber) (h : p.exponent = none) :
    p.text.exponentValue = 0 := by
  simp [NumberText.exponentValue, text, h]

theorem exponentValue_text (p : PrintedNumber) {down : Bool} {n : Nat}
    (h : p.exponent = some (down, Nat.toDigits 10 n)) :
    p.text.exponentValue = if down then -(n : Int) else n := by
  have hfold := foldl_decimalDigits n
  rw [decimalDigits] at hfold
  simp [NumberText.exponentValue, text, h, hfold]

end PrintedNumber

/-! ### Floating-point numbers -/

end FanControl.Json

namespace FanControl.Decimal

open FloatingPoint Json

/-- Digits that a shortest decimal may consist of. -/
structure IsSignificand (ds : List Char) : Prop where
  digits : ∀ c ∈ ds, c.isDigit = true
  ne_nil : ds ≠ []
  head : ds.head? ≠ some '0'

/-- The digits of a positive number without the zeros it ends in. -/
theorem isSignificand_significantDigits {n : Nat} (h : 0 < n) :
    IsSignificand (significantDigits n) := by
  have htake : significantDigits n <+: Nat.toDigits 10 n := List.rdropWhile_prefix _ _
  have hhead : (Nat.toDigits 10 n).head? ≠ some '0' := by
    intro hzero
    have hdigits : (decimalDigits n).head? = some 0 := by
      rw [decimalDigits, digitValues, List.head?_map, hzero]
      rfl
    exact absurd (eq_zero_of_head?_decimalDigits hdigits) (Nat.ne_of_gt h)
  have hne : significantDigits n ≠ [] := by
    intro hnil
    obtain ⟨c, cs, hcons⟩ :=
      List.exists_cons_of_ne_nil (Nat.toDigits_ne_nil (b := 10) (n := n))
    have hzeros := List.rdropWhile_eq_nil_iff.mp hnil
    have hc := hzeros c (by simp [hcons])
    refine hhead ?_
    rw [hcons, List.head?_cons]
    exact congrArg some (of_decide_eq_true hc)
  refine ⟨fun c hc => isDigit_of_mem_toDigits (htake.subset hc), hne, ?_⟩
  obtain ⟨more, hmore⟩ := htake
  rwa [← hmore, List.head?_append_of_ne_nil _ hne] at hhead

/-- A fraction of digits behind zero or a significand is well-formed. -/
theorem wellFormed_fraction (negative : Bool) {whole fraction : List Char}
    (hwhole : whole = ['0'] ∨ IsSignificand whole) (hfraction : ∀ c ∈ fraction, c.isDigit = true) :
    (PrintedNumber.mk negative whole fraction none).WellFormed where
  whole_digits := by
    rcases hwhole with rfl | h
    · simp
    · exact h.digits
  whole_ne_nil := by
    rcases hwhole with rfl | h
    · simp
    · exact h.ne_nil
  whole_head hzero := by
    rcases hwhole with rfl | h
    · rfl
    · exact absurd hzero h.head
  fraction_digits := hfraction
  exponent_digits _ h := absurd h (Option.not_mem_none _)

/-- A number with a fraction is spelled with a point between its whole part and the fraction. -/
theorem chars_fraction (negative : Bool) (whole : List Char) {fraction : List Char}
    (h : fraction ≠ []) :
    (PrintedNumber.mk negative whole fraction none).chars =
      signChars negative ++ (whole ++ '.' :: fraction) := by
  rw [PrintedNumber.chars, PrintedNumber.fractionChars_of_ne_nil h]
  simp [PrintedNumber.exponentChars]

/-- More digits behind a significand make another, and so does a part of it. -/
theorem IsSignificand.append {ds : List Char} (h : IsSignificand ds) {more : List Char}
    (hmore : ∀ c ∈ more, c.isDigit = true) : IsSignificand (ds ++ more) where
  digits c hc := (List.mem_append.mp hc).elim (h.digits c) (hmore c)
  ne_nil := by simp [h.ne_nil]
  head := by
    rw [List.head?_append_of_ne_nil _ h.ne_nil]
    exact h.head

theorem IsSignificand.take {ds : List Char} (h : IsSignificand ds) {n : Nat} (hn : 0 < n) :
    IsSignificand (ds.take n) where
  digits c hc := h.digits c (List.mem_of_mem_take hc)
  ne_nil := by simp [h.ne_nil, Nat.ne_of_gt hn]
  head := by
    rw [List.head?_take, if_neg (Nat.ne_of_gt hn)]
    exact h.head

/-- **A number in positional form is well-formed**, and its whole part has no more digits than its
first one makes necessary. -/
theorem positional_printed {ds : List Char} (hds : IsSignificand ds) (negative : Bool) (e : Int) :
    ∃ p : PrintedNumber, p.WellFormed ∧ p.chars = signChars negative ++ positional ds e ∧
      p.whole.length ≤ e.toNat + 1 ∧ p.exponent = none := by
  have hzeros (n : Nat) : ∀ c ∈ List.replicate n '0', c.isDigit = true := by
    intro c hc
    rw [(List.mem_replicate.mp hc).2]
    rfl
  rw [positional]
  split
  · have hdigits : ∀ c ∈ List.replicate ((-e).toNat - 1) '0' ++ ds, c.isDigit = true :=
      fun c hc => (List.mem_append.mp hc).elim (hzeros _ c) (hds.digits c)
    exact ⟨_, wellFormed_fraction negative (.inl rfl) hdigits,
      chars_fraction negative ['0'] (by simp [hds.ne_nil]), Nat.le_add_left 1 _, rfl⟩
  · dsimp only
    split
    · next hlength =>
      have hwhole : IsSignificand (ds ++ List.replicate (e.toNat + 1 - ds.length) '0') :=
        hds.append (hzeros _)
      refine ⟨_, wellFormed_fraction negative (.inr hwhole) (hzeros 1), ?_, ?_, rfl⟩
      · rw [chars_fraction negative _ (by simp), List.append_assoc]
        simp
      · rw [List.length_append, List.length_replicate]
        omega
    · next hlength =>
      refine ⟨_, wellFormed_fraction negative (.inr (hds.take (Nat.succ_pos e.toNat)))
        (fun c hc => hds.digits c (List.mem_of_mem_drop hc)), chars_fraction negative _ ?_, ?_, rfl⟩
      · rw [ne_eq, List.drop_eq_nil_iff]
        exact hlength
      · exact List.length_take_le _ _

/-- **A number in scientific form is well-formed**, with one digit before the point. -/
theorem scientific_printed {ds : List Char} (hds : IsSignificand ds) (negative : Bool) (e : Int) :
    ∃ p : PrintedNumber, p.WellFormed ∧ p.chars = signChars negative ++ scientific ds e ∧
      p.whole.length ≤ 1 ∧ p.exponent = some (decide (e < 0), Nat.toDigits 10 e.natAbs) := by
  have hfirst : IsSignificand (ds.take 1) := hds.take Nat.one_pos
  refine ⟨⟨negative, ds.take 1, ds.drop 1, _⟩, ⟨hfirst.digits, hfirst.ne_nil,
    fun h => absurd h hfirst.head, fun c hc => hds.digits c (List.mem_of_mem_drop hc), ?_⟩, ?_,
    List.length_take_le _ _, rfl⟩
  · intro p hp
    obtain rfl := Option.mem_some_iff.mp hp
    exact ⟨Nat.toDigits_ne_nil, fun _ => isDigit_of_mem_toDigits⟩
  · rw [PrintedNumber.chars, PrintedNumber.fractionChars, PrintedNumber.exponentChars, scientific]
    cases ds.drop 1 <;> simp

/-- **A finite number is printed well-formed.** Its whole part and its exponent are no larger than
the style allows, or than the first digit of a number below `2 ^ b` makes necessary. -/
theorem Style.write_printed (style : Style) (hgreatest : 0 ≤ style.greatest) (F : Format)
    (negative : Bool) {quanta b m : Nat} (hquanta : quanta < 2 ^ (F.scale + b))
    (hpower : 2 ^ (b + 1) ≤ 10 ^ m) :
    ∃ p : PrintedNumber, p.WellFormed ∧ p.chars = style.write F negative quanta ∧
      p.whole.length + p.text.exponentValue ≤ max (style.greatest + 1) m := by
  have hsign (cs : List Char) :
      signChars negative ++ cs = if negative then '-' :: cs else cs := by
    cases negative <;> rfl
  rw [Style.write]
  by_cases hzero : quanta = 0
  · rw [if_pos hzero, ← hsign]
    refine ⟨_, wellFormed_fraction negative (.inl rfl) (by simp),
      chars_fraction negative ['0'] (List.cons_ne_nil '0' []), ?_⟩
    exact le_max_of_le_left (show (1 : Int) + 0 ≤ style.greatest + 1 by omega)
  · rw [if_neg hzero]
    have happrox := shortest_approximates F (Nat.pos_of_ne_zero hzero)
    have hleading := happrox.leading_lt hquanta hpower
    have hds := isSignificand_significantDigits happrox.pos
    dsimp only
    generalize (shortest F quanta).exponent + (Nat.toDigits 10 (shortest F quanta).digits).length -
      1 = e at hleading ⊢
    rw [← hsign]
    split
    · next hrange =>
      obtain ⟨p, hp, hchars, hlength, hexponent⟩ := positional_printed hds negative e
      refine ⟨p, hp, hchars, le_max_of_le_left ?_⟩
      rw [p.exponentValue_text_of_none hexponent]
      omega
    · obtain ⟨p, hp, hchars, hlength, hexponent⟩ := scientific_printed hds negative e
      refine ⟨p, hp, hchars, le_max_of_le_right ?_⟩
      rw [p.exponentValue_text hexponent]
      simp only [decide_eq_true_eq]
      split <;> omega

end FanControl.Decimal

namespace FanControl.Json

open FloatingPoint
open Text (utf8)

/-! ### Tokens of numbers -/

/-- The token that the text of a number begins with. -/
def Number.token (n : Number) : Token := ((Token.next? (utf8 n.chars)).map (·.1)).getD .null

/-- A number that is printed well-formed is one token. -/
theorem Number.token_of_printed {n : Number} {p : PrintedNumber} (hp : p.WellFormed)
    (hchars : p.chars = n.chars) : n.token = .number p.text := by
  have hnext := PrintedNumber.next?_chars hp endsNumber_nil
  rw [List.append_nil, hchars] at hnext
  rw [token, hnext]
  rfl

/-- A datum is printed well-formed, or as `null`. -/
theorem writeFinite?_printed (style : Decimal.Style) (hgreatest : 0 ≤ style.greatest) {F : Format}
    (x : Datum F) :
    style.writeFinite? x = none ∨
      ∃ p : PrintedNumber, p.WellFormed ∧ style.writeFinite? x = some p.chars := by
  cases x with
  | nan | infinite => exact .inl rfl
  | finite negative quanta =>
      have hquanta : quanta < 2 ^ (F.scale + quanta) :=
        lt_of_lt_of_le Nat.lt_two_pow_self
          (Nat.pow_le_pow_right (by decide) (Nat.le_add_left quanta F.scale))
      obtain ⟨p, hp, hchars, -⟩ := style.write_printed hgreatest F negative hquanta
        (Nat.pow_le_pow_left (by decide : 2 ≤ 10) (quanta + 1))
      exact .inr ⟨p, hp, congrArg some hchars.symm⟩

/-- **Every number is printed well-formed, or as `null`.** -/
theorem Number.chars_cases (n : Number) :
    n.chars = ['n', 'u', 'l', 'l'] ∨ ∃ p : PrintedNumber, p.WellFormed ∧ p.chars = n.chars := by
  have hfloat {style : Decimal.Style} (hgreatest : 0 ≤ style.greatest) {F : Format}
      (x : Datum F) (hchars : n.chars = (style.writeFinite? x).getD ['n', 'u', 'l', 'l']) :
      n.chars = ['n', 'u', 'l', 'l'] ∨ ∃ p : PrintedNumber, p.WellFormed ∧ p.chars = n.chars := by
    rcases writeFinite?_printed style hgreatest x with hnone | ⟨p, hp, hsome⟩
    · exact .inl (by rw [hchars, hnone, Option.getD_none])
    · exact .inr ⟨p, hp, by rw [hchars, hsome, Option.getD_some]⟩
  cases n with
  | integer i => exact .inr ⟨_, PrintedNumber.wellFormed_ofInt i, PrintedNumber.chars_ofInt i⟩
  | double x => exact hfloat (by decide) x rfl
  | single x => exact hfloat (by decide) x.decode rfl

/-! ### Integers -/

/-- How a whole number stands in a text. -/
def NumberText.ofInt (i : Int) : NumberText := ⟨decide (i < 0), decimalDigits i.natAbs, [], none⟩

/-- The text of a whole number is the token of that number. -/
theorem Number.token_integer (i : Int) : (integer i).token = .number (.ofInt i) :=
  token_of_printed (PrintedNumber.wellFormed_ofInt i) (PrintedNumber.chars_ofInt i)

/-- Digits whose number fits are taken as a whole. -/
theorem absorb_of_lt {s : Nat} {ds : List Nat}
    (h : ds.foldl (fun n d => n * 10 + d) s < 0x10000000000000000) :
    absorb s ds = (ds.foldl (fun n d => n * 10 + d) s, []) := by
  induction ds generalizing s with
  | nil => rfl
  | cons d ds ih =>
      have hle (n : Nat) (ds : List Nat) : n ≤ ds.foldl (fun n d => n * 10 + d) n := by
        induction ds generalizing n with
        | nil => exact Nat.le_refl n
        | cons d ds ih =>
            have := ih (n * 10 + d)
            simp only [List.foldl_cons]
            omega
      have hnext := hle (s * 10 + d) ds
      rw [List.foldl_cons] at h ⊢
      rw [absorb, if_pos (by omega), ih h]

/-- **A printed whole number stands for what was printed**, if it fits in 64 bits. -/
theorem NumberText.value?_ofInt {i : Int} (hlow : -0x8000000000000000 ≤ i)
    (hhigh : i < 0x10000000000000000) : (ofInt i).value? = some (.integer i) := by
  have hfits : (decimalDigits i.natAbs).foldl (fun n d => n * 10 + d) 0 < 0x10000000000000000 := by
    rw [foldl_decimalDigits]
    omega
  have habsorb := absorb_of_lt hfits
  rw [foldl_decimalDigits] at habsorb
  simp only [value?, ofInt, habsorb, and_self, if_true]
  by_cases hneg : i < 0
  · have hpos : 0 < i.natAbs ∧ i.natAbs ≤ 0x8000000000000000 := by omega
    have hi : (-(i.natAbs : Int)) = i := by omega
    simp only [hneg, hpos, hi, decide_true, Bool.not_true, Bool.false_eq_true, and_self, if_true,
      if_false]
  · have hi : (i.natAbs : Int) = i := by omega
    simp only [hneg, hi, decide_false, Bool.not_false, if_true]

/-! ### Decimals in range -/

/-- What is absorbed fits in 64 bits. -/
theorem absorb_lt {s : Nat} (hs : s < 2 ^ 64) (ds : List Nat) : (absorb s ds).1 < 2 ^ 64 := by
  induction ds generalizing s with
  | nil => exact hs
  | cons d ds ih =>
      rw [absorb]
      split
      · next hlt => exact ih (by omega)
      · exact hs

/-- What is not absorbed is some of the digits. -/
theorem absorb_length (s : Nat) (ds : List Nat) : (absorb s ds).2.length ≤ ds.length := by
  induction ds generalizing s with
  | nil => exact Nat.le_refl _
  | cons d ds ih =>
      rw [absorb]
      split
      · exact Nat.le_succ_of_le (ih _)
      · exact Nat.le_refl _

/-- **A significand of 64 bits times a moderate power of ten is in range.** -/
theorem scaleByTen?_isSome {significand : Nat} (hsignificand : significand < 2 ^ 64) {e : Int}
    (he : e ≤ 64) : (scaleByTen? significand e).isSome = true := by
  rw [scaleByTen?]
  dsimp only
  split
  · next hpos =>
    have hscale : Format.double.scale = 1074 := rfl
    have htop : Format.double.top = 2098 := rfl
    have hten : 10 ^ e.toNat < 2 ^ 213 := by
      calc 10 ^ e.toNat ≤ 10 ^ 64 := Nat.pow_le_pow_right (by decide) (by omega)
        _ < 2 ^ 213 := by decide
    obtain ⟨m, hm, hx⟩ : ∃ quanta ≤ _, Datum.ofInt .double significand = .finite _ quanta :=
      Datum.ofInt_eq_finite (i := significand) (k := 64) (by simpa using hsignificand)
        (by rw [hscale, htop]; decide)
    obtain ⟨n, hn, hy⟩ : ∃ quanta ≤ _, tenTo e.toNat = .finite _ quanta :=
      Datum.ofInt_eq_finite (i := (Nat.pow 10 e.toNat : Nat)) (k := 213)
        (by simpa using hten) (by rw [hscale, htop]; decide)
    have hlt {q k : Nat} (h : q ≤ 2 ^ (k + Format.double.scale)) :
        q < 2 ^ (k + 1 + Format.double.scale) :=
      lt_of_le_of_lt h (Nat.pow_lt_pow_right (by decide) (by omega))
    obtain ⟨q, -, hmul⟩ := Datum.mul_eq_finite (F := .double) (decide ((significand : Int) < 0))
      (decide (((Nat.pow 10 e.toNat : Nat) : Int) < 0)) (hlt hm) (hlt hn)
      (by rw [hscale, htop]; decide)
    rw [if_pos (by omega), hx, hy, hmul]
    rfl
  · split
    · rfl
    · split <;> rfl

/-- **A number whose digits and exponent are moderate is in range.** -/
theorem NumberText.value?_isSome {t : NumberText}
    (h : t.whole.length + t.exponentValue ≤ 64) : t.value?.isSome = true := by
  have hdropped := absorb_length 0 t.whole
  have hwhole := absorb_lt (s := 0) (by decide) t.whole
  rw [value?]
  generalize absorb 0 t.whole = found at hdropped hwhole ⊢
  obtain ⟨whole, dropped⟩ := found
  dsimp only at hdropped hwhole ⊢
  split
  · split
    · rfl
    · split <;> rfl
  · have hsignificand := absorb_lt hwhole t.fraction
    generalize absorb whole t.fraction = found at hsignificand ⊢
    obtain ⟨significand, ignored⟩ := found
    rw [Option.isSome_map]
    refine scaleByTen?_isSome hsignificand ?_
    change (dropped.length : Int) - (t.fraction.length - ignored.length : Nat) +
      t.exponentValue ≤ 64
    omega

/-- A single-precision number that is not finite is printed as `null`. -/
theorem Number.token_single {x : Binary32} (h : x.isFinite = false) :
    (single x).token = .null := by
  cases hdecode : x.decode with
  | nan | infinite =>
      rw [token, chars, hdecode]
      rfl
  | finite negative quanta =>
      rw [Binary32.isFinite, hdecode] at h
      cases h

/-- **A finite single-precision number is printed as a number in range.** -/
theorem Number.value?_single {x : Binary32} (h : x.isFinite = true) :
    ∃ t n, (single x).token = .number t ∧ t.value? = some n := by
  cases hdecode : x.decode with
  | nan | infinite =>
      rw [Binary32.isFinite, hdecode] at h
      cases h
  | finite negative quanta =>
      obtain ⟨p, hp, hchars, hmoderate⟩ := Decimal.Style.single.write_printed (by decide) .single
        negative (x.decode_lt hdecode) (m := 39) (by decide)
      have hin : p.text.value?.isSome = true := by
        refine NumberText.value?_isSome (le_trans ?_ (hmoderate.trans (by decide)))
        exact le_of_eq (by simp [PrintedNumber.text, digitValues])
      obtain ⟨n, hn⟩ := Option.isSome_iff_exists.mp hin
      refine ⟨p.text, n, token_of_printed hp ?_, hn⟩
      rw [hchars, chars, hdecode]
      rfl

end FanControl.Json

import FanControl.Text.Bytes
import Mathlib.Data.List.TakeDrop

/-!
# Texts and their bytes

A text and its UTF-8 encoding are one thing in two forms, and this module lets proofs go from one
to the other: the bytes of a text are those of its characters, one after another, and reading them
gives the text back. A character of ASCII is one byte, its number; **every byte of another
character is beyond ASCII**, so a scanner that looks for ASCII bytes never stops inside one.
-/

namespace FanControl.Text

/-- A span goes up to where its condition ends. -/
theorem span_append {α : Type} {p : α → Bool} {xs ys : List α} (hxs : ∀ x ∈ xs, p x = true)
    (hys : ∀ y ∈ ys.head?, p y = false) : (xs ++ ys).span p = (xs, ys) := by
  have hnone : ys.takeWhile p = [] ∧ ys.dropWhile p = ys := by
    cases ys with
    | nil => exact ⟨rfl, rfl⟩
    | cons y ys => simp [hys y rfl]
  rw [List.span_eq_takeWhile_dropWhile, List.takeWhile_append_of_pos hxs,
    List.dropWhile_append_of_pos hxs, hnone.1, hnone.2, List.append_nil]

/-- The bytes of some characters, one after another. -/
def utf8 (cs : List Char) : Bytes := cs.flatMap String.utf8EncodeChar

@[simp] theorem utf8_nil : utf8 [] = [] := rfl

@[simp] theorem utf8_cons (c : Char) (cs : List Char) :
    utf8 (c :: cs) = String.utf8EncodeChar c ++ utf8 cs := by
  simp [utf8]

@[simp] theorem utf8_append (cs ds : List Char) :
    utf8 (cs ++ ds) = utf8 cs ++ utf8 ds := by
  simp [utf8]

/-- The bytes of a text are those of its characters. -/
theorem bytes_ofList (cs : List Char) : bytes (String.ofList cs) = utf8 cs := by
  simp [bytes, utf8, List.utf8Encode]

theorem bytes_eq (s : String) : bytes s = utf8 s.toList := by
  rw [← bytes_ofList, String.ofList_toList]

/-- **Reading the bytes of a text gives the text back.** -/
@[simp] theorem ofBytes?_bytes (s : String) : ofBytes? (bytes s) = some s := by
  have harray : (⟨(bytes s).toArray⟩ : ByteArray) = s.toByteArray := by simp [bytes]
  rw [ofBytes?, harray, String.fromUTF8?, dif_pos s.isValidUTF8]
  rfl

theorem ofBytes?_utf8 (cs : List Char) : ofBytes? (utf8 cs) = some (String.ofList cs) := by
  rw [← bytes_ofList, ofBytes?_bytes]

/-- A character of ASCII is one byte. -/
theorem utf8EncodeChar_of_lt {c : Char} (h : c.toNat < 128) :
    String.utf8EncodeChar c = [UInt8.ofNat c.toNat] :=
  if_pos (Nat.le_of_lt_succ h)

/-- Every byte of another character is beyond ASCII. -/
theorem le_of_mem_utf8EncodeChar {c : Char} (h : 128 ≤ c.toNat) {b : UInt8}
    (hb : b ∈ String.utf8EncodeChar c) : 128 ≤ b.toNat := by
  have hlt : ¬ c.val.toNat ≤ 127 := Nat.not_le.mpr h
  have hbyte {x k : Nat} (hk : 128 ≤ k) (hx : x + k < 256) : 128 ≤ (UInt8.ofNat (x + k)).toNat := by
    rw [UInt8.toNat_ofNat', Nat.mod_eq_of_lt hx]
    omega
  -- Each byte is a remainder and a mark of at least 128.
  simp only [String.utf8EncodeChar] at hb
  rw [if_neg hlt] at hb
  split at hb
  · simp only [List.mem_cons, List.not_mem_nil, or_false] at hb
    rcases hb with rfl | rfl <;> exact hbyte (by decide) (by omega)
  · split at hb
    · simp only [List.mem_cons, List.not_mem_nil, or_false] at hb
      rcases hb with rfl | rfl | rfl <;> exact hbyte (by decide) (by omega)
    · simp only [List.mem_cons, List.not_mem_nil, or_false] at hb
      rcases hb with rfl | rfl | rfl | rfl <;> exact hbyte (by decide) (by omega)

/-- A byte of ASCII in the encoding of a character is the number of the character. -/
theorem toNat_eq_of_mem_utf8EncodeChar {c : Char} {b : UInt8} (hb : b ∈ String.utf8EncodeChar c)
    (hascii : b.toNat < 128) : c.toNat = b.toNat := by
  by_cases hlt : c.toNat < 128
  · rw [utf8EncodeChar_of_lt hlt, List.mem_singleton] at hb
    subst hb
    rw [UInt8.toNat_ofNat', Nat.mod_eq_of_lt (by omega)]
  · have := le_of_mem_utf8EncodeChar (Nat.le_of_not_lt hlt) hb
    omega

end FanControl.Text

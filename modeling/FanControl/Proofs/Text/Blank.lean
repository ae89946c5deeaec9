import FanControl.Text.Blank
import Mathlib.Data.List.TakeWhile

/-!
# Texts without what is around them

Dropping characters from an end of a text takes away a run of them, and **what is left does not go
on with the run**. That says all about it: `dropWhile_eq_iff` and `dropEndWhile_eq_iff` are the
rules by which blanks and slashes go, and all else in this module is read off from them.

A text that loses its blanks and then its slashes may end in a blank again. It does so just when it
`HidesBlank`s: when a blank stands in front of the slashes, where nobody looks for blanks any more
once it has come to the end.

## Main results

* `trim_eq_iff`, `trimSlashes_eq_iff`: what is left of a text;
* `hidesBlank_iff`: when blanks are left after the slashes have gone.
-/

namespace FanControl.Text

/-! ### Runs of characters -/

section

variable {p : Char → Bool} {cs ds : List Char}

/-- **What is left without the first characters** that have a property begins with one that has
not. -/
theorem dropWhile_eq_iff : cs.dropWhile p = ds ↔
    ∃ front, cs = front ++ ds ∧ (∀ c ∈ front, p c = true) ∧ ∀ c ∈ ds.head?, p c = false := by
  constructor
  · rintro rfl
    refine ⟨cs.takeWhile p, List.takeWhile_append_dropWhile.symm,
      fun c => List.mem_takeWhile_imp, fun c hc => ?_⟩
    have hhead := List.head?_dropWhile_not p cs
    rw [Option.mem_def.mp hc] at hhead
    exact hhead
  · rintro ⟨front, rfl, hfront, hhead⟩
    rw [List.dropWhile_append_of_pos hfront]
    cases ds with
    | nil => rfl
    | cons d ds => exact List.dropWhile_cons_of_neg (by simp [hhead d rfl])

/-- **What is left without the last characters** that have a property ends in one that has not. -/
theorem dropEndWhile_eq_iff : dropEndWhile p cs = ds ↔
    ∃ back, cs = ds ++ back ∧ (∀ c ∈ back, p c = true) ∧ ∀ c ∈ ds.getLast?, p c = false := by
  rw [dropEndWhile, List.reverse_eq_iff, dropWhile_eq_iff]
  constructor
  · rintro ⟨front, hcs, hfront, hhead⟩
    refine ⟨front.reverse, ?_, by simpa using hfront, by simpa using hhead⟩
    rw [← List.reverse_inj, hcs, List.reverse_append, List.reverse_reverse]
  · rintro ⟨back, rfl, hback, hlast⟩
    exact ⟨back.reverse, List.reverse_append, by simpa using hback, by simpa using hlast⟩

end

/-! ### Blanks and slashes -/

/-- A text without blanks at its ends. -/
structure Trimmed (s : String) : Prop where
  start : ∀ c ∈ s.toList.head?, isBlank c = false
  stop : ∀ c ∈ s.toList.getLast?, isBlank c = false

/-- The beginning of a text that is left begins as the text does. -/
theorem mem_head?_of_append {cs ds : List Char} {c : Char} (h : c ∈ cs.head?) :
    c ∈ (cs ++ ds).head? := by
  rw [List.head?_append, Option.mem_def.mp h]
  rfl

/-- **A text is trimmed to what stands between blanks** and has none at its ends. -/
theorem trim_eq_iff {s t : String} : trim s = t ↔ Trimmed t ∧ ∃ front back,
    s.toList = front ++ (t.toList ++ back) ∧ (∀ c ∈ front, isBlank c = true) ∧
      ∀ c ∈ back, isBlank c = true := by
  rw [trim, ← String.toList_inj, String.toList_ofList, dropEndWhile_eq_iff]
  constructor
  · rintro ⟨back, hback, hblank, hlast⟩
    obtain ⟨front, hs, hfront, hhead⟩ := dropWhile_eq_iff.mp hback
    exact ⟨⟨fun c hc => hhead c (mem_head?_of_append hc), hlast⟩, front, back, hs, hfront, hblank⟩
  · rintro ⟨htrimmed, front, back, hs, hfront, hback⟩
    cases ht : t.toList with
    | nil =>
        have hblank : ∀ c ∈ s.toList, isBlank c = true := by
          rw [hs, ht]
          simpa [or_imp, forall_and] using ⟨hfront, hback⟩
        exact ⟨[], List.dropWhile_eq_nil_iff.mpr hblank, by simp, by simp⟩
    | cons c cs =>
        have hstart : isBlank c = false := htrimmed.start c (by simp [ht])
        refine ⟨back, ?_, hback, ht ▸ htrimmed.stop⟩
        rw [dropWhile_eq_iff]
        exact ⟨front, ht ▸ hs, hfront, by simp [hstart]⟩

/-- Texts without blanks at their ends stay as they are. -/
theorem trim_eq_self_iff {s : String} : trim s = s ↔ Trimmed s :=
  ⟨fun h => (trim_eq_iff.mp h).1, fun h => trim_eq_iff.mpr ⟨h, [], [], by simp, by simp, by simp⟩⟩

/-- **A text without the slashes that it ends in** stands before these and ends in none. -/
theorem trimSlashes_eq_iff {s t : String} : trimSlashes s = t ↔ t.toList.getLast? ≠ some '/' ∧
    ∃ slashes, s.toList = t.toList ++ slashes ∧ ∀ c ∈ slashes, c = '/' := by
  have hlast (o : Option Char) : (∀ c ∈ o, decide (c = '/') = false) ↔ o ≠ some '/' := by
    cases o <;> simp
  rw [trimSlashes, ← String.toList_inj, String.toList_ofList, dropEndWhile_eq_iff, hlast]
  simp only [decide_eq_true_eq, ← and_assoc, exists_and_right]
  exact and_comm

/-- Texts that do not end in a slash stay as they are. -/
theorem trimSlashes_eq_self_iff {s : String} :
    trimSlashes s = s ↔ s.toList.getLast? ≠ some '/' :=
  ⟨fun h => (trimSlashes_eq_iff.mp h).1,
    fun h => trimSlashes_eq_iff.mpr ⟨h, [], by simp, by simp⟩⟩

/-- A slash is no blank. -/
theorem ne_slash_of_isBlank {c : Char} (h : isBlank c = true) : c ≠ '/' := by
  rintro rfl
  exact absurd h (by decide)

/-! ### Blanks behind slashes -/

/-- A text that has a blank in front of the slashes at its end. The slashes may have blanks after
them, and something that is no blank stands before it all. -/
def HidesBlank (s : String) : Prop :=
  ∃ before blank slashes after, s.toList = before ++ blank :: (slashes ++ after) ∧
    (∃ c ∈ before, isBlank c = false) ∧ isBlank blank = true ∧
    slashes ≠ [] ∧ (∀ c ∈ slashes, c = '/') ∧ ∀ c ∈ after, isBlank c = true

/-- No blank is left at the beginning. -/
theorem start_trimSlashes_trim (s : String) :
    ∀ c ∈ (trimSlashes (trim s)).toList.head?, isBlank c = false := by
  obtain ⟨htrimmed, -⟩ := trim_eq_iff.mp (rfl : trim s = trim s)
  obtain ⟨-, slashes, hslashes, -⟩ := trimSlashes_eq_iff.mp (rfl : trimSlashes (trim s) = _)
  intro c hc
  exact htrimmed.start c (hslashes ▸ mem_head?_of_append hc)

/-- A hidden blank is left. -/
theorem HidesBlank.not_trimmed {s : String} (h : HidesBlank s) :
    ¬Trimmed (trimSlashes (trim s)) := by
  obtain ⟨before, blank, slashes, after, hs, ⟨c, hc, hvisible⟩, hblank, hne, hslashes, hafter⟩ := h
  obtain ⟨front, hbefore, hfront, hhead⟩ := dropWhile_eq_iff.mp (rfl : before.dropWhile isBlank = _)
  generalize before.dropWhile isBlank = shown at hbefore hhead
  have hshown : shown ≠ [] := by
    rintro rfl
    rw [hbefore, List.append_nil] at hc
    exact absurd (hfront c hc) (by simp [hvisible])
  have htrim : trim s = String.ofList (shown ++ blank :: slashes) := by
    refine trim_eq_iff.mpr ⟨⟨fun c hc => ?_, fun c hc => ?_⟩, front, after, ?_, hfront, hafter⟩
    · obtain ⟨first, rest, rfl⟩ := List.exists_cons_of_ne_nil hshown
      rw [String.toList_ofList] at hc
      exact hhead c hc
    · obtain ⟨slash, hlast⟩ := Option.isSome_iff_exists.mp (List.getLast?_isSome.mpr hne)
      obtain rfl : slash = c := by simpa [List.getLast?_cons, hlast] using hc
      rw [hslashes slash (List.mem_of_getLast? hlast)]
      decide
    · simp [hs, hbefore]
  have hleft : trimSlashes (trim s) = String.ofList (shown ++ [blank]) := by
    refine trimSlashes_eq_iff.mpr ⟨?_, slashes, by simp [htrim], hslashes⟩
    simpa using ne_slash_of_isBlank hblank
  intro htrimmed
  have hstop := htrimmed.stop blank (by simp [hleft])
  exact absurd hblank (by simp [hstop])

/-- **Which texts end in a blank once their blanks and then their slashes have gone.** -/
theorem hidesBlank_iff {s : String} : HidesBlank s ↔ ¬Trimmed (trimSlashes (trim s)) := by
  refine ⟨HidesBlank.not_trimmed, fun h => ?_⟩
  obtain ⟨htrimmed, front, back, hs, hfront, hback⟩ := trim_eq_iff.mp (rfl : trim s = trim s)
  obtain ⟨-, slashes, ht, hslashes⟩ := trimSlashes_eq_iff.mp (rfl : trimSlashes (trim s) = _)
  have hstart := start_trimSlashes_trim s
  generalize trim s = t at htrimmed hs ht h hstart
  generalize trimSlashes t = u at ht h hstart
  obtain ⟨blank, hlast, hblank⟩ : ∃ c ∈ u.toList.getLast?, isBlank c = true := by
    by_contra hnone
    exact h ⟨hstart, fun c hc => by simpa using fun hblank => hnone ⟨c, hc, hblank⟩⟩
  obtain ⟨before, hu⟩ := List.getLast?_eq_some_iff.mp hlast
  refine ⟨front ++ before, blank, slashes, back, by simp [hs, ht, hu], ?_, hblank, ?_, hslashes,
    hback⟩
  · -- the text begins with something that is no blank, and so not with this one
    cases before with
    | nil => exact absurd (hstart blank (by simp [hu])) (by simp [hblank])
    | cons c before => exact ⟨c, by simp, hstart c (by simp [hu])⟩
  · rintro rfl
    exact absurd (htrimmed.stop blank (by simp [ht, hu])) (by simp [hblank])

end FanControl.Text

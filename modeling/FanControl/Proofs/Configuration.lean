import FanControl.Configuration
import FanControl.Proofs.Text.Blank

/-!
# Configurations that have been put in order

Putting a configuration in order makes every number positive that has to be, and keeps those that
are. With the address it goes through blanks and slashes one after the other, once each. An address
that hides a blank behind its slashes ends in that blank afterwards, so that it is neither clean nor
settled, and the next time it loses more. **These addresses are the only ones.**

## Main results

* `Configuration.sanitizeUrl_eq_self_iff`: addresses that are settled;
* `Configuration.sanitize_cleans_iff`: what is in order afterwards, and when all of it is.
-/

namespace FanControl.Configuration

open Text (Trimmed HidesBlank isBlank trim trimSlashes)

variable (c : Configuration)

/-! ### Numbers -/

/-- A configuration in which every interval, limit and count is positive. -/
structure Positive : Prop where
  pollIntervalMs : 0 < c.pollIntervalMs
  requestTimeoutMs : 0 < c.requestTimeoutMs
  uploadTimeoutMs : 0 < c.uploadTimeoutMs
  countdown : 0 < c.countdown
  tickMs : 0 < c.tickMs

/-- A configuration that has the dialect of another one and all of its positive numbers. -/
structure Keeps (d : Configuration) : Prop where
  dialect : d.dialect = c.dialect
  pollIntervalMs : 0 < c.pollIntervalMs → d.pollIntervalMs = c.pollIntervalMs
  requestTimeoutMs : 0 < c.requestTimeoutMs → d.requestTimeoutMs = c.requestTimeoutMs
  uploadTimeoutMs : 0 < c.uploadTimeoutMs → d.uploadTimeoutMs = c.uploadTimeoutMs
  countdown : 0 < c.countdown → d.countdown = c.countdown
  tickMs : 0 < c.tickMs → d.tickMs = c.tickMs

/-- **A configuration that is put in order has only positive numbers** where they have to be. -/
theorem positive_sanitize : c.sanitize.Positive := by
  have hword {x d : UInt64} (hd : 0 < d) : 0 < if x = 0 then d else x := by
    split
    · exact hd
    · next hx => exact UInt64.pos_iff_ne_zero.mpr hx
  refine ⟨hword (by decide), hword (by decide), hword (by decide), ?_, hword (by decide)⟩
  change 0 < if c.countdown = 0 then default.countdown else c.countdown
  split
  · decide
  · next hx => exact UInt32.pos_iff_ne_zero.mpr hx

/-- **A configuration that is put in order keeps its positive numbers** and its dialect. -/
theorem keeps_sanitize : c.Keeps c.sanitize := by
  have hword {x d : UInt64} (hx : 0 < x) : (if x = 0 then d else x) = x :=
    if_neg (UInt64.pos_iff_ne_zero.mp hx)
  have hcount {x d : UInt32} (hx : 0 < x) : (if x = 0 then d else x) = x :=
    if_neg (UInt32.pos_iff_ne_zero.mp hx)
  rw [sanitize]
  exact ⟨rfl, hword, hword, hword, hcount, hword⟩

/-- The address of a configuration is put in order by itself. -/
theorem deviceUrl_sanitize : c.sanitize.deviceUrl = sanitizeUrl c.deviceUrl := by
  rw [sanitize]

variable {c}

/-- Only the address can change where all numbers are positive. -/
theorem Keeps.eq_of_positive {d : Configuration} (hkeeps : c.Keeps d) (h : c.Positive)
    (hurl : d.deviceUrl = c.deviceUrl) : d = c := by
  obtain ⟨hdialect, hpoll, hrequest, hupload, hcountdown, htick⟩ := hkeeps
  cases c
  cases d
  rw [mk.injEq]
  exact ⟨hurl, hpoll h.pollIntervalMs, hrequest h.requestTimeoutMs, hupload h.uploadTimeoutMs,
    hdialect, hcountdown h.countdown, htick h.tickMs⟩

/-- A configuration with positive numbers is settled exactly if its address is. -/
theorem Positive.sanitize_eq_self_iff (h : c.Positive) :
    c.sanitize = c ↔ sanitizeUrl c.deviceUrl = c.deviceUrl := by
  rw [← c.deviceUrl_sanitize]
  exact ⟨congrArg deviceUrl, c.keeps_sanitize.eq_of_positive h⟩

/-! ### Addresses -/

/-- An address in order. -/
structure CleanUrl (url : String) : Prop extends Trimmed url where
  nonempty : url ≠ ""
  slash : url.toList.getLast? ≠ some '/'

/-- An address in order stands in where nothing is left of one. -/
theorem cleanUrl_default : CleanUrl default.deviceUrl where
  start := by
    intro c hc
    have hhead : default.deviceUrl.toList.head? = some 'h' := by decide
    obtain rfl : 'h' = c := Option.some.inj (hhead.symm.trans hc)
    rfl
  stop := by
    intro c hc
    have hlast : default.deviceUrl.toList.getLast? = some '1' := by decide
    obtain rfl : '1' = c := Option.some.inj (hlast.symm.trans hc)
    rfl
  nonempty := by decide
  slash := by decide

/-- An address that is put in order is what is left of it without blanks and slashes, or the default
if nothing is. -/
theorem sanitizeUrl_cases (url : String) :
    sanitizeUrl url = default.deviceUrl ∧ trimSlashes (trim url) = "" ∨
      sanitizeUrl url = trimSlashes (trim url) ∧ trimSlashes (trim url) ≠ "" := by
  rw [sanitizeUrl]
  split
  · next h => exact .inl ⟨rfl, h⟩
  · next h => exact .inr ⟨rfl, h⟩

/-- **An address that is put in order is not empty, does not begin with a blank and does not end in
a slash**, whatever it was. -/
theorem sanitizeUrl_clean (url : String) :
    sanitizeUrl url ≠ "" ∧ (∀ x ∈ (sanitizeUrl url).toList.head?, isBlank x = false) ∧
      (sanitizeUrl url).toList.getLast? ≠ some '/' := by
  rcases sanitizeUrl_cases url with ⟨h, -⟩ | ⟨h, hne⟩
  · rw [h]
    exact ⟨cleanUrl_default.nonempty, cleanUrl_default.start, cleanUrl_default.slash⟩
  · rw [h]
    exact ⟨hne, Text.start_trimSlashes_trim url, (Text.trimSlashes_eq_iff.mp rfl).1⟩

/-- **All blanks are gone from an address unless it hides one.** -/
theorem cleanUrl_sanitizeUrl_iff (url : String) :
    CleanUrl (sanitizeUrl url) ↔ ¬HidesBlank url := by
  obtain ⟨hne, hstart, hslash⟩ := sanitizeUrl_clean url
  rw [Text.hidesBlank_iff, not_not]
  rcases sanitizeUrl_cases url with ⟨h, hempty⟩ | ⟨h, -⟩
  · rw [h, hempty]
    exact iff_of_true cleanUrl_default ⟨by simp, by simp⟩
  · rw [← h]
    exact ⟨CleanUrl.toTrimmed, fun htrimmed => ⟨htrimmed, hne, hslash⟩⟩

/-- An address that is left as it is has no blanks around it. -/
theorem trimmed_of_trimSlashes_trim {url : String} (h : trimSlashes (trim url) = url) :
    Trimmed url := by
  obtain ⟨htrimmed, front, back, hs, -, -⟩ := Text.trim_eq_iff.mp (rfl : trim url = trim url)
  obtain ⟨-, slashes, ht, -⟩ := Text.trimSlashes_eq_iff.mp h
  -- nothing can have gone from an address that is as long as before
  have hfront := congrArg List.length hs
  have hback := congrArg List.length ht
  simp only [List.length_append] at hfront hback
  have hslashes : slashes = [] := List.eq_nil_of_length_eq_zero (by omega)
  have heq : trim url = url := String.toList_inj.mp (by simpa [hslashes] using ht)
  exact heq ▸ htrimmed

/-- **The addresses that are settled** are those in order. -/
theorem sanitizeUrl_eq_self_iff {url : String} : sanitizeUrl url = url ↔ CleanUrl url := by
  constructor
  · intro h
    obtain ⟨hne, -, hslash⟩ := h ▸ sanitizeUrl_clean url
    rcases sanitizeUrl_cases url with ⟨hdefault, -⟩ | ⟨hurl, -⟩
    · exact h.symm.trans hdefault ▸ cleanUrl_default
    · exact ⟨trimmed_of_trimSlashes_trim (hurl.symm.trans h), hne, hslash⟩
  · intro h
    rw [sanitizeUrl, Text.trim_eq_self_iff.mpr h.toTrimmed,
      Text.trimSlashes_eq_self_iff.mpr h.slash]
    exact if_neg h.nonempty

/-! ### Configurations -/

/-- **What is in order once a configuration has been put in order**: its numbers, and its address
up to a blank at the end. Such a blank is left, and goes only the next time, just where the address
hides one. -/
theorem sanitize_cleans_iff (c : Configuration) :
    c.sanitize.Positive ∧ c.Keeps c.sanitize ∧
    (c.sanitize.deviceUrl ≠ "" ∧
      (∀ x ∈ c.sanitize.deviceUrl.toList.head?, isBlank x = false) ∧
      c.sanitize.deviceUrl.toList.getLast? ≠ some '/') ∧
    (CleanUrl c.sanitize.deviceUrl ↔ ¬HidesBlank c.deviceUrl) ∧
    (c.sanitize.sanitize = c.sanitize ↔ ¬HidesBlank c.deviceUrl) := by
  have hclean := cleanUrl_sanitizeUrl_iff c.deviceUrl
  have hurl := sanitizeUrl_clean c.deviceUrl
  rw [← c.deviceUrl_sanitize] at hclean hurl
  refine ⟨c.positive_sanitize, c.keeps_sanitize, hurl, hclean, ?_⟩
  rw [c.positive_sanitize.sanitize_eq_self_iff, sanitizeUrl_eq_self_iff, hclean]

/-- An address that hides two blanks ends in one after the first time, and in the other after the
second. -/
theorem sanitize_hidden_blanks :
    let c := { default with deviceUrl := "http://fan / /" }
    c.sanitize.deviceUrl = "http://fan / " ∧ c.sanitize.sanitize.deviceUrl = "http://fan " ∧
      c.sanitize.sanitize ≠ c.sanitize := by
  decide +kernel

end FanControl.Configuration

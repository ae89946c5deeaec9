import FanControl.Http.MediaType
import FanControl.Proofs.Text.Bytes

/-!
# The media type of a form

A form says in its content type which boundary it has. If the boundary consists of characters that
need no quotes, the content type **says just that** to whoever reads it.
-/

namespace FanControl.Http

namespace MediaType

/-- A text in lower case is what it is compared with, if its characters are. -/
theorem lower_eq {cs : List Char} {s : String} (h : cs.map Char.toLower = s.toList) :
    lower cs = s := by
  rw [lower, h, String.ofList_toList]

/-- A parameter whose value needs no quotes is read with its name in lower case and its value. -/
theorem parameters?_token (n : Nat) {c : Char} {name value : List Char}
    (hname : ∀ d ∈ c :: name, isTokenChar d = true) (hvalue : ∀ d ∈ value, isTokenChar d = true) :
    parameters? (n + 1) (' ' :: c :: (name ++ '=' :: value)) =
      some [(lower (c :: name), String.ofList value)] := by
  have hspace : c ≠ ' ' := by
    rintro rfl
    exact absurd (hname _ List.mem_cons_self) (by decide)
  have hquote : ∀ rest, value ≠ '"' :: rest := by
    rintro rest rfl
    exact absurd (hvalue _ List.mem_cons_self) (by decide)
  have hspan : (c :: (name ++ '=' :: value)).span isTokenChar = (c :: name, '=' :: value) :=
    Text.span_append hname (by simp; decide)
  have hend : value.span isTokenChar = (value, []) := by
    have hspan : (value ++ []).span isTokenChar = (value, []) :=
      Text.span_append hvalue (fun _ hd => absurd hd (Option.not_mem_none _))
    rwa [List.append_nil] at hspan
  have hblank : (' ' :: c :: (name ++ '=' :: value)).dropWhile (· = ' ') =
      c :: (name ++ '=' :: value) := by
    simp [hspace]
  rw [parameters?, hblank]
  simp only [hspan, hend]

/-- Whether a boundary needs no quotes. -/
def IsBoundary (boundary : String) : Prop := ∀ c ∈ boundary.toList, isTokenChar c = true

/-- The media type of a form is read with its boundary. -/
theorem parse?_form {boundary : String} (h : IsBoundary boundary) :
    parse? ("multipart/form-data; boundary=" ++ boundary) =
      some ⟨"multipart", "form-data", none, [("boundary", boundary)]⟩ := by
  have hheader : ("multipart/form-data; boundary=" ++ boundary).toList =
      'm' :: ("ultipart".toList ++ '/' :: ("form-data".toList ++ ';' :: ' ' :: 'b' ::
        ("oundary".toList ++ '=' :: boundary.toList))) := by
    simp
  have hmultipart : ∀ c ∈ 'm' :: "ultipart".toList, isTokenChar c = true :=
    List.all_eq_true.mp (by decide)
  have hformData : ∀ c ∈ "form-data".toList, isTokenChar c = true :=
    List.all_eq_true.mp (by decide)
  have hname : ∀ c ∈ 'b' :: "oundary".toList, isTokenChar c = true :=
    List.all_eq_true.mp (by decide)
  have hkind (rest : List Char) : ('m' :: ("ultipart".toList ++ '/' :: rest)).span isTokenChar =
      ('m' :: "ultipart".toList, '/' :: rest) :=
    Text.span_append hmultipart (by simp; decide)
  have hsubtype (rest : List Char) : ("form-data".toList ++ ';' :: rest).span isTokenChar =
      ("form-data".toList, ';' :: rest) :=
    Text.span_append hformData (by simp; decide)
  have hempty : "form-data".toList.isEmpty = false := by decide
  have hsuffix : splitSuffix "form-data".toList = ("form-data".toList, none) := by decide
  have hparameters (n : Nat) := parameters?_token n hname h
  rw [parse?]
  simp only [hheader, hkind, hsubtype, hempty, hsuffix, hparameters, String.ofList_toList]
  rw [lower_eq (s := "multipart") (by decide), lower_eq (s := "form-data") (by decide),
    lower_eq (s := "boundary") (by decide)]
  rfl

/-- **The content type of a form names its boundary.** -/
theorem IsBoundary.formBoundary? {boundary : String} (h : IsBoundary boundary) :
    (parse? ("multipart/form-data; boundary=" ++ boundary)).bind MediaType.formBoundary? =
      some boundary := by
  rw [parse?_form h]
  simp [MediaType.formBoundary?]

/-- No line ends within a boundary. -/
theorem IsBoundary.return_not_mem {boundary : String} (h : IsBoundary boundary) :
    0x0D ∉ Text.bytes ("--" ++ boundary) := by
  intro hmem
  rw [Text.bytes_eq, Text.utf8, List.mem_flatMap] at hmem
  obtain ⟨c, hc, hbyte⟩ := hmem
  obtain rfl : c = '\r' :=
    Char.toNat_inj.mp (Text.toNat_eq_of_mem_utf8EncodeChar hbyte (by decide))
  rw [String.toList_append, List.mem_append] at hc
  rcases hc with hc | hc
  · exact absurd hc (by decide)
  · exact absurd (h _ hc) (by decide)

end MediaType

end FanControl.Http

import FanControl.Http.Form
import FanControl.Proofs.Text.Bytes

/-!
# Forms, written and read

Two facts about forms in parts. What has been written is **read back part by part**, if no part
holds what ends it. And a form that has been read to its end is read the same way when more bytes
come, so of a form that is cut off anywhere the reader either sees that it is cut off or has
everything already.

What ends a part begins with the end of a line, and so the proofs go from line to line: `OneLine`
says of characters that no line ends among them, and quoting keeps it that way.

## Main results

* `breakOn_behind`, `breakOn_grow`: the first occurrence of a pattern;
* `parseForm_grow`: a form that more bytes follow;
* `partOf_name`, `parseForm_encodeForm`: what has been written is read back.
-/

namespace FanControl.Http

open Text (utf8)

/-! ### The first occurrence of a pattern -/

section breakOn

variable {pattern before bs rest found after : Bytes}

/-- A pattern that does not begin in some bytes is looked for behind them. -/
theorem breakOn_append (h : ∀ i < bs.length, ¬ pattern <+: (bs ++ rest).drop i) :
    breakOn pattern before (bs ++ rest) = breakOn pattern (bs.reverse ++ before) rest := by
  induction bs generalizing before with
  | nil => rfl
  | cons b bs ih =>
      have hhere : ¬ pattern <+: b :: (bs ++ rest) := h 0 (Nat.succ_pos _)
      have hlater (i : Nat) (hi : i < bs.length) : ¬ pattern <+: (bs ++ rest).drop i :=
        h (i + 1) (Nat.succ_lt_succ hi)
      rw [List.cons_append, breakOn, if_neg (by rwa [List.isPrefixOf_iff_prefix]), ih hlater]
      simp

/-- A pattern is found where it stands. -/
theorem breakOn_self (hpattern : pattern ≠ []) :
    breakOn pattern before (pattern ++ rest) = some (before.reverse, rest) := by
  cases pattern with
  | nil => exact absurd rfl hpattern
  | cons p pattern =>
      have hhere : (p :: pattern).isPrefixOf (p :: (pattern ++ rest)) = true :=
        List.isPrefixOf_iff_prefix.mpr (List.prefix_append (p :: pattern) rest)
      rw [List.cons_append, breakOn, if_pos hhere]
      simp

/-- A pattern whose first byte does not come again is found behind bytes that do not hold it. -/
theorem breakOn_behind {x : UInt8} {tail : Bytes} (hx : x ∉ tail) (hbs : ¬ x :: tail <:+: bs) :
    breakOn (x :: tail) before (bs ++ (x :: tail ++ rest)) = some (before.reverse ++ bs, rest) := by
  rw [breakOn_append, breakOn_self (by simp)]
  · simp
  · intro i hi hprefix
    rw [List.drop_append_of_le_length (Nat.le_of_lt hi)] at hprefix
    rcases List.prefix_or_prefix_of_prefix hprefix (List.prefix_append (bs.drop i) _) with
      hheld | ⟨more, hmore⟩
    · exact hbs (hheld.isInfix.trans (List.drop_suffix i bs).isInfix)
    · -- The pattern would begin again within itself.
      cases more with
      | nil => exact hbs (by simpa [← hmore] using (List.drop_suffix i bs).isInfix)
      | cons y more =>
          rw [← hmore, List.prefix_append_right_inj, hmore] at hprefix
          obtain ⟨later, hlater⟩ := hprefix
          obtain rfl : y = x := (List.cons.inj hlater).1
          rw [List.drop_eq_getElem_cons hi, List.cons_append] at hmore
          exact hx (by simp [← (List.cons.inj hmore).2])

/-- What has been found is in the bytes. -/
theorem length_le_of_breakOn (h : breakOn pattern before bs = some (found, after)) :
    pattern.length ≤ bs.length := by
  induction bs generalizing before with
  | nil =>
      rw [breakOn] at h
      split at h
      · next hempty => simp [List.isEmpty_iff.mp hempty]
      · cases h
  | cons b bs ih =>
      rw [breakOn] at h
      split at h
      · next hhere => exact (List.isPrefixOf_iff_prefix.mp hhere).length_le
      · exact Nat.le_succ_of_le (ih h)

/-- **What has been found is found again when more bytes come.** -/
theorem breakOn_grow (h : breakOn pattern before bs = some (found, after)) (more : Bytes) :
    breakOn pattern before (bs ++ more) = some (found, after ++ more) := by
  induction bs generalizing before with
  | nil =>
      rw [breakOn] at h
      split at h
      · next hempty =>
        obtain rfl := List.isEmpty_iff.mp hempty
        obtain ⟨rfl, rfl⟩ := Prod.mk.inj (Option.some.inj h)
        cases more <;> simp [breakOn]
      · cases h
  | cons b bs ih =>
      rw [breakOn] at h
      rw [List.cons_append, breakOn]
      split at h
      · next hhere =>
        obtain ⟨rfl, rfl⟩ := Prod.mk.inj (Option.some.inj h)
        have hprefix := List.isPrefixOf_iff_prefix.mp hhere
        have hlonger : pattern.isPrefixOf (b :: (bs ++ more)) = true :=
          List.isPrefixOf_iff_prefix.mpr (List.prefix_append_of_prefix hprefix)
        rw [if_pos hlonger, ← List.cons_append, List.drop_append_of_le_length hprefix.length_le]
      · next hhere =>
        -- A pattern that needed the new bytes would not fit behind this place.
        have hlonger : ¬ pattern.isPrefixOf (b :: (bs ++ more)) = true := by
          rw [List.isPrefixOf_iff_prefix] at hhere ⊢
          intro hprefix
          have hlength : pattern.length ≤ (b :: bs).length :=
            Nat.le_succ_of_le (length_le_of_breakOn h)
          have hbs : b :: bs <+: b :: (bs ++ more) := List.prefix_append (b :: bs) more
          exact hhere (List.prefix_of_prefix_length_le hprefix hbs hlength)
        rw [if_neg hlonger]
        exact ih h

end breakOn

/-! ### More bytes -/

/-- A part that has been read to its end is read again when more bytes come. -/
theorem partsAfter_grow {dashed bs : Bytes} {n m : Nat} {parts : List Part}
    (h : partsAfter dashed n bs = (parts, none)) (hle : n ≤ m) (more : Bytes) :
    partsAfter dashed m (bs ++ more) = (parts, none) := by
  induction n generalizing m bs parts with
  | zero => cases h
  | succ n ih =>
      obtain ⟨m, rfl⟩ : ∃ k, m = k + 1 := ⟨m - 1, by omega⟩
      rw [partsAfter] at h ⊢
      split at h
      · next hend =>
        have hprefix := List.isPrefixOf_iff_prefix.mp hend
        rw [if_pos (List.isPrefixOf_iff_prefix.mpr (List.prefix_append_of_prefix hprefix)), ← h]
      · next hend =>
        split at h
        · next bs₁ hline =>
          have hlength : (bs.dropWhile fun b => b = 0x20 ∨ b = 0x09).length ≤ bs.length :=
            (List.dropWhile_sublist _).length_le
          have hopen : ¬ [0x2D, 0x2D].isPrefixOf (bs ++ more) = true := by
            rw [List.isPrefixOf_iff_prefix] at hend ⊢
            refine fun hprefix => hend
              (List.prefix_of_prefix_length_le hprefix (List.prefix_append bs more) ?_)
            rw [hline] at hlength
            simp only [List.length_cons, List.length_nil] at hlength ⊢
            omega
          rw [if_neg hopen, List.dropWhile_append, hline]
          simp only [List.isEmpty_cons, Bool.false_eq_true, if_false, List.cons_append]
          split at h
          · cases h
          · next headers bs₂ hheaders =>
            rw [breakOn_grow hheaders more]
            dsimp only
            split at h
            · cases h
            · next data bs₃ hdata =>
              rw [breakOn_grow hdata more]
              dsimp only
              obtain ⟨hparts, hfault⟩ := Prod.mk.inj h
              have hrest : partsAfter dashed m (bs₃ ++ more) =
                  ((partsAfter dashed n bs₃).1, none) :=
                ih (by rw [← hfault]) (by omega)
              rw [hrest, ← hparts]
        · cases h

/-- **A form that has been read to its end is read again when more bytes come.** -/
theorem parseForm_grow {boundary : String} {bs : Bytes} {parts : List Part}
    (h : parseForm boundary bs = (parts, none)) (more : Bytes) :
    parseForm boundary (bs ++ more) = (parts, none) := by
  simp only [parseForm] at h ⊢
  split at h
  · cases h
  · next found after hfound =>
    rw [breakOn_grow hfound more]
    exact partsAfter_grow h (by simp) more

/-! ### Lines -/

/-- A byte that ends no line belongs to a character that ends none. -/
theorem ne_of_mem_utf8EncodeChar {c d : Char} {b : UInt8} (hc : c ≠ d) (hd : d.toNat < 128)
    (hb : b ∈ String.utf8EncodeChar c) : b ≠ UInt8.ofNat d.toNat := by
  rintro rfl
  have hbyte : (UInt8.ofNat d.toNat).toNat = d.toNat := by
    rw [UInt8.toNat_ofNat', Nat.mod_eq_of_lt (by omega)]
  have heq := Text.toNat_eq_of_mem_utf8EncodeChar hb (by omega)
  exact hc (Char.toNat_inj.mp (heq.trans hbyte))

/-- Characters on one line: no carriage return comes last or before a line feed. -/
inductive OneLine : List Char → Prop
  | nil : OneLine []
  | cons {c : Char} {cs : List Char} (hc : c ≠ '\r') (hcs : OneLine cs) : OneLine (c :: cs)
  | lone {c : Char} {cs : List Char} (hc : c ≠ '\n') (hcs : OneLine (c :: cs)) :
      OneLine ('\r' :: c :: cs)

namespace OneLine

/-- Characters other than carriage returns are on one line. -/
theorem of_forall {cs : List Char} (h : ∀ c ∈ cs, c ≠ '\r') : OneLine cs := by
  induction cs with
  | nil => exact .nil
  | cons c cs ih =>
      exact .cons (h c List.mem_cons_self) (ih fun c hc => h c (List.mem_cons_of_mem _ hc))

/-- What is written one after another on one line is on one line. -/
theorem append {cs ds : List Char} (hcs : OneLine cs) (hds : OneLine ds) : OneLine (cs ++ ds) := by
  induction hcs with
  | nil => exact hds
  | cons hc _ ih => exact .cons hc ih
  | lone hc _ ih => exact .lone hc ih

/-- A line is passed by when lines are told apart. -/
theorem linesOf_append {cs : List Char} (h : OneLine cs) (before rest : List Char) :
    linesOf before (cs ++ rest) = linesOf (cs.reverse ++ before) rest := by
  induction h generalizing before with
  | nil => rfl
  | cons hc _ ih =>
      rw [List.cons_append, linesOf, ih]
      · simp
      · exact fun _ heq => absurd heq hc
  | lone hc _ ih =>
      rw [List.cons_append, List.cons_append, linesOf, ← List.cons_append, ih]
      · simp
      · exact fun _ _ heq => hc (List.cons.inj heq).1

/-- A line is passed by when its end is looked for. -/
theorem breakOn_append {cs : List Char} (h : OneLine cs) (pattern before rest : Bytes) :
    breakOn (lineEnd ++ pattern) before (utf8 cs ++ rest) =
      breakOn (lineEnd ++ pattern) ((utf8 cs).reverse ++ before) rest := by
  have hskip {bs : Bytes} (before rest : Bytes) (hbs : ∀ b ∈ bs, b ≠ 0x0D) :
      breakOn (lineEnd ++ pattern) before (bs ++ rest) =
        breakOn (lineEnd ++ pattern) (bs.reverse ++ before) rest := by
    refine Http.breakOn_append ?_
    intro i hi hprefix
    rw [List.drop_append_of_le_length (Nat.le_of_lt hi), List.drop_eq_getElem_cons hi] at hprefix
    obtain ⟨more, hmore⟩ := hprefix
    exact hbs bs[i] (List.getElem_mem hi) (List.cons.inj hmore).1.symm
  induction h generalizing before with
  | nil => rfl
  | @cons c cs hc _ ih =>
      rw [Text.utf8_cons, List.append_assoc,
        hskip before _ fun b hb => ne_of_mem_utf8EncodeChar (d := '\r') hc (by decide) hb, ih]
      simp
  | @lone c cs hc _ ih =>
      have hone : String.utf8EncodeChar '\r' = [0x0D] := rfl
      rw [Text.utf8_cons, hone, List.append_assoc]
      have hreturn : breakOn (lineEnd ++ pattern) before ([0x0D] ++ (utf8 (c :: cs) ++ rest)) =
          breakOn (lineEnd ++ pattern) (0x0D :: before) (utf8 (c :: cs) ++ rest) := by
        refine Http.breakOn_append ?_
        intro i hi hprefix
        obtain rfl : i = 0 := by simpa using hi
        obtain ⟨more, hmore⟩ := hprefix
        obtain ⟨b, bs, hb⟩ := List.exists_cons_of_ne_nil (String.utf8EncodeChar_ne_nil (c := c))
        rw [List.drop_zero, Text.utf8_cons, hb] at hmore
        have hfeed : 0x0A = b := (List.cons.inj (List.cons.inj hmore).2).1
        exact ne_of_mem_utf8EncodeChar (d := '\n') (b := b) hc (by decide) (by simp [hb]) hfeed.symm
      rw [hreturn, ih]
      simp

end OneLine

/-! ### The lines of a part -/

/-- Quoted characters are on one line, and do not begin with a line feed. -/
theorem oneLine_quote (cs : List Char) :
    OneLine (cs.flatMap quoteChar ++ ['"']) ∧
      ∃ d ds, cs.flatMap quoteChar ++ ['"'] = d :: ds ∧ d ≠ '\n' := by
  induction cs with
  | nil => exact ⟨.of_forall (by simp), '"', [], rfl, by decide⟩
  | cons c cs ih =>
      obtain ⟨hline, d, ds, heq, hd⟩ := ih
      rw [List.flatMap_cons, List.append_assoc, heq]
      rw [heq] at hline
      rw [quoteChar]
      split
      · refine ⟨.cons (by decide) ?_, '\\', c :: d :: ds, rfl, by decide⟩
        by_cases hc : c = '\r'
        · subst hc
          exact .lone hd hline
        · exact .cons hc hline
      · next hplain =>
        have hc : c ≠ '\r' ∧ c ≠ '\n' := by
          constructor <;> rintro rfl <;> simp at hplain
        exact ⟨.cons hc.1 hline, c, d :: ds, rfl, hc.2⟩

/-- The text of a parameter with a value is its key and its value in quotation marks. -/
theorem toList_parameterText (key s : String) :
    (parameterText key (some s)).toList =
      "; ".toList ++ key.toList ++ "=\"".toList ++ (s.toList.flatMap quoteChar ++ ['"']) := by
  simp [parameterText, quoteValue]

/-- A parameter is on one line. -/
theorem oneLine_parameterText {key : String} (hkey : ∀ c ∈ key.toList, c ≠ '\r')
    (value : Option String) : OneLine (parameterText key value).toList := by
  cases value with
  | none => exact .nil
  | some s =>
      rw [toList_parameterText]
      exact .append (.append (.append (.of_forall (by simp)) (.of_forall hkey))
        (.of_forall (by simp))) (oneLine_quote s.toList).1

/-- The line that names a part is made of the name and of the name of its file. -/
theorem toList_dispositionLine (p : Part) :
    (dispositionLine p).toList = "Content-Disposition: form-data".toList ++
      (parameterText "name" p.name).toList ++ (parameterText "filename" p.fileName).toList := by
  unfold dispositionLine
  rw [String.toList_append, String.toList_append]

/-- The line that names a part is on one line. -/
theorem oneLine_dispositionLine (p : Part) : OneLine (dispositionLine p).toList := by
  rw [toList_dispositionLine]
  exact .append (.append (.of_forall (by simp)) (oneLine_parameterText (by simp) p.name))
    (oneLine_parameterText (by simp) p.fileName)

/-- The line that says what is in a part is on one line, if the content type is. -/
theorem oneLine_contentLine {s : String} (h : OneLine s.toList) :
    OneLine (contentLine s).toList := by
  rw [contentLine, String.toList_append]
  exact .append (.of_forall (by simp)) h

/-- A part can be told from what follows it if its content type is on one line, and if its data
does not hold what ends it. -/
structure Part.Fits (boundary : String) (p : Part) : Prop where
  contentType : ∀ s ∈ p.contentType, OneLine s.toList
  data : ¬ lineEnd ++ Text.bytes ("--" ++ boundary) <:+: p.data

/-- The lines at the start of a part end where its data begin. -/
theorem breakOn_partHeaders {p : Part} (h : ∀ s ∈ p.contentType, OneLine s.toList) (rest : Bytes) :
    breakOn (lineEnd ++ lineEnd) [] (partHeaders p ++ (lineEnd ++ lineEnd ++ rest)) =
      some (partHeaders p, rest) := by
  have hpattern : lineEnd ++ lineEnd ≠ [] := by decide
  rw [partHeaders]
  cases hcontent : p.contentType with
  | none =>
      dsimp only
      rw [Text.bytes_eq, (oneLine_dispositionLine p).breakOn_append, breakOn_self hpattern]
      simp
  | some s =>
      have hline := oneLine_contentLine (h s hcontent)
      obtain ⟨bs, hletter⟩ : ∃ bs, utf8 (contentLine s).toList = 0x43 :: bs := by
        rw [contentLine, String.toList_append]
        exact ⟨_, rfl⟩
      -- Only one line ends here, because a letter follows.
      have hnext (before : Bytes) :
          breakOn (lineEnd ++ lineEnd) before
            (lineEnd ++ (utf8 (contentLine s).toList ++ (lineEnd ++ lineEnd ++ rest))) =
          breakOn (lineEnd ++ lineEnd) (lineEnd.reverse ++ before)
            (utf8 (contentLine s).toList ++ (lineEnd ++ lineEnd ++ rest)) := by
        refine breakOn_append ?_
        intro i hi hprefix
        obtain ⟨more, hmore⟩ := hprefix
        rw [hletter] at hmore
        match i, hi with
        | 0, _ => simp [lineEnd] at hmore
        | 1, _ => simp [lineEnd] at hmore
      dsimp only
      rw [Text.bytes_eq, Text.bytes_eq, List.append_assoc, List.append_assoc,
        (oneLine_dispositionLine p).breakOn_append, hnext, hline.breakOn_append,
        breakOn_self hpattern]
      simp

/-- The line that names a part is the first one. -/
theorem linesOf_partHeaders (p : Part) : ∃ lines,
    linesOf [] ((Text.ofBytes? (partHeaders p)).getD "").toList =
      (dispositionLine p).toList :: lines := by
  rw [partHeaders]
  cases p.contentType with
  | none =>
      have hline := (oneLine_dispositionLine p).linesOf_append [] []
      rw [List.append_nil] at hline
      dsimp only
      rw [Text.ofBytes?_bytes, Option.getD_some, hline]
      exact ⟨[], by simp [linesOf]⟩
  | some s =>
      have hbytes : Text.bytes (dispositionLine p) ++ lineEnd ++ Text.bytes (contentLine s) =
          utf8 ((dispositionLine p).toList ++ '\r' :: '\n' :: (contentLine s).toList) := by
        rw [Text.utf8_append, Text.bytes_eq, Text.bytes_eq, List.append_assoc]
        rfl
      dsimp only
      rw [hbytes, Text.ofBytes?_utf8, Option.getD_some, String.toList_ofList,
        (oneLine_dispositionLine p).linesOf_append]
      exact ⟨linesOf [] (contentLine s).toList, by simp [linesOf]⟩

/-- Quoted characters are read up to the quote that closes them. -/
theorem unquoteValue_quote (cs more : List Char) :
    unquoteValue (cs.flatMap quoteChar ++ '"' :: more) = cs := by
  induction cs with
  | nil => rfl
  | cons c cs ih =>
      rw [List.flatMap_cons, List.append_assoc, quoteChar]
      split
      · rw [List.cons_append, List.cons_append, List.nil_append, unquoteValue, ih]
      · next hplain =>
        rw [List.cons_append, List.nil_append, unquoteValue, ih]
        · rintro rfl
          simp at hplain
        · rintro _ _ rfl
          simp at hplain

/-- **The name of a part is read back.** -/
theorem partOf_name {p : Part} {s : String} (hname : p.name = some s) (data : Bytes) :
    (partOf (partHeaders p) data).name = some s := by
  obtain ⟨lines, hlines⟩ := linesOf_partHeaders p
  obtain ⟨more, hmore⟩ : ∃ more, (dispositionLine p).toList = "Content-Disposition".toList ++
      ':' :: (" form-data; name=\"".toList ++ (s.toList.flatMap quoteChar ++ '"' :: more)) := by
    rw [toList_dispositionLine, hname, toList_parameterText]
    exact ⟨(parameterText "filename" p.fileName).toList, by simp⟩
  have hspan : (dispositionLine p).toList.span (· ≠ ':') = ("Content-Disposition".toList,
      ':' :: (" form-data; name=\"".toList ++ (s.toList.flatMap quoteChar ++ '"' :: more))) := by
    rw [hmore]
    exact Text.span_append (List.all_eq_true.mp (by decide)) (by simp)
  have hkey : MediaType.lower "Content-Disposition".toList = "content-disposition" :=
    String.toList_inj.mp (by simp [MediaType.lower])
  have hheader : headerLine? "content-disposition" ((dispositionLine p).toList :: lines) = some
      (" form-data; name=\"".toList ++ (s.toList.flatMap quoteChar ++ '"' :: more)) := by
    simp only [headerLine?, List.findSome?_cons, hspan, hkey, if_true]
    rfl
  have hvalue : parameter? ['n', 'a', 'm', 'e'] ' '
      (" form-data; name=\"".toList ++ (s.toList.flatMap quoteChar ++ '"' :: more)) = some s :=
    calc
      _ = some (String.ofList (unquoteValue (s.toList.flatMap quoteChar ++ '"' :: more))) := by rfl
      _ = some s := by rw [unquoteValue_quote, String.ofList_toList]
  simp only [partOf, hlines, hheader, Option.getD_some, hvalue]

/-! ### Forms -/

/-- What follows the first boundary of a form. -/
def formTail (dashed : Bytes) : List Part → Bytes
  | [] => [0x2D, 0x2D] ++ lineEnd
  | p :: parts =>
    lineEnd ++ (partHeaders p ++ (lineEnd ++ lineEnd ++ (p.data ++ (lineEnd ++ dashed ++
      formTail dashed parts))))

/-- A form begins with its boundary. -/
theorem encodeForm_eq (boundary : String) (parts : List Part) :
    encodeForm boundary parts true =
      Text.bytes ("--" ++ boundary) ++ formTail (Text.bytes ("--" ++ boundary)) parts := by
  simp only [encodeForm, if_true]
  generalize Text.bytes ("--" ++ boundary) = dashed
  induction parts with
  | nil => simp [formTail]
  | cons p parts ih =>
      simp only [List.flatMap_cons, List.append_assoc] at ih ⊢
      rw [ih]
      simp [formTail]

/-- The parts after a boundary are read back. -/
theorem partsAfter_formTail {boundary : String} {dashed : Bytes}
    (hdashed : dashed = Text.bytes ("--" ++ boundary)) (hboundary : 0x0D ∉ dashed)
    {parts : List Part} (hparts : ∀ p ∈ parts, p.Fits boundary) {n : Nat} (hn : parts.length < n) :
    partsAfter dashed n (formTail dashed parts) =
      (parts.map fun p => partOf (partHeaders p) p.data, none) := by
  induction parts generalizing n with
  | nil =>
      obtain ⟨n, rfl⟩ : ∃ k, n = k + 1 := ⟨n - 1, by omega⟩
      rfl
  | cons p parts ih =>
      obtain ⟨n, rfl⟩ : ∃ k, n = k + 1 := ⟨n - 1, by omega⟩
      have hp := hparts p List.mem_cons_self
      have hrest : partsAfter dashed n (formTail dashed parts) = _ :=
        ih (fun p hp => hparts p (List.mem_cons_of_mem _ hp)) (Nat.lt_of_succ_lt_succ hn)
      have hheaders := breakOn_partHeaders hp.contentType
        (p.data ++ (lineEnd ++ dashed ++ formTail dashed parts))
      have hdata : breakOn (lineEnd ++ dashed) []
          (p.data ++ (lineEnd ++ dashed ++ formTail dashed parts)) =
          some (p.data, formTail dashed parts) := by
        have hheld := hp.data
        rw [← hdashed] at hheld
        exact breakOn_behind (by simp [hboundary]) hheld
      have hopen : formTail dashed (p :: parts) = 0x0D :: 0x0A :: (partHeaders p ++
          (lineEnd ++ lineEnd ++ (p.data ++ (lineEnd ++ dashed ++ formTail dashed parts)))) := rfl
      rw [hopen, partsAfter, if_neg (by simp), List.dropWhile_cons_of_neg (by decide)]
      simp only [hheaders, hdata, hrest, List.map_cons]

/-- **A form is read back**, part by part. -/
theorem parseForm_encodeForm {boundary : String} (hboundary : 0x0D ∉ Text.bytes ("--" ++ boundary))
    {parts : List Part} (hparts : ∀ p ∈ parts, p.Fits boundary) :
    parseForm boundary (encodeForm boundary parts true) =
      (parts.map fun p => partOf (partHeaders p) p.data, none) := by
  have hdashed : Text.bytes ("--" ++ boundary) ≠ [] := by simp [Text.bytes_eq]
  have hlength (parts : List Part) (dashed : Bytes) :
      parts.length < (formTail dashed parts).length + 1 := by
    induction parts with
    | nil => simp [formTail]
    | cons p parts ih =>
        simp only [formTail, List.length_append, List.length_cons, lineEnd] at ih ⊢
        omega
  rw [encodeForm_eq, parseForm]
  simp only [breakOn_self hdashed]
  exact partsAfter_formTail rfl hboundary hparts (hlength parts _)

end FanControl.Http

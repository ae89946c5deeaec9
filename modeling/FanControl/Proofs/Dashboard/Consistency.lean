import FanControl.Proofs.Clamp
import FanControl.Proofs.Dashboard
import FanControl.Proofs.FloatingPoint.Accuracy
import FanControl.Proofs.Session.Course
import FanControl.Proofs.Session.Writes
import FanControl.Session.Client

/-!
# What stands on the dashboard fits together

The mode of the device is kept twice, as a mode and as a text, and the panel on screen follows it
but can be turned away from it. What was measured is kept as text only, and comes out of bodies
that may hold any number. Whatever is written on the dashboard, and in whatever order, it stays
**consistent**: the texts are texts of finite temperatures and of percentages, the mode and its text
are those of one report, and while a mode is known a panel is on screen.

The last of these is why there is always a panel to apply while a mode is known.

## Main definitions

* `Status.IsRead`: what is known from some body;
* `Dashboard.Consistent`: the invariant.

## Main results

* `Dashboard.Consistent.apply`, `Dashboard.Consistent.after`: one move keeps it, and any moves do;
* `Decimal.oneDecimal_of_isFinite`, `isFinite_of_temperatureText`: how the text of a finite
  temperature is made up, and that nothing else has such a text;
* `Timeline.perform_applyMode`: what comes of applying a mode;
* `Dashboard.after_consistent`: what an operator reads after any bodies and any other moves.
-/

namespace FanControl

open FloatingPoint

/-! ### Texts of temperatures -/

/-- A number of tenths with a decimal point. -/
def Decimal.tenthsText (negative : Bool) (tenths : Nat) : String :=
  (if negative then "-" else "") ++ toString (tenths / 10) ++ "." ++ toString (tenths % 10)

/-- **The text of a finite number is that of the nearest number of tenths.** -/
theorem Decimal.oneDecimal_of_isFinite {F : Format} {x : Datum F} (h : x.isFinite = true) :
    ∃ negative tenths, oneDecimal x = tenthsText negative tenths ∧
      |(Datum.signed negative tenths : ℚ) - 10 * x.toRat| ≤ 1 / 2 := by
  cases x with
  | nan | infinite negative => cases h
  | finite negative quanta =>
      refine ⟨negative, roundHalfEven (quanta * 10) (Nat.pow 2 F.scale), rfl, ?_⟩
      have hrounded := abs_roundHalfEven_sub_le (quanta * 10) (Nat.two_pow_pos F.scale)
      have hquotient : ((quanta * 10 : Nat) : ℚ) / (2 ^ F.scale : Nat) =
          10 * (quanta / 2 ^ F.scale) := by
        push_cast
        ring
      rw [hquotient] at hrounded
      have hpow : Nat.pow 2 F.scale = 2 ^ F.scale := rfl
      rw [hpow]
      cases negative with
      | false => simpa [Datum.toRat, Datum.signed] using hrounded
      | true =>
          rw [abs_sub_comm] at hrounded
          simpa [Datum.toRat, Datum.signed, neg_div, neg_add_eq_sub] using hrounded

/-- There is a decimal point in the text of a number just when the number is finite. -/
theorem point_mem_temperatureText (x : Binary32) :
    '.' ∈ (temperatureText x).toList ↔ x.isFinite = true := by
  rw [temperatureText, Binary32.isFinite]
  cases hx : x.decode with
  | nan => decide
  | infinite negative => cases negative <;> decide
  | finite negative quanta => simp [Decimal.oneDecimal, Datum.isFinite]

/-- **What is no finite number has another text than those that are.** -/
theorem isFinite_of_temperatureText {x y : Binary32} (hx : x.isFinite = true)
    (h : temperatureText y = temperatureText x) : y.isFinite = true := by
  rw [← point_mem_temperatureText, h, point_mem_temperatureText]
  exact hx

/-- The text of a temperature names the nearest tenth of a degree. -/
theorem exists_tenths {x : Binary32} (hx : x.isFinite = true) : ∃ negative tenths,
    temperatureText x = Decimal.tenthsText negative tenths ++ " °C" ∧
      |(Datum.signed negative tenths : ℚ) - 10 * x.decode.toRat| ≤ 1 / 2 := by
  obtain ⟨negative, tenths, hdigits, hnear⟩ := Decimal.oneDecimal_of_isFinite hx
  exact ⟨negative, tenths, congrArg (· ++ " °C") hdigits, hnear⟩

/-! ### Texts of modes -/

/-- Each mode has a text of its own. -/
theorem Mode.label_inj {m m' : Mode} : m.label = m'.label ↔ m = m' := by
  constructor
  · intro h
    cases m <;> cases m' <;> simp [label] at h ⊢
  · exact congrArg label

/-- The text of a mode that is known is not the text of one that is not. -/
theorem Mode.label_ne (m : Mode) : m.label ≠ "Desconocido" := by
  cases m <;> simp [label]

/-- **The text of what was reported tells the mode.** -/
theorem ReportedMode.label_eq_iff (reported : ReportedMode) (m : Mode) :
    reported.label = m.label ↔ reported.mode? = some m := by
  cases reported with
  | known mode => simp only [label, mode?, Mode.label_inj, Option.some.injEq]
  | unrecognized code => simpa [label, mode?] using (Mode.label_ne m).symm

/-- The text of what was reported says that the mode is unknown exactly if it is. -/
theorem ReportedMode.label_eq_unknown_iff (reported : ReportedMode) :
    reported.label = "Desconocido" ↔ reported.mode? = none := by
  cases reported with
  | known mode => simpa [label, mode?] using Mode.label_ne mode
  | unrecognized code => simp [label, mode?]

/-! ### What is known from a body -/

namespace Status

/-- What is known from some body. -/
def IsRead (status : Status) : Prop :=
  ∃ body report, StatusReport.reader.ofBytes body = .ok report ∧ status = .ofReport report

/-- A temperature that is known is finite, whatever the body holds. -/
theorem IsRead.isFinite {status : Status} (h : status.IsRead) {x : Binary32}
    (hx : status.temperature = some x) : x.isFinite = true := by
  obtain ⟨-, report, -, rfl⟩ := h
  exact (Option.filter_eq_some_iff.mp hx).2

/-- An output that is known is a percentage, whatever the body holds. -/
theorem IsRead.output_le {status : Status} (h : status.IsRead) {level : UInt8}
    (hlevel : status.output = some level) : level ≤ 100 := by
  obtain ⟨-, report, -, rfl⟩ := h
  obtain ⟨i, -, rfl⟩ := Option.map_eq_some_iff.mp hlevel
  exact percent_le i

end Status

/-! ### The invariant -/

/-- **What stands on a dashboard fits together.** -/
structure Dashboard.Consistent (d : Dashboard) : Prop where
  temperature : ∀ text, d.temperature = some text →
    ∃ x : Binary32, x.isFinite = true ∧ text = temperatureText x
  output : ∀ text, d.output = some text → ∃ level : UInt8, level ≤ 100 ∧ text = outputText level
  /-- The mode and its text are those of one report, if there was any. -/
  mode : ∃ reported : Option ReportedMode,
    d.panel.mode = reported.bind ReportedMode.mode? ∧ d.modeLabel = reported.map ReportedMode.label
  /-- While a mode is known a panel is on screen. -/
  shown : d.panel.mode.isSome = true → d.panel.visible.isSome = true

namespace Dashboard

namespace Consistent

variable {d : Dashboard}

/-- A dashboard on which nothing has been written is consistent. -/
theorem empty : Dashboard.empty.Consistent where
  temperature _ h := nomatch h
  output _ h := nomatch h
  mode := ⟨none, rfl, rfl⟩
  shown h := nomatch h

/-- A text after a report is that of what the report holds, or what it was. -/
theorem text_of_report {α : Type} {held : Option α} {write : α → String} {old : Option String}
    {text : String} (h : (held.map write).or old = some text) :
    (∃ x, held = some x ∧ text = write x) ∨ old = some text := by
  rcases Option.or_eq_some_iff.mp h with hnew | ⟨-, hold⟩
  · obtain ⟨x, hx, rfl⟩ := Option.map_eq_some_iff.mp hnew
    exact .inl ⟨x, hx, rfl⟩
  · exact .inr hold

/-- **Every move keeps a dashboard consistent**, if its report is read from a body. -/
theorem apply {m : DashboardMove} (h : d.Consistent)
    (hm : ∀ status, m = .report status → status.IsRead) : (d.apply m).Consistent := by
  cases m with
  | report status =>
      have hread := hm status rfl
      constructor
      case temperature =>
        intro text htext
        rcases text_of_report htext with ⟨x, hx, rfl⟩ | hold
        · exact ⟨x, hread.isFinite hx, rfl⟩
        · exact h.temperature text hold
      case output =>
        intro text htext
        rcases text_of_report htext with ⟨level, hlevel, rfl⟩ | hold
        · exact ⟨level, hread.output_le hlevel, rfl⟩
        · exact h.output text hold
      case mode =>
        rw [apply_eq]
        cases hmode : status.mode with
        | none => simpa [DashboardMove.reading, hmode] using h.mode
        | some reported =>
            -- The mode and its text are written together.
            exact ⟨some reported, by simp [DashboardMove.reading, hmode],
              by simp [DashboardMove.reading, hmode]⟩
      case shown =>
        rw [apply_eq]
        cases hmode : status.mode with
        | none => simpa [DashboardMove.reading, DashboardMove.turnsTo?, hmode] using h.shown
        | some reported => simp [DashboardMove.reading, DashboardMove.turnsTo?, hmode]
  | selectPanel panel => exact ⟨h.temperature, h.output, h.mode, fun _ => rfl⟩
  | event e => cases e <;> exact ⟨h.temperature, h.output, h.mode, h.shown⟩
  | notify | notifyMode | updateMessage => exact ⟨h.temperature, h.output, h.mode, h.shown⟩

/-- **Any moves keep a dashboard consistent**, if each report among them is read from a body. -/
theorem after {moves : List DashboardMove} (h : d.Consistent)
    (hmoves : ∀ status, .report status ∈ moves → status.IsRead) : (d.after moves).Consistent := by
  induction moves generalizing d with
  | nil => exact h
  | cons m moves ih =>
      refine ih (h.apply ?_) fun status hstatus => hmoves status (List.mem_cons_of_mem m hstatus)
      rintro status rfl
      exact hmoves status List.mem_cons_self

/-- The mode is known just when its text is shown. -/
theorem mode_eq_some_iff (h : d.Consistent) (m : Mode) :
    d.panel.mode = some m ↔ d.modeLabel = some m.label := by
  obtain ⟨reported, hmode, hlabel⟩ := h.mode
  rw [hmode, hlabel]
  cases reported with
  | none => simp
  | some reported => simpa using (reported.label_eq_iff m).symm

/-- The mode is not known exactly if there is no text for it, or one that says so. -/
theorem mode_eq_none_iff (h : d.Consistent) :
    d.panel.mode = none ↔ d.modeLabel = none ∨ d.modeLabel = some "Desconocido" := by
  obtain ⟨reported, hmode, hlabel⟩ := h.mode
  rw [hmode, hlabel]
  cases reported with
  | none => simp
  | some reported => simpa using reported.label_eq_unknown_iff.symm

/-- While no panel is on screen no mode is known. -/
theorem mode_of_hidden (h : d.Consistent) (hhidden : d.panel.visible = none) :
    d.panel.mode = none := by
  have hshown := h.shown
  rw [hhidden] at hshown
  exact Option.not_isSome_iff_eq_none.mp fun hmode => Bool.noConfusion (hshown hmode)

end Consistent

end Dashboard

/-! ### The panel on screen -/

/-- No two panels are on screen. -/
theorem PanelState.isVisible_unique {s : PanelState} {panel other : Mode}
    (h : s.isVisible panel = true) (h' : s.isVisible other = true) : panel = other := by
  rw [isVisible, beq_iff_eq] at h h'
  exact Option.some.inj (h.symm.trans h')

/-! ### Applying a mode -/

namespace Timeline

variable {σ : Type} (D : DeviceModel σ) (w : Timeline σ)

/-- An operation that makes one call gives what it makes of the answer. -/
theorem runSuspended_call_snd {α : Type} {c : Call} {s : Session}
    {resume : Except Failure c.Answer → Session → Suspended α} {f : Except Failure c.Answer → α}
    (h : ∀ answer t, ∃ t', resume answer t = .done t' (f answer)) :
    (w.runSuspended D (.call c s resume)).2 = f (D.call c w.device).1.answer := by
  obtain ⟨t, ht⟩ := h (D.call c w.device).1.answer
    (call D c { w with session := s }).1.session
  exact congrArg (fun p => (runSuspended D p (call D c { w with session := s }).1).2) ht

/-- **What comes of applying a mode**: it is refused if no panel is on screen, and else the device
has answered whether the panel is saved. -/
theorem perform_applyMode :
    (w.perform D Session.applyMode).2 =
      match w.session.dashboard.panel.visible with
      | none => .error (.input .noModeSelected)
      | some panel =>
        Session.withResult panel (D.call (w.session.save panel) w.device).1.answer := by
  -- What falls due afterwards does not change what has been given.
  have hsettled {α : Type} (op : Operation α) :
      (w.perform D op).2 = (w.runSuspended D (op w.session)).2 := rfl
  rw [hsettled]
  cases hpanel : w.session.dashboard.panel.visible with
  | none =>
      simp only [Session.applyMode, bind, Operation.get, Suspended.bind, hpanel]
      rfl
  | some panel =>
      simp only [Session.applyMode, bind, Operation.get, Suspended.bind, hpanel]
      cases panel with
      | manual =>
          exact runSuspended_call_snd D w (c := w.session.save .manual)
            fun answer t => by cases answer <;> exact ⟨_, rfl⟩
      | auto =>
          exact runSuspended_call_snd D w (c := w.session.save .auto)
            fun answer t => by cases answer <;> exact ⟨_, rfl⟩
      | scheduled =>
          exact runSuspended_call_snd D w (c := w.session.save .scheduled)
            fun answer t => by cases answer <;> exact ⟨_, rfl⟩

end Timeline

/-- A mode is refused for want of a panel only if there is none, or if the device says so itself. -/
theorem visible_of_perform_applyMode {σ : Type} {D : DeviceModel σ} {w : Timeline σ}
    (h : (w.perform D Session.applyMode).2 = .error (.input .noModeSelected)) :
    w.session.dashboard.panel.visible = none ∨ ∃ panel,
      (D.call (w.session.save panel) w.device).1.answer = .error (.input .noModeSelected) := by
  rw [Timeline.perform_applyMode] at h
  split at h
  · next hpanel => exact .inl hpanel
  · next panel hpanel =>
    refine .inr ⟨panel, ?_⟩
    cases hanswer : (D.call (w.session.save panel) w.device).1.answer with
    | error e =>
        rw [hanswer] at h
        exact congrArg Except.error (Except.error.inj h)
    | ok a =>
        rw [hanswer] at h
        cases h

/-! ### Main result -/

namespace Dashboard

/-- **What stands on the dashboard fits together**, whatever bodies the device sends and whatever
else is written in between. The text of the temperature is that of a finite number, which is the
nearest number of tenths, and never that of anything else; the output is a percentage. A mode is
known just when its text is shown, and else there is no text or it says that the mode is unknown. At
most one panel is on screen, and one is while a mode is known. So while a mode is known no mode is
refused for want of a panel, unless the device itself says so, which one over a link does not. -/
theorem after_consistent (moves : List DashboardMove)
    (hread : ∀ status, .report status ∈ moves → status.IsRead) :
    let d := empty.after moves
    (∀ text, d.temperature = some text → ∃ x : Binary32, x.isFinite = true ∧
      text = temperatureText x ∧ ∃ negative tenths,
        text = Decimal.tenthsText negative tenths ++ " °C" ∧
        |(Datum.signed negative tenths : ℚ) - 10 * x.decode.toRat| ≤ 1 / 2) ∧
    (∀ x, d.temperature = some (temperatureText x) → x.isFinite = true) ∧
    (∀ text, d.output = some text → ∃ k : Nat, k ≤ 100 ∧ text = toString k ++ " %") ∧
    (∀ m : Mode, d.panel.mode = some m ↔ d.modeLabel = some m.label) ∧
    (d.panel.mode = none ↔ d.modeLabel = none ∨ d.modeLabel = some "Desconocido") ∧
    (∀ panel other, d.panel.isVisible panel = true → d.panel.isVisible other = true →
      panel = other) ∧
    d.panel.visibleCount ≤ 1 ∧
    (d.panel.visibleCount = 1 ↔ d.panel.visible.isSome = true) ∧
    (d.panel.mode.isSome = true → d.panel.visible.isSome = true) ∧
    (∀ {σ : Type} (D : DeviceModel σ) (w : Timeline σ), w.session.dashboard = d →
      (w.perform D Session.applyMode).2 = .error (.input .noModeSelected) →
        d.panel.mode = none ∨ ∃ panel,
          (D.call (w.session.save panel) w.device).1.answer = .error (.input .noModeSelected)) ∧
    ∀ {σ : Type} (client : Client) (link : Link σ) (w : Timeline σ), w.session.dashboard = d →
      (w.perform (client.model link) Session.applyMode).2 = .error (.input .noModeSelected) →
        d.panel.mode = none := by
  intro d
  have hd : d.Consistent := Consistent.empty.after hread
  refine ⟨?_, ?_, ?_, hd.mode_eq_some_iff, hd.mode_eq_none_iff,
    fun _ _ => PanelState.isVisible_unique, ?_, ?_, hd.shown, ?_, ?_⟩
  · intro text htext
    obtain ⟨x, hx, rfl⟩ := hd.temperature text htext
    exact ⟨x, hx, rfl, exists_tenths hx⟩
  · intro x htext
    obtain ⟨y, hy, hsame⟩ := hd.temperature _ htext
    exact isFinite_of_temperatureText hy hsame
  · intro text htext
    obtain ⟨level, hlevel, rfl⟩ := hd.output text htext
    exact ⟨level.toNat, UInt8.le_iff_toNat_le.mp hlevel, rfl⟩
  · rw [PanelState.visibleCount_eq]
    split <;> decide
  · rw [PanelState.visibleCount_eq]
    split <;> simp_all
  · intro σ D w hw h
    rw [← hw] at hd ⊢
    exact (visible_of_perform_applyMode h).imp hd.mode_of_hidden id
  · intro σ client link w hw h
    rw [← hw] at hd ⊢
    rcases visible_of_perform_applyMode h with hhidden | ⟨panel, hanswer⟩
    · exact hd.mode_of_hidden hhidden
    · have hinput := client.isInput_of_call link _ _ hanswer
      cases hinput

/-- A temperature that is too great for single precision is passed over, outputs that are no
percentages are held within the range, and a number that stands for no mode hides the panels until
the next report. The operator looks at another panel than the one of the mode then, and it can be
applied over every link. -/
theorem after_consistent_extremes :
    let cold : Status := ⟨some ⟨0xC1AA0000⟩, none, some (.unrecognized 9), some 100⟩
    let hot : Status := ⟨none, some true, some (.known .auto), some 0⟩
    let moves : List DashboardMove :=
      [.report cold, .event .uploadFailed, .report hot, .selectPanel .scheduled]
    let d := empty.after moves
    (∀ status, .report status ∈ moves → status.IsRead) ∧
      d.temperature = some "-21.2 °C" ∧ (∃ x : Binary32, x.isFinite = true ∧
        "-21.2 °C" = temperatureText x) ∧
      d.output = some "0 %" ∧ d.panel.mode = some .auto ∧ d.panel.visibleCount = 1 ∧
      ∀ {σ : Type} (client : Client) (link : Link σ) (w : Timeline σ), w.session.dashboard = d →
        (w.perform (client.model link) Session.applyMode).2 ≠ .error (.input .noModeSelected) := by
  intro cold hot moves d
  have hcold : cold.IsRead := by
    refine ⟨Text.bytes "\x7b\"mode\":9,\"temp\":-21.25,\"pwm\":500\x7d",
      ⟨some ⟨0xC1AA0000⟩, none, some 9, some 500⟩, ?_, ?_⟩ <;> decide +kernel
  have hhot : hot.IsRead := by
    refine ⟨Text.bytes "\x7b\"pir\":1,\"temp\":1e39,\"mode\":1,\"pwm\":-7\x7d",
      ⟨some ⟨0x7F800000⟩, some (.number 1), some 1, some (-7)⟩, ?_, ?_⟩ <;> decide +kernel
  have hread : ∀ status, .report status ∈ moves → status.IsRead := by
    intro status hstatus
    have hone : status = cold ∨ status = hot := by simpa [moves] using hstatus
    rcases hone with rfl | rfl
    · exact hcold
    · exact hhot
  have htemperature : d.temperature = some "-21.2 °C" := by decide +kernel
  have hlabel : d.modeLabel = some Mode.auto.label := rfl
  obtain ⟨htext, -, -, hmode, -, -, -, hcount, -, -, hlink⟩ := after_consistent moves hread
  obtain ⟨x, hx, hrendered, -⟩ := htext _ htemperature
  have hauto := (hmode .auto).mpr hlabel
  refine ⟨hread, htemperature, ⟨x, hx, hrendered⟩, rfl, hauto, hcount.mpr rfl, ?_⟩
  intro σ client link w hw hrefused
  cases hauto.symm.trans (hlink client link w hw hrefused)

end Dashboard

end FanControl

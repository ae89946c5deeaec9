import FanControl.Dashboard.History
import FanControl.Proofs.LastWrite

/-!
# The dashboard shows the last word

A dashboard is written by status reports, by the operator and by firmware updates, in any order.
Each of these writes only what is its own, and a status report that leaves a field out does not
touch what is shown of it. So **what is shown of a matter is the last thing that was said about
it**, however the moves were mixed.

`Dashboard.apply_eq` says once what a move writes; what some moves leave in a field is then
`foldl_lastWrite` at that field.

## Main results

* `Dashboard.apply_eq`: one move, field by field;
* `Dashboard.reported_apply`, `Dashboard.changesMode_iff`: only status reports change the mode and
  the texts of what was measured, and when they change the mode;
* `Dashboard.after_lastWrite`: every field after any moves.
-/

namespace FanControl

namespace Dashboard

open DashboardMove

/-! ### One move -/

/-- **What a move writes.** In each field stands what the move says about it, or else what stood
there before. -/
theorem apply_eq (d : Dashboard) (m : DashboardMove) : d.apply m = {
    panel := {
      mode := (reading Status.mode m).elim d.panel.mode ReportedMode.mode?
      visible := (turnsTo? m).elim d.panel.visible id }
    temperature := (reading Status.temperature m).elim d.temperature (some ∘ temperatureText)
    presence := (reading Status.presence m).elim d.presence (some ∘ presenceText)
    modeLabel := (reading Status.mode m).elim d.modeLabel (some ∘ ReportedMode.label)
    output := (reading Status.output m).elim d.output (some ∘ outputText)
    notices := {
      manual := (noticeOn? .manual m).elim d.notices.manual some
      auto := (noticeOn? .auto m).elim d.notices.auto some
      scheduled := (noticeOn? .scheduled m).elim d.notices.scheduled some }
    modeNotice := (modeNotice? m).elim d.modeNotice some
    updateMessage := (updateMessage? m).elim d.updateMessage some
    firmware := (firmware? m).elim d.firmware some } := by
  cases m with
  | report status =>
      obtain ⟨temperature, presence, mode, output⟩ := status
      cases temperature <;> cases presence <;> cases mode <;> cases output <;> rfl
  | notify panel notice => cases panel <;> rfl
  | event e => cases e <;> rfl
  | selectPanel | notifyMode | updateMessage => rfl

/-- The notice of a panel after a move is the one that the move puts there, or the one that was
there. -/
theorem get_notices_apply (panel : Mode) (d : Dashboard) (m : DashboardMove) :
    (d.apply m).notices.get panel = (noticeOn? panel m).elim (d.notices.get panel) some := by
  rw [apply_eq]
  cases panel <;> rfl

/-- **Only status reports** change the mode of the device and the texts of what was measured. -/
theorem reported_apply {m : DashboardMove} (h : m.isReport = false) (d : Dashboard) :
    (d.apply m).reported = d.reported := by
  rw [apply_eq]
  cases m with
  | report status => cases h
  | selectPanel | notify | notifyMode | event | updateMessage => rfl

/-- **When a status report changes the mode**: when it holds another one than is known. -/
theorem changesMode_iff (d : Dashboard) (status : Status) :
    d.changesMode status = true ↔ ∃ mode, status.mode = some mode ∧ mode.mode? ≠ d.panel.mode := by
  rw [changesMode, PanelState.changesMode, PanelState.applyStatus, bne_iff_ne]
  cases status.mode with
  | none => simp
  | some mode =>
      refine ⟨fun h => ⟨mode, rfl, h.symm⟩, ?_⟩
      rintro ⟨mode', hmode, h⟩
      obtain rfl := Option.some.inj hmode
      exact h.symm

/-! ### Any moves -/

/-- A field that is blank at first holds, after some moves, what the last of them that says anything
about its matter writes in it. -/
theorem place_after {α β : Type} (place : Dashboard → Option β)
    (tells : DashboardMove → Option α) (write : α → Option β) (hempty : place empty = none)
    (hstep : ∀ d m, place (d.apply m) = (tells m).elim (place d) write)
    (moves : List DashboardMove) : place (empty.after moves) = (last tells moves).bind write := by
  have hlast := foldl_lastWrite hstep empty moves
  rw [hempty] at hlast
  refine hlast.trans ?_
  rw [last]
  cases (moves.filterMap tells).getLast? <;> rfl

/-- A text of what was measured is that of the last report that held it. -/
theorem text_after {α : Type} (place : Dashboard → Option String) (field : Status → Option α)
    (text : α → String) (hempty : place empty = none)
    (hstep : ∀ d m, place (d.apply m) = (reading field m).elim (place d) (some ∘ text))
    (moves : List DashboardMove) :
    place (empty.after moves) = (last (reading field) moves).map text :=
  (place_after place _ _ hempty hstep moves).trans Option.map_eq_bind.symm

/-- A notice or a message is the last one given in its place. -/
theorem said_after {α : Type} (place : Dashboard → Option α) (tells : DashboardMove → Option α)
    (hempty : place empty = none)
    (hstep : ∀ d m, place (d.apply m) = (tells m).elim (place d) some)
    (moves : List DashboardMove) : place (empty.after moves) = last tells moves :=
  (place_after place _ _ hempty hstep moves).trans (Option.bind_fun_some _)

/-- **The dashboard shows the last word on every matter.** After any moves the mode of the device
and the texts of what was measured are those of the last status reports that held them; the panel on
screen is the one that was turned to last, by the operator or by a report; and each notice and
message is the last one given in its place. A status report is said to change the mode just when
the mode is another one after it, and no other move changes the mode or a text of what was
measured. -/
theorem after_lastWrite (moves : List DashboardMove) :
    let d := empty.after moves
    d.temperature = (last (reading Status.temperature) moves).map temperatureText ∧
    d.presence = (last (reading Status.presence) moves).map presenceText ∧
    d.modeLabel = (last (reading Status.mode) moves).map ReportedMode.label ∧
    d.output = (last (reading Status.output) moves).map outputText ∧
    d.panel.mode = (last (reading Status.mode) moves).bind ReportedMode.mode? ∧
    d.panel.visible = (last turnsTo? moves).join ∧
    (∀ panel, d.notices.get panel = last (noticeOn? panel) moves) ∧
    d.modeNotice = last modeNotice? moves ∧
    d.updateMessage = last updateMessage? moves ∧
    d.firmware = last firmware? moves ∧
    (∀ status, d.changesMode status = true ↔ (d.apply (.report status)).panel.mode ≠ d.panel.mode) ∧
    (∀ status, d.changesMode status = true ↔ ∃ mode, status.mode = some mode ∧
      mode.mode? ≠ (last (reading Status.mode) moves).bind ReportedMode.mode?) ∧
    ∀ m, m.isReport = false → (d.apply m).reported = d.reported := by
  intro d
  have htemperature := text_after temperature Status.temperature temperatureText rfl
    (fun d m => congrArg temperature (d.apply_eq m)) moves
  have hpresence := text_after presence Status.presence presenceText rfl
    (fun d m => congrArg presence (d.apply_eq m)) moves
  have hlabel := text_after modeLabel Status.mode ReportedMode.label rfl
    (fun d m => congrArg modeLabel (d.apply_eq m)) moves
  have houtput := text_after output Status.output outputText rfl
    (fun d m => congrArg output (d.apply_eq m)) moves
  have hmode := place_after (·.panel.mode) (reading Status.mode) ReportedMode.mode? rfl
    (fun d m => congrArg (·.panel.mode) (d.apply_eq m)) moves
  have hvisible := place_after (·.panel.visible) turnsTo? id rfl
    (fun d m => congrArg (·.panel.visible) (d.apply_eq m)) moves
  have hnotices (panel : Mode) := said_after (·.notices.get panel) (noticeOn? panel)
    (by cases panel <;> rfl) (get_notices_apply panel) moves
  have hmodeNotice := said_after modeNotice modeNotice? rfl
    (fun d m => congrArg modeNotice (d.apply_eq m)) moves
  have hmessage := said_after updateMessage updateMessage? rfl
    (fun d m => congrArg updateMessage (d.apply_eq m)) moves
  have hfirmware := said_after firmware firmware? rfl
    (fun d m => congrArg firmware (d.apply_eq m)) moves
  refine ⟨htemperature, hpresence, hlabel, houtput, hmode,
    hvisible.trans (Option.bind_id_eq_join ..), hnotices, hmodeNotice, hmessage, hfirmware,
    fun status => ?_, fun status => ?_, fun m hm => d.reported_apply hm⟩
  · rw [changesMode, PanelState.changesMode, bne_iff_ne, ne_comm]
    rfl
  · rw [← hmode]
    exact d.changesMode_iff status

end Dashboard

end FanControl

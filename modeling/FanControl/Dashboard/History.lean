import FanControl.Dashboard

/-!
# Histories of the dashboard

What an operator reads has been put there at different times and by different hands: by status
reports, by what the operator did, and by firmware updates, in whatever order these came. A
`DashboardMove` is one such occasion, and the dashboard after some moves is what is left of them.

Each move says something about some matters and nothing about the others. What the **last** of some
moves that says anything about a matter says about it is what counts.

## Main definitions

* `Dashboard.apply`, `Dashboard.after`: one move, and some moves one after another;
* `DashboardMove.reading`, `turnsTo?`, `noticeOn?` and their like: what a move says;
* `DashboardMove.last`: what the last of some moves says;
* `Dashboard.reported`: the part of the dashboard that is left to status reports.
-/

namespace FanControl

/-- An occasion on which the dashboard is written. -/
inductive DashboardMove where
  | report (status : Status)
  | selectPanel (panel : Mode)
  | notify (panel : Mode) (notice : Notice)
  | notifyMode (notice : Notice)
  | event (event : UpdateEvent)
  | updateMessage (message : String)
deriving DecidableEq, Repr

namespace Dashboard

/-- The dashboard after a move. -/
def apply (d : Dashboard) : DashboardMove → Dashboard
  | .report status => d.applyStatus status
  | .selectPanel panel => d.selectPanel panel
  | .notify panel notice => d.setNotice panel notice
  | .notifyMode notice => d.setModeNotice notice
  | .event event => d.applyEvent event
  | .updateMessage message => d.setUpdateMessage message

/-- The dashboard after some moves. -/
def after (d : Dashboard) (moves : List DashboardMove) : Dashboard := moves.foldl apply d

/-- What is left to status reports: the mode of the device, and the texts of what was measured. -/
def reported (d : Dashboard) :
    Option Mode × Option String × Option String × Option String × Option String :=
  (d.panel.mode, d.temperature, d.presence, d.modeLabel, d.output)

end Dashboard

namespace DashboardMove

variable {α : Type}

/-- What the last of some moves says about a matter, if any of them says anything about it. -/
def last (tells : DashboardMove → Option α) (moves : List DashboardMove) : Option α :=
  (moves.filterMap tells).getLast?

/-- What a status report holds in one of its fields. -/
def reading (field : Status → Option α) : DashboardMove → Option α
  | report status => field status
  | _ => none

/-- Whether a move is a status report. -/
def isReport : DashboardMove → Bool
  | report _ => true
  | _ => false

/-- The panel that a move turns to. The report of an unknown mode turns away from all panels. -/
def turnsTo? : DashboardMove → Option (Option Mode)
  | report status => status.mode.map ReportedMode.mode?
  | selectPanel panel => some (some panel)
  | _ => none

/-- The notice that a move puts on a panel. -/
def noticeOn? (panel : Mode) : DashboardMove → Option Notice
  | notify other notice => if other = panel then some notice else none
  | _ => none

/-- The notice about the mode that a move gives. -/
def modeNotice? : DashboardMove → Option Notice
  | notifyMode notice => some notice
  | _ => none

/-- What a move says about an update. The end of an update asks for a reload and says nothing. -/
def updateMessage? : DashboardMove → Option String
  | event (.firmwareInfo _) | event .reload => none
  | event e => some e.text
  | updateMessage message => some message
  | _ => none

/-- What a move says about the running firmware. -/
def firmware? : DashboardMove → Option String
  | event (.firmwareInfo firmware) => some firmware.text
  | _ => none

end DashboardMove

end FanControl

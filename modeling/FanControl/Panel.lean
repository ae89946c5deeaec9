import FanControl.Status

/-!
# The panel on screen

The mode of the device is known only from its status reports. The panel that is shown follows the
mode with every report, and in between the operator may look at another one; that never changes
the mode.
-/

namespace FanControl

/-- What is known of the mode, and the panel on screen. -/
structure PanelState where
  mode : Option Mode
  visible : Option Mode
deriving DecidableEq, Repr

namespace PanelState

/-- Nothing is known and nothing is shown. -/
def initial : PanelState := ⟨none, none⟩

/-- Whether a panel is on screen. -/
def isVisible (s : PanelState) (panel : Mode) : Bool := s.visible == some panel

/-- How many panels are on screen. -/
def visibleCount (s : PanelState) : Nat := Mode.all.countP s.isVisible

/-- Never more than one panel is on screen. -/
theorem visibleCount_eq (s : PanelState) : s.visibleCount = if s.visible.isSome then 1 else 0 := by
  obtain ⟨mode, visible⟩ := s
  rcases visible with _ | panel
  · rfl
  · cases panel <;> rfl

/-- After a status report. One without a mode changes nothing; a mode that is unknown hides all
panels. -/
def applyStatus (s : PanelState) (status : Status) : PanelState :=
  match status.mode with
  | some reported => ⟨reported.mode?, reported.mode?⟩
  | none => s

/-- Whether a status report changes what is known of the mode. -/
def changesMode (s : PanelState) (status : Status) : Bool := s.mode != (s.applyStatus status).mode

/-- After the operator has turned to a panel. -/
def select (s : PanelState) (panel : Mode) : PanelState := { s with visible := some panel }

end PanelState

end FanControl

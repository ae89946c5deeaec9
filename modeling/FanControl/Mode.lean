/-!
# Operating modes

The fan runs at a fixed output, follows a temperature band, or follows the schedule. On the wire a
mode is a number. A device may report a number that stands for no mode; it is kept as it is, so
that what is shown can say that the mode is unknown instead of guessing one.
-/

namespace FanControl

/-- How the fan is driven. Each mode has a panel of its own on the dashboard. -/
inductive Mode where
  /-- At a fixed output. -/
  | manual
  /-- By one temperature band, while somebody is present. -/
  | auto
  /-- By the first open slot of the schedule, while somebody is present. -/
  | scheduled
deriving DecidableEq, Repr

namespace Mode

/-- All modes, in order of their codes. -/
def all : List Mode := [manual, auto, scheduled]

/-- The number of a mode on the wire. -/
def code : Mode → Nat
  | manual => 0
  | auto => 1
  | scheduled => 2

/-- The mode with a number. -/
def ofCode? (code : Int64) : Option Mode :=
  if code = 0 then some manual
  else if code = 1 then some auto
  else if code = 2 then some scheduled
  else none

/-- The numbers of the modes stand for them, and no others do. -/
theorem ofCode?_eq_some_iff {code : Int64} {mode : Mode} :
    ofCode? code = some mode ↔ code = Int64.ofNat mode.code := by
  constructor
  · intro h
    rw [ofCode?] at h
    split at h
    · next hcode => rw [hcode, ← Option.some.inj h]; rfl
    · split at h
      · next hcode => rw [hcode, ← Option.some.inj h]; rfl
      · split at h
        · next hcode => rw [hcode, ← Option.some.inj h]; rfl
        · cases h
  · rintro rfl
    cases mode <;> rfl

/-- What an operator reads. -/
def label : Mode → String
  | manual => "Manual"
  | auto => "Automático"
  | scheduled => "Programado"

end Mode

/-- The mode of a status report. -/
inductive ReportedMode where
  | known (mode : Mode)
  /-- A number that stands for no mode. -/
  | unrecognized (code : Int64)
deriving DecidableEq, Repr

namespace ReportedMode

/-- What a reported number stands for. -/
def ofCode (code : Int64) : ReportedMode :=
  match Mode.ofCode? code with
  | some mode => known mode
  | none => unrecognized code

/-- The number that stands for it. -/
def code : ReportedMode → Int64
  | known mode => Int64.ofNat mode.code
  | unrecognized code => code

/-- A number stands for what it was reported as. -/
@[simp] theorem code_ofCode (code : Int64) : (ofCode code).code = code := by
  rw [ofCode]
  split
  · next mode h => exact (Mode.ofCode?_eq_some_iff.mp h).symm
  · rfl

/-- The number of a mode is reported as the mode. -/
@[simp] theorem ofCode_code (mode : Mode) : ofCode (Int64.ofNat mode.code) = known mode := by
  cases mode <;> rfl

/-- The mode, if it is one. -/
def mode? : ReportedMode → Option Mode
  | known mode => some mode
  | unrecognized _ => none

/-- The mode of a reported number is the one that the number stands for. -/
@[simp] theorem mode?_ofCode (code : Int64) : (ofCode code).mode? = Mode.ofCode? code := by
  rw [ofCode]
  split
  · next mode h => exact h.symm
  · next h => exact h.symm

/-- A reported number is a known mode just when it is the number of that mode. -/
theorem ofCode_eq_known_iff {code : Int64} {mode : Mode} :
    ofCode code = known mode ↔ code = Int64.ofNat mode.code := by
  constructor
  · intro h
    rw [← code_ofCode code, h]
    rfl
  · rintro rfl
    exact ofCode_code mode

/-- What an operator reads. -/
def label : ReportedMode → String
  | known mode => mode.label
  | unrecognized _ => "Desconocido"

end ReportedMode

end FanControl

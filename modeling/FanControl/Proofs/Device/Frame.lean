import FanControl.Device.Server
import FanControl.Proofs.Schedule.Dialect

/-!
# What a request may write

A device carries a request out as a whole or not at all, and what it carries out writes to few
parts of its memory. Both are said of one notion: an answer is `Framed` by some parts if it leaves
the memory alone, or accepts the request and leaves all other parts alone.

The parts that a request may write are `Device.writes`; of the slots it is the one that the body
addresses, in the dialect of the path.

## Main result

* `Device.serve_writes`: every request, accepted or refused, leaves alone what is not its own.
-/

namespace FanControl

open Http Json

/-- A part of the memory of a device. -/
inductive MemoryPart where
  | modeCode
  | manual
  | auto
  | slot (id : SlotId)
  | temperature
  | presence
  | verdict
  | firmware
  | uploads
  | wifi
  | ssid
deriving DecidableEq, Repr

/-- Whether a part is the same in two memories. -/
def MemoryPart.Agrees (d d' : Device) : MemoryPart → Prop
  | modeCode => d'.modeCode = d.modeCode
  | manual => d'.manual = d.manual
  | auto => d'.auto = d.auto
  | slot id => d'.slots.get id = d.slots.get id
  | temperature => d'.temperature = d.temperature
  | presence => d'.presence = d.presence
  | verdict => d'.verdict = d.verdict
  | firmware => d'.firmware = d.firmware
  | uploads => d'.uploads = d.uploads
  | wifi => d'.wifi = d.wifi
  | ssid => d'.ssid = d.ssid

namespace Device

/-- The slot that the body of a request is about, in a dialect. -/
def addressedSlot? (dialect : Dialect) (r : Request) : Option SlotId :=
  match valueBody r with
  | .ok body => (dialect.decodeSelector body).toOption
  | .error _ => none

/-- The parts that a route may write. -/
def routeWrites (r : Request) : Route → List MemoryPart
  | .setManual => [.manual, .modeCode]
  | .setAuto => [.auto, .modeCode]
  | .setSlot dialect => .modeCode :: (addressedSlot? dialect r).toList.map .slot
  | .eraseSlot dialect => (addressedSlot? dialect r).toList.map .slot
  | .upload => [.verdict, .uploads]
  | .connectWifi => [.ssid, .wifi]
  | .status | .manual | .auto | .slot _ | .verdict | .wifiStatus => []

/-- The parts that a request may write. -/
def writes (r : Request) : List MemoryPart :=
  match Route.ofPath? r.path with
  | some route => routeWrites r route
  | none => []

/-- **An answer that writes nothing but some parts**: the memory stays as it was, or the request
is accepted and all other parts stay as they were. -/
inductive Framed (d : Device) (parts : List MemoryPart) : Response × Device → Prop
  | kept (response : Response) : Framed d parts (response, d)
  | written (d' : Device) (others : ∀ part, part ∉ parts → part.Agrees d d') :
      Framed d parts (accepted, d')

variable {d : Device} {parts : List MemoryPart} {answer : Response × Device}

/-- The parts make up the memory. -/
theorem eq_of_agrees {d' : Device} (h : ∀ part : MemoryPart, part.Agrees d d') : d' = d := by
  have hslots : d'.slots = d.slots := SlotTable.ext_get fun id => h (.slot id)
  cases d
  cases d'
  simp only [mk.injEq]
  exact ⟨h .modeCode, h .manual, h .auto, hslots, h .temperature, h .presence, h .verdict,
    h .firmware, h .uploads, h .wifi, h .ssid⟩

/-! ### Answers -/

/-- An answer that is framed by no part leaves the memory alone. -/
theorem Framed.eq_of_nil (h : Framed d [] answer) : answer.2 = d := by
  cases h with
  | kept => rfl
  | written d' others => exact eq_of_agrees fun part => others part (by simp)

/-- A refusal leaves the memory alone. -/
theorem Framed.eq_of_refused (h : Framed d parts answer) (hrefused : answer.1.isSuccess = false) :
    answer.2 = d := by
  cases h with
  | kept => rfl
  | written => cases hrefused

/-- The parts that an answer does not write stay as they were. -/
theorem Framed.agrees (h : Framed d parts answer) {part : MemoryPart} (hpart : part ∉ parts) :
    part.Agrees d answer.2 := by
  cases h with
  | kept => cases part <;> rfl
  | written d' others => exact others part hpart

/-- A body that cannot be read prevents the step; else the step decides. -/
theorem Framed.withBody {α : Type} {body : Except Response α} {store : α → Response × Device}
    (h : ∀ a, body = .ok a → Framed d parts (store a)) :
    Framed d parts (d.withBody body store) := by
  cases body with
  | error response => exact .kept response
  | ok a => exact h a rfl

/-! ### Routes -/

/-- Storing a manual output writes that and the mode only. -/
theorem setManual_framed (d : Device) (body : Value) :
    Framed d [.manual, .modeCode] (d.setManual body) := by
  rw [setManual]
  split
  · exact .kept _
  · refine .written _ fun part hpart => ?_
    cases part with
    | manual | modeCode => simp at hpart
    | _ => rfl

/-- Storing a band writes that and the mode only. -/
theorem setAuto_framed (d : Device) (body : Value) :
    Framed d [.auto, .modeCode] (d.setAuto body) := by
  rw [setAuto]
  split
  · refine .written _ fun part hpart => ?_
    cases part with
    | auto | modeCode => simp at hpart
    | _ => rfl
  · exact .kept _

/-- Storing a slot writes the one that the body addresses and the mode only. -/
theorem setSlot_framed (d : Device) (dialect : Dialect) (body : Value) :
    Framed d (.modeCode :: (dialect.decodeSelector body).toOption.toList.map .slot)
      (d.setSlot dialect body) := by
  rw [setSlot]
  cases hset : dialect.decodeSet body with
  | error e => exact .kept _
  | ok s =>
      refine .written _ fun part hpart => ?_
      rw [(dialect.decodeSet_eq_ok_iff.mp hset).1] at hpart
      cases part with
      | slot id =>
          refine SlotTable.get_set_of_ne _ _ fun heq => hpart ?_
          simp [heq, Except.toOption]
      | modeCode => simp at hpart
      | _ => rfl

/-- Erasing a slot writes the one that the body addresses only. -/
theorem eraseSlot_framed (d : Device) (dialect : Dialect) (body : Value) :
    Framed d ((dialect.decodeSelector body).toOption.toList.map .slot)
      (d.eraseSlot dialect body) := by
  rw [eraseSlot]
  cases hid : dialect.decodeSelector body with
  | error e => exact .kept _
  | ok id =>
      refine .written _ fun part hpart => ?_
      cases part with
      | slot other =>
          refine SlotTable.get_set_of_ne _ _ fun heq => hpart ?_
          simp [heq, Except.toOption]
      | _ => rfl

/-- Receiving an image writes what has been received and the verdict only, and nothing unless the
whole form can be read. -/
theorem receiveImage_framed (d : Device) (r : Request) :
    Framed d [.verdict, .uploads] (d.receiveImage r) := by
  simp only [receiveImage]
  split
  · exact .kept _
  · split
    · exact .kept _
    · split
      · exact .kept _
      · refine .written _ fun part hpart => ?_
        cases part with
        | verdict | uploads => simp at hpart
        | _ => rfl

/-- Taking credentials writes the name and the status of the network only. -/
theorem connectWifi_framed (d : Device) (c : Wifi.Credentials) :
    Framed d [.ssid, .wifi] (d.connectWifi c) := by
  rw [connectWifi]
  split
  · exact .kept _
  · refine .written _ fun part hpart => ?_
    cases part with
    | ssid | wifi => simp at hpart
    | _ => rfl

/-- **Each route writes its own parts and no other.** -/
theorem handle_framed (d : Device) (minute : Nat) (route : Route) (r : Request) :
    Framed d (routeWrites r route) (d.handle minute route r) := by
  cases route with
  | status | manual | auto | slot | verdict | wifiStatus => exact .kept _
  | setManual => exact .withBody fun body _ => d.setManual_framed body
  | setAuto => exact .withBody fun body _ => d.setAuto_framed body
  | setSlot dialect =>
      refine .withBody fun body hbody => ?_
      simpa [routeWrites, addressedSlot?, hbody] using d.setSlot_framed dialect body
  | eraseSlot dialect =>
      refine .withBody fun body hbody => ?_
      simpa [routeWrites, addressedSlot?, hbody] using d.eraseSlot_framed dialect body
  | upload => exact d.receiveImage_framed r
  | connectWifi => exact .withBody fun c _ => d.connectWifi_framed c

/-- What is only given out leaves the memory alone. -/
theorem routeWrites_of_isRead {route : Route} (r : Request) (h : route.isRead = true) :
    routeWrites r route = [] := by
  cases route <;> first | rfl | cases h

/-! ### Requests -/

/-- **Every request writes its own parts and no other.** -/
theorem serve_framed (d : Device) (minute : Nat) (r : Request) :
    Framed d (writes r) (d.serve minute r) := by
  rw [serve, writes]
  cases Route.ofPath? r.path with
  | none => exact .kept _
  | some route =>
      have hhandle := d.handle_framed minute route r
      dsimp only
      split
      · next hread =>
          split
          · exact hhandle
          · rw [routeWrites_of_isRead r hread] at hhandle
            have hkept := hhandle.eq_of_nil
            generalize d.handle minute route r = answer at hkept
            obtain ⟨response, d'⟩ := answer
            obtain rfl : d' = d := hkept
            exact .kept _
          · exact .kept _
      · split
        · exact hhandle
        · exact .kept _

/-- A request that only asks for something by its method writes nothing: a route that writes does
not answer it. -/
theorem serve_get (d : Device) (minute : Nat) {r : Request} (h : r.method = .get) :
    (d.serve minute r).2 = d := by
  have hframed := d.serve_framed minute r
  rw [serve] at hframed ⊢
  cases hroute : Route.ofPath? r.path with
  | none => rfl
  | some route =>
      simp only [hroute, writes] at hframed
      by_cases hread : route.isRead = true
      · rw [routeWrites_of_isRead r hread] at hframed
        simpa using hframed.eq_of_nil
      · simp [hread, h]

/-- **Every request leaves alone what is not its own.** One that is refused, that only asks for
something by its method, or that asks for the verdict of an upload leaves the whole memory as it
was. Any other writes at most the parts that belong to its route, and of the slots the one that it
addresses. -/
theorem serve_writes (d : Device) (minute : Nat) (r : Request) :
    ((d.serve minute r).1.isSuccess = false ∨ r.method = .get ∨
        (r.method = .post ∧ r.path = Route.verdict.path) → (d.serve minute r).2 = d) ∧
    (∀ part, part ∉ writes r → part.Agrees d (d.serve minute r).2) := by
  have hframed := d.serve_framed minute r
  refine ⟨?_, fun part hpart => hframed.agrees hpart⟩
  rintro (hrefused | hget | ⟨-, hpath⟩)
  · exact hframed.eq_of_refused hrefused
  · exact d.serve_get minute hget
  · have hroute : Route.ofPath? r.path = some .verdict := by
      rw [hpath]
      decide
    rw [writes, hroute] at hframed
    exact hframed.eq_of_nil

end Device

end FanControl

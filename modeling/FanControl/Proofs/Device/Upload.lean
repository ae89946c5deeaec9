import FanControl.Proofs.Http.Form
import FanControl.Proofs.Http.MediaType
import FanControl.Proofs.Json.Record
import FanControl.Session.Client

/-!
# What a device makes of an upload and of a query

The two requests of a firmware update as the device sees them. However much of the form with the
image it gets, it either refuses the upload and **remembers what it remembered**, or it has
received the whole image. And the answer to a query, read by the client, is what the device
remembers.

## Main results

* `VerdictBody.ofBytes_render`: the body of an answer is read back;
* `Device.serve_queryVerdict`: a query;
* `Device.serve_upload`: an upload, with any part of its form.
-/

namespace FanControl

open Http Json

/-! ### Queries -/

/-- The body of an answer is read back. -/
theorem VerdictBody.ofBytes_render : reader.ReadsBack toValue := by
  intro b
  have hfields : ∀ f ∈ record.fields, f.fill.Faithful := by
    simp [record, Field.faithful_required, Field.faithful_withDefault, Reader.faithful_int32,
      Reader.faithful_string]
  have hmembers : Value.MembersHold 126
      [("ota_update_status", .integer b.code.toInt), ("compile_date", .string b.date),
        ("compile_time", .string b.time)]
      [("ota_update_status", .integer b.code.toInt), ("compile_date", .string b.date),
        ("compile_time", .string b.time)] :=
    .cons ⟨rfl, Value.holds_integer (Value.fitsWord_int32 b.code)⟩ <|
      .cons ⟨rfl, Value.holds_string b.date⟩ <| .cons ⟨rfl, Value.holds_string b.time⟩ .nil
  refine (Record.ofBytes_render hfields hmembers).trans ?_
  rw [Record.memberValues_field rfl (by simp) (Reader.map_value _ (Reader.int32_value b.code)),
    Record.memberValues_field rfl (by simp) (Reader.map_value _ (Reader.string_value b.date)),
    Record.memberValues_field rfl (by simp) (Reader.map_value _ (Reader.string_value b.time)),
    Record.memberValues_nil]
  rfl

/-- The number of a verdict stands for it. -/
@[simp] theorem Verdict.ofCode_code (v : Verdict) : ofCode v.code = v := by
  cases v <;> rfl

/-- What a device reports of its firmware. -/
def Device.updateReport (d : Device) : UpdateReport := ⟨d.verdict, d.firmware⟩

/-- **A query is answered by what the device remembers**, and leaves it alone. -/
theorem Device.serve_queryVerdict (d : Device) (minute : Nat) (client : Client) :
    ∃ response, d.serve minute (client.request .queryVerdict) = (response, d) ∧
      client.interpret .queryVerdict response = .ok d.updateReport := by
  let body : VerdictBody := ⟨d.verdict.code, d.firmware.date, d.firmware.time⟩
  have haccepted (target : String) :
      Client.accepted target (.json 200 body.toValue) = .ok () := rfl
  have hread : VerdictBody.reader.ofBytes (Response.json 200 body.toValue).body = .ok body :=
    body.ofBytes_render
  refine ⟨.json 200 body.toValue, rfl, ?_⟩
  simp only [Client.interpret, Client.readJson, haccepted, hread, bind, Except.bind,
    Except.mapError, Except.map]
  simp [VerdictBody.report, body, updateReport]

/-! ### Uploads -/

/-- The one part of the form fits if the image does not hold what ends it. -/
theorem fits_imageForm {boundary : String} {image : FirmwareImage}
    (himage : ¬ lineEnd ++ Text.bytes ("--" ++ boundary) <:+: image.bytes) :
    ∀ p ∈ Client.imageForm image, p.Fits boundary := by
  intro p hp
  obtain rfl := List.mem_singleton.mp hp
  refine ⟨?_, himage⟩
  intro s hs
  obtain rfl := Option.some.inj hs
  exact .of_forall (by simp)

/-- Of the form with an image, as far as it has come, the reader sees that it is cut off, or it has
the whole image. -/
theorem parseForm_imageForm {boundary : String} (hboundary : MediaType.IsBoundary boundary)
    {image : FirmwareImage}
    (himage : ¬ lineEnd ++ Text.bytes ("--" ++ boundary) <:+: image.bytes) (bytes : Nat) :
    (∃ parts fault, parseForm boundary
        ((encodeForm boundary (Client.imageForm image) true).take bytes) = (parts, some fault)) ∨
    ∃ part, parseForm boundary
        ((encodeForm boundary (Client.imageForm image) true).take bytes) = ([part], none) ∧
      part.name = some imageField ∧ part.data = image.bytes := by
  have hwhole := parseForm_encodeForm hboundary.return_not_mem (fits_imageForm himage)
  cases hparse : parseForm boundary
      ((encodeForm boundary (Client.imageForm image) true).take bytes) with
  | mk parts fault =>
      cases fault with
      | some fault => exact .inl ⟨parts, fault, rfl⟩
      | none =>
          have hgrown := parseForm_grow hparse
            ((encodeForm boundary (Client.imageForm image) true).drop bytes)
          rw [List.take_append_drop, hwhole] at hgrown
          obtain ⟨rfl, -⟩ := Prod.mk.inj hgrown
          exact .inr ⟨_, rfl, partOf_name rfl _, rfl⟩

/-- **An upload is refused, and the device remembers what it remembered, or the whole image has
been received**, however much of its form the device has got. -/
theorem Device.serve_upload (d : Device) (minute : Nat) {boundary : String}
    (hboundary : MediaType.IsBoundary boundary) {image : FirmwareImage}
    (himage : ¬ lineEnd ++ Text.bytes ("--" ++ boundary) <:+: image.bytes) (bytes : Nat) :
    (∃ response, d.serve minute { Client.uploadRequestWithin boundary image with
        body := (Client.uploadRequestWithin boundary image).body.take bytes } = (response, d) ∧
      response.isSuccess = false) ∨
    d.serve minute { Client.uploadRequestWithin boundary image with
        body := (Client.uploadRequestWithin boundary image).body.take bytes } =
      (accepted, d.received image.bytes) := by
  generalize hbody : (Client.uploadRequestWithin boundary image).body.take bytes = body
  have hserve : d.serve minute { Client.uploadRequestWithin boundary image with body } =
      d.receiveImage { Client.uploadRequestWithin boundary image with body } := by
    rfl
  have hrefused (reason : String) : (refused 400 reason).isSuccess = false := rfl
  rw [hserve, receiveImage]
  simp only [Client.uploadRequestWithin, Option.bind_some, hboundary.formBoundary?]
  split
  · exact .inl ⟨_, rfl, hrefused _⟩
  · rcases parseForm_imageForm hboundary himage bytes with
      ⟨parts, fault, hparse⟩ | ⟨part, hparse, hname, hdata⟩
    · rw [← hbody]
      simp only [Client.uploadRequestWithin, hparse]
      exact .inl ⟨_, rfl, hrefused _⟩
    · rw [← hbody]
      simp only [Client.uploadRequestWithin, hparse]
      right
      simp [hname, hdata]

/-- A device that gets the whole form receives the image, unless the form is too large. -/
theorem Device.serve_upload_whole (d : Device) (minute : Nat) {boundary : String}
    (hboundary : MediaType.IsBoundary boundary) {image : FirmwareImage}
    (himage : ¬ lineEnd ++ Text.bytes ("--" ++ boundary) <:+: image.bytes)
    (hsize : (Client.uploadRequestWithin boundary image).body.length ≤ uploadLimit) :
    d.serve minute (Client.uploadRequestWithin boundary image) =
      (accepted, d.received image.bytes) := by
  have hserve : d.serve minute (Client.uploadRequestWithin boundary image) =
      d.receiveImage (Client.uploadRequestWithin boundary image) := rfl
  have hname : (partOf (partHeaders ⟨some imageField, some image.name,
      some "application/octet-stream", image.bytes⟩) image.bytes).name = some imageField :=
    partOf_name rfl _
  have hparse := parseForm_encodeForm hboundary.return_not_mem (fits_imageForm himage)
  rw [hserve, receiveImage]
  simp only [Client.uploadRequestWithin] at hsize ⊢
  simp only [Option.bind_some, hboundary.formBoundary?, if_neg (Nat.not_lt.mpr hsize), hparse]
  simp [Client.imageForm, hname]
  rfl

end FanControl

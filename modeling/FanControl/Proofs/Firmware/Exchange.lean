import FanControl.Proofs.Device.Upload
import FanControl.Proofs.Firmware.InFlight
import FanControl.Proofs.Session.ImageChunks
import FanControl.Session.Exchange

/-!
# Which image a verdict is about

The client takes the first verdict that is not `pending` for one about its image. The device never
forgets a verdict, and the client asks as soon as the upload has begun, so the verdict may be an
**old one**: that of an earlier image, from a query that the device answered before it was done
with this upload. This is the only other possibility. What decides an update is what the device
remembered at some query of this very update, and until the device has received the image as a
whole, it remembers what it did at the start.

## Main results

* `Exchange.Kept.run`: what every exchange keeps;
* `Exchange.decided_by_memory`: what decides an update.
-/

namespace FanControl

open Http

namespace Exchange

variable {u : UploadTask} {x x' : Exchange} {d₀ : Device}

/-- A memory of the device that the client may hear of: that before the upload, or, if the device
has received the image, that after it. -/
def Remembers (u : UploadTask) (d₀ : Device) (x : Exchange) (d : Device) : Prop :=
  d = d₀ ∨ d = d₀.received u.image.bytes ∧ x.device = d

/-- **What every exchange keeps**: the device remembers what it did at the start until it has
received the image, and each answer comes from what it remembered when it was asked. -/
structure Kept (u : UploadTask) (d₀ : Device) (x : Exchange) : Prop where
  sound : x.update.Sound
  device : x.device = d₀ ∨ x.device = d₀.received u.image.bytes ∧ x.response.isSome = true
  reply : ∀ d r, x.reply = some (d, r) →
    u.client.interpret .queryVerdict r = .ok d.updateReport ∧ Remembers u d₀ x d
  answered : answered x.update.answers = x.consulted.map Device.updateReport
  consulted : ∀ d ∈ x.consulted, Remembers u d₀ x d

/-- A move of the client changes the client's side only. -/
theorem advance_cases {m : UpdateMove} (h : x.advance? u m = some x') :
    ∃ r, x.update.move? u.period m = some r ∧ x' = { x with update := r } := by
  obtain ⟨r, hmove, rfl⟩ := Option.map_eq_some_iff.mp h
  exact ⟨r, hmove, rfl⟩

namespace Kept

/-- A move of the client that brings no answer keeps what every exchange keeps. -/
theorem advance {m : UpdateMove} (hx : Kept u d₀ x) (hm : ∀ a, m ≠ .answer a)
    (h : x.advance? u m = some x') : Kept u d₀ x' := by
  obtain ⟨r, hmove, rfl⟩ := advance_cases h
  have hanswers : r.answers = x.update.answers := by
    rw [UpdateRun.answers_of_move hmove]
    cases m with
    | answer a => exact absurd rfl (hm a)
    | wait _ | report | finish _ | look | close | tick => exact List.append_nil _
  exact ⟨hx.sound.move hmove, hx.device, hx.reply, by rw [hanswers]; exact hx.answered,
    hx.consulted⟩

/-- What every exchange keeps is kept when the device is done with the upload. -/
theorem receive (hx : Kept u d₀ x) (hboundary : MediaType.IsBoundary u.boundary)
    (himage : ¬ lineEnd ++ Text.bytes ("--" ++ u.boundary) <:+: u.image.bytes)
    (hopen : x.response = none) (minute bytes : Nat) :
    Kept u d₀ { x with
      response := some (x.device.serve minute (uploadRequest u bytes)).1
      device := (x.device.serve minute (uploadRequest u bytes)).2 } := by
  have hdevice : x.device = d₀ := by
    rcases hx.device with hdevice | ⟨-, hdone⟩
    · exact hdevice
    · rw [hopen] at hdone
      cases hdone
  have hold {d : Device} (h : Remembers u d₀ x d) : d = d₀ := by
    rcases h with hd | ⟨-, hd⟩
    · exact hd
    · exact hd.symm.trans hdevice
  refine ⟨hx.sound, ?_, ?_, hx.answered, fun d hd => .inl (hold (hx.consulted d hd))⟩
  · rcases Device.serve_upload x.device minute hboundary himage bytes with
      ⟨response, hserve, -⟩ | hserve
    · left
      exact (congrArg Prod.snd hserve).trans hdevice
    · right
      refine ⟨(congrArg Prod.snd hserve).trans ?_, rfl⟩
      rw [hdevice]
  · intro d r hreply
    obtain ⟨hread, hd⟩ := hx.reply d r hreply
    exact ⟨hread, .inl (hold hd)⟩

/-- What every exchange keeps is kept when the device answers the query. -/
theorem handle (hx : Kept u d₀ x) (minute : Nat) :
    Kept u d₀ { x with
      reply := some (x.device, (x.device.serve minute (u.client.request .queryVerdict)).1)
      device := (x.device.serve minute (u.client.request .queryVerdict)).2 } := by
  obtain ⟨response, hserve, hread⟩ := x.device.serve_queryVerdict minute u.client
  rw [hserve]
  refine ⟨hx.sound, hx.device, ?_, hx.answered, hx.consulted⟩
  intro d r hreply
  obtain ⟨rfl, rfl⟩ := Prod.mk.inj (Option.some.inj hreply)
  exact ⟨hread, hx.device.imp_right fun h => ⟨h.1, rfl⟩⟩

/-- What every exchange keeps is kept when the answer to the query gets through. -/
theorem answer (hx : Kept u d₀ x) {d : Device} {r : Response} (hreply : x.reply = some (d, r))
    (h : { x with reply := none, consulted := x.consulted ++ [d] }.advance? u
      (.answer (u.client.interpret .queryVerdict r)) = some x') : Kept u d₀ x' := by
  obtain ⟨hread, hd⟩ := hx.reply d r hreply
  obtain ⟨run, hmove, rfl⟩ := advance_cases h
  refine ⟨hx.sound.move hmove, hx.device, ?_, ?_, ?_⟩
  · intro d r hno
    cases hno
  · have hanswers : run.answers = x.update.answers ++ [.ok d.updateReport] := by
      rw [hread] at hmove
      exact UpdateRun.answers_of_move hmove
    rw [hanswers, answered_append_ok, hx.answered, List.map_append]
    rfl
  · intro e he
    rcases List.mem_append.mp he with he | he
    · exact hx.consulted e he
    · obtain rfl := List.mem_singleton.mp he
      exact hd

/-- What every exchange keeps is kept when the query ends without an answer. -/
theorem miss (hx : Kept u d₀ x) {e : Failure}
    (h : { x with reply := none }.advance? u (.answer (.error e)) = some x') : Kept u d₀ x' := by
  obtain ⟨run, hmove, rfl⟩ := advance_cases h
  refine ⟨hx.sound.move hmove, hx.device, ?_, ?_, hx.consulted⟩
  · intro d r hno
    cases hno
  · rw [UpdateRun.answers_of_move hmove]
    simpa only [answered_append_error] using hx.answered

/-- Every move keeps an exchange. -/
theorem move {m : ExchangeMove} (hx : Kept u d₀ x) (hboundary : MediaType.IsBoundary u.boundary)
    (himage : ¬ lineEnd ++ Text.bytes ("--" ++ u.boundary) <:+: u.image.bytes)
    (h : x.move? u m = some x') : Kept u d₀ x' := by
  cases m with
  | client m =>
      cases m with
      | finish _ | answer _ => cases h
      | wait _ | report | look | close | tick => exact hx.advance (by simp) h
  | receive minute bytes =>
      simp only [move?] at h
      split at h
      · cases h
      · next hopen =>
        obtain rfl := Option.some.inj h
        exact hx.receive hboundary himage hopen minute bytes
  | finish =>
      obtain ⟨r, -, h⟩ := Option.bind_eq_some_iff.mp h
      exact hx.advance (by simp) h
  | breakOff => exact hx.advance (by simp) h
  | handle minute =>
      simp only [move?] at h
      split at h
      · obtain rfl := Option.some.inj h
        exact hx.handle minute
      · cases h
  | answer =>
      obtain ⟨⟨d, r⟩, hreply, h⟩ := Option.bind_eq_some_iff.mp h
      exact hx.answer hreply h
  | miss => exact hx.miss h

/-- **Every run keeps an exchange.** -/
theorem run {moves : List ExchangeMove} (hx : Kept u d₀ x)
    (hboundary : MediaType.IsBoundary u.boundary)
    (himage : ¬ lineEnd ++ Text.bytes ("--" ++ u.boundary) <:+: u.image.bytes)
    (h : x.run u moves = some x') : Kept u d₀ x' := by
  induction moves generalizing x with
  | nil => exact Option.some.inj h ▸ hx
  | cons m moves ih =>
      obtain ⟨x₁, hmove, hrun⟩ := Option.bind_eq_some_iff.mp h
      exact ih (hx.move hboundary himage hmove) hrun

/-- What every exchange keeps holds when an update is asked for. -/
theorem start (u : UploadTask) (now chunks : Nat) {l : Lifecycle} (hidle : l.phase = .idle)
    (d₀ : Device) : Kept u d₀ (start u now l chunks d₀) := by
  have hsound := UpdateRun.sound_start now u.image
    ((Client.imageProgress u.image).take chunks) hidle
  refine ⟨hsound, .inl rfl, ?_, ?_, List.forall_mem_nil _⟩
  · intro d r hno
    cases hno
  · simp only [Exchange.start, UpdateRun.start_of_idle hidle]
    rfl

/-- The first verdict comes from a memory that the client may hear of. -/
theorem consulted_of_decision? (hx : Kept u d₀ x) {v : Verdict}
    (h : decision? x.update.answers = some v) :
    ∃ d, x.consulted.find? (·.verdict ≠ .pending) = some d ∧ d.verdict = v ∧
      Remembers u d₀ x d := by
  rw [decision?, hx.answered, List.map_map, List.find?_map] at h
  obtain ⟨d, hfind, rfl⟩ := Option.map_eq_some_iff.mp h
  exact ⟨d, hfind, rfl, hx.consulted d (List.mem_of_find?_eq_some hfind)⟩

end Kept

/-! ### Old verdicts -/

/-- A move that can be made is the first one of a run. -/
theorem run_cons {m : ExchangeMove} (h : x.move? u m = some x') (moves : List ExchangeMove) :
    x.run u (m :: moves) = x'.run u moves := by
  rw [run, h, Option.bind_some]

/-- A run of some moves and then others is a run of the others where the first ones lead. -/
theorem run_append (u : UploadTask) (x : Exchange) (ms ns : List ExchangeMove) :
    x.run u (ms ++ ns) = (x.run u ms).bind fun x => x.run u ns := by
  induction ms generalizing x with
  | nil => rfl
  | cons m ms ih =>
      simp only [List.cons_append, run, Option.bind_assoc]
      congr 1
      funext x
      exact ih x

/-- Moves that wait or count down need nothing from the device. -/
theorem run_client {moves : List UpdateMove} (hmoves : ∀ m ∈ moves, m.isWait ∨ m.isTick)
    {r : UpdateRun} (h : x.update.run u.period moves = some r) :
    x.run u (moves.map .client) = some { x with update := r } := by
  induction moves generalizing x with
  | nil =>
      obtain rfl := Option.some.inj h
      rfl
  | cons m moves ih =>
      obtain ⟨r₁, hmove, hrun⟩ := Option.bind_eq_some_iff.mp h
      have hclient : x.move? u (.client m) = some { x with update := r₁ } := by
        cases m with
        | wait _ | tick => simp [move?, advance?, hmove]
        | report | finish _ | look | close | answer _ =>
            simpa [UpdateMove.isWait, UpdateMove.isTick] using hmoves _ List.mem_cons_self
      rw [List.map_cons, run, hclient, Option.bind_some]
      exact ih (x := { x with update := r₁ })
        (fun m hm => hmoves m (List.mem_cons_of_mem _ hm)) hrun

/-- An image that has bytes begins with a chunk of known size. -/
theorem exists_chunk {image : FirmwareImage} (hbytes : image.bytes ≠ []) {chunks : Nat}
    (hchunks : 0 < chunks) :
    ∃ p rest, (Client.imageProgress image).take chunks = p :: rest ∧ p.total ≠ none := by
  obtain ⟨chunks, rfl⟩ : ∃ k, chunks = k + 1 := ⟨chunks - 1, by omega⟩
  obtain ⟨n, hn⟩ : ∃ n, image.size = n + 1 :=
    Nat.exists_eq_succ_of_ne_zero (List.length_pos_iff.mpr hbytes).ne'
  rw [Client.imageProgress, Client.imageChunks, hn, Client.chunksOf_of_ne_nil hbytes,
    Client.progressOf, List.take_succ_cons]
  exact ⟨_, _, rfl, by simp⟩

/-- The query may be answered at once, and by a device that remembers a complete image the client
is made to count down. -/
theorem exists_answer {s : UpdateLoop Failure} (hquery : x.update.turn = .query s)
    (hp : s.lifecycle.phase = .polling) (hopen : x.reply = none)
    (hcomplete : x.device.verdict = .complete) :
    ∃ r, x.run u [.handle 0, .answer] =
        some { x with update := r, consulted := x.consulted ++ [x.device] } ∧
      r.CountsDown s.lifecycle.start ∧ r.upload = x.update.upload ∧
      ∃ s', r.turn = .select s' ∧ s'.ended = s.ended := by
  obtain ⟨response, hserve, hread⟩ := x.device.serve_queryVerdict 0 u.client
  obtain ⟨r, hanswer, hcounts, hupload, hselect⟩ :=
    UpdateRun.exists_verdict u.period hquery hp x.device.firmware
  have hhandle : x.move? u (.handle 0) = some { x with reply := some (x.device, response) } := by
    simp [move?, hquery, hopen, hserve]
  have hgot : x.update.move? u.period (.answer (u.client.interpret .queryVerdict response)) =
      some r := by
    rw [hread, Device.updateReport, hcomplete]
    exact hanswer
  refine ⟨r, ?_, hcounts, hupload, hselect⟩
  rw [run_cons hhandle]
  simp [run, move?, advance?, hgot, hopen]

/-- A countdown may run out before anything else happens. -/
theorem exists_reload {k : Nat} (u : UploadTask) (hcounts : x.update.CountsDown (k + 1)) :
    ∃ moves r l', x.run u moves = some { x with update := r } ∧
      r.turn = .finished l' (.ok .succeeded) ∧ r.upload = x.update.upload := by
  obtain ⟨moves, r, l', hrun, hkind, hover, hkept⟩ := hcounts.exists_reload u.period
  exact ⟨moves.map .client, r, l', run_client hkind hrun, hover, hkept⟩

/-- **An old verdict may decide an update.** Whenever the device remembers that some image was
complete, an update with another image may succeed although its upload broke off and the device
has received nothing. -/
theorem exists_stale (u : UploadTask) (now : Nat) {l : Lifecycle} (hidle : l.phase = .idle)
    {chunks : Nat} (hchunks : 0 < chunks) (hbytes : u.image.bytes ≠ [])
    (hold : d₀.verdict = .complete) :
    ∃ moves x l', (start u now l chunks d₀).run u moves = some x ∧
      x.update.turn = .finished l' (.ok .succeeded) ∧ x.device = d₀ ∧
      ∃ e, x.update.upload = .ended (.error e) := by
  obtain ⟨p, rest, hcoming, htotal⟩ := exists_chunk hbytes hchunks
  obtain ⟨k, hk⟩ : ∃ k, l.submitted.start = k + 1 :=
    ⟨l.start - 1, (Nat.sub_add_cancel l.start_pos).symm⟩
  -- The first chunk is reported, and the device is asked before it has any of the image.
  have hreport : (start u now l chunks d₀).move? u (.client .report) =
      some ⟨⟨now, .select (.begin l.submitted u.image), rest, [p], none, .inFlight, [],
        [.uploading]⟩, d₀, none, none, []⟩ := by
    rw [start, UpdateRun.start_of_idle hidle, hcoming]
    rfl
  obtain ⟨r₁, hlook, -, hquery⟩ := UpdateRun.exists_query (s := .begin l.submitted u.image)
    (r := ⟨now, .select (.begin l.submitted u.image), rest, [p], none, .inFlight, [],
      [.uploading]⟩) u.period rfl rfl (by simp) htotal rfl
  have hlooked : move? u ⟨⟨now, .select (.begin l.submitted u.image), rest, [p], none, .inFlight,
      [], [.uploading]⟩, d₀, none, none, []⟩ (.client .look) =
      some ⟨r₁, d₀, none, none, []⟩ := by
    simp [move?, advance?, hlook]
  obtain ⟨r₂, hanswer, hcounts, -, s, hselect, hended⟩ :=
    exists_answer (u := u) (x := ⟨r₁, d₀, none, none, []⟩) hquery rfl rfl hold
  -- Then the upload breaks off, and the countdown runs out.
  obtain ⟨r₃, hfinish, hcounts, hupload⟩ := hcounts.exists_finish u.period hselect hended
    (.error (.unanswered Route.upload.path))
  have hbroken : move? u ⟨r₂, d₀, none, none, [d₀]⟩ .breakOff =
      some ⟨r₃, d₀, none, none, [d₀]⟩ := by
    simp [move?, advance?, hfinish]
  obtain ⟨more, r, l', hreload, hover, hkept⟩ :=
    exists_reload (x := ⟨r₃, d₀, none, none, [d₀]⟩) u (hk ▸ hcounts)
  refine ⟨.client .report :: .client .look :: ([.handle 0, .answer] ++ .breakOff :: more),
    ⟨r, d₀, none, none, [d₀]⟩, l', ?_, hover, rfl, _, hkept.trans hupload⟩
  rw [run_cons hreport, run_cons hlooked, run_append, hanswer, Option.bind_some]
  exact (run_cons hbroken more).trans hreload

/-- **A new verdict may decide an update.** Whatever the device remembers, an update with an image
that has bytes may succeed because the device has received it. -/
theorem exists_fresh (u : UploadTask) (now chunks : Nat) {l : Lifecycle} (hidle : l.phase = .idle)
    (hboundary : MediaType.IsBoundary u.boundary)
    (himage : ¬ lineEnd ++ Text.bytes ("--" ++ u.boundary) <:+: u.image.bytes)
    (hsize : (Client.uploadRequestWithin u.boundary u.image).body.length ≤ uploadLimit)
    (hbytes : u.image.bytes ≠ []) (d₀ : Device) :
    ∃ moves x l', (start u now l chunks d₀).run u moves = some x ∧
      x.update.turn = .finished l' (.ok .succeeded) ∧ x.device = d₀.received u.image.bytes := by
  obtain ⟨k, hk⟩ : ∃ k, l.submitted.start = k + 1 :=
    ⟨l.start - 1, (Nat.sub_add_cancel l.start_pos).symm⟩
  unfold start
  generalize hstart : UpdateRun.start now l [u.image]
    ((Client.imageProgress u.image).take chunks) = r₀
  have hturn : r₀.turn = .select (.begin l.submitted u.image) := by
    rw [← hstart, UpdateRun.start_of_idle hidle]
  generalize hd : d₀.received u.image.bytes = d
  -- The device receives the whole form, and the response gets through.
  have hreceive : move? u ⟨r₀, d₀, none, none, []⟩
      (.receive 0 (Client.uploadRequestWithin u.boundary u.image).body.length) =
      some ⟨r₀, d, some Device.accepted, none, []⟩ := by
    have hserve := d₀.serve_upload_whole 0 hboundary himage hsize
    simp [move?, uploadRequest, hserve, hd]
  obtain ⟨r₁, hfinish, -, hquery⟩ := UpdateRun.exists_lastQuery u.period hturn rfl rfl (.ok ())
  have hthrough : move? u ⟨r₀, d, some Device.accepted, none, []⟩ .finish =
      some ⟨r₁, d, some Device.accepted, none, []⟩ := by
    have haccepted : Client.accepted Route.upload.path Device.accepted = .ok () := rfl
    simp [move?, advance?, haccepted, hfinish]
  -- Then it is asked, and the countdown runs out.
  have hcomplete : d.verdict = .complete := by
    simp [← hd, Device.received, hbytes]
  obtain ⟨r₂, hanswer, hcounts, -⟩ := exists_answer (u := u)
    (x := ⟨r₁, d, some Device.accepted, none, []⟩) hquery rfl rfl hcomplete
  obtain ⟨more, r, l', hreload, hover, -⟩ :=
    exists_reload (x := ⟨r₂, d, some Device.accepted, none, [d]⟩) u (hk ▸ hcounts)
  refine ⟨.receive 0 (Client.uploadRequestWithin u.boundary u.image).body.length :: .finish ::
    ([.handle 0, .answer] ++ more), ⟨r, d, some Device.accepted, none, [d]⟩, l', ?_, hover, rfl⟩
  rw [run_cons hreceive, run_cons hthrough, run_append, hanswer, Option.bind_some]
  exact hreload

/-! ### What decides an update -/

/-- The verdict about an image that has been received depends on whether the image is empty. -/
theorem verdict_received (d : Device) (data : Bytes) :
    (d.received data).verdict = if data = [] then .failed else .complete := by
  cases data <;> rfl

/-- An update that succeeds was decided by the verdict `complete`. -/
theorem Kept.decision?_of_succeeded {l : Lifecycle} (hx : Kept u d₀ x)
    (hover : x.update.turn = .finished l (.ok .succeeded)) :
    decision? x.update.answers = some .complete := by
  obtain ⟨account, outcome⟩ := hx.sound.outcome hover
  cases outcome with
  | succeeded phase => exact (account.decided_of_succeeded phase).1

/-- An update that is rejected was decided by the verdict `failed`. -/
theorem Kept.decision?_of_failed {l : Lifecycle} (hx : Kept u d₀ x)
    (hover : x.update.turn = .finished l (.ok .failed)) :
    decision? x.update.answers = some .failed := by
  cases (hx.sound.outcome hover).2 with
  | rejected _ decided => exact decided

/-- **What decides an update of a device**, whatever the device remembers at the start and in
whichever order both sides move. The device remembers what it did at the start until it has
received this very upload as a whole. A success or a rejection comes from the first memory
consulted that holds a verdict: that after this upload, of an image that has bytes or has none, or
that before it, with an old verdict. So a device that remembers no verdict at the start decides by
this image alone. -/
theorem decided_by_memory {now chunks : Nat} {l : Lifecycle} {moves : List ExchangeMove}
    (hidle : l.phase = .idle) (hboundary : MediaType.IsBoundary u.boundary)
    (himage : ¬ lineEnd ++ Text.bytes ("--" ++ u.boundary) <:+: u.image.bytes)
    (h : (start u now l chunks d₀).run u moves = some x) :
    (x.device = d₀ ∨ x.device = d₀.received u.image.bytes ∧ x.response.isSome = true) ∧
    ∀ l' result, x.update.turn = .finished l' result →
      (result = .ok .succeeded → ∃ d, x.consulted.find? (·.verdict ≠ .pending) = some d ∧
        ((d = d₀.received u.image.bytes ∧ x.device = d ∧ u.image.bytes ≠ []) ∨
          (d = d₀ ∧ d₀.verdict = .complete))) ∧
      (result = .ok .failed → ∃ d, x.consulted.find? (·.verdict ≠ .pending) = some d ∧
        ((d = d₀.received u.image.bytes ∧ x.device = d ∧ u.image.bytes = []) ∨
          (d = d₀ ∧ d₀.verdict = .failed))) ∧
      (d₀.verdict = .pending →
        (result = .ok .succeeded → x.device = d₀.received u.image.bytes ∧ u.image.bytes ≠ []) ∧
        (result = .ok .failed → x.device = d₀.received u.image.bytes ∧ u.image.bytes = [])) := by
  have hx := (Kept.start u now chunks hidle d₀).run hboundary himage h
  refine ⟨hx.device, ?_⟩
  intro l' result hover
  have hcomplete (hresult : result = .ok .succeeded) :
      ∃ d, x.consulted.find? (·.verdict ≠ .pending) = some d ∧
        ((d = d₀.received u.image.bytes ∧ x.device = d ∧ u.image.bytes ≠ []) ∨
          (d = d₀ ∧ d₀.verdict = .complete)) := by
    subst hresult
    obtain ⟨d, hfind, hverdict, rfl | ⟨rfl, hdevice⟩⟩ :=
      hx.consulted_of_decision? (hx.decision?_of_succeeded hover)
    · exact ⟨d, hfind, .inr ⟨rfl, hverdict⟩⟩
    · refine ⟨_, hfind, .inl ⟨rfl, hdevice, ?_⟩⟩
      intro hempty
      simp [verdict_received, hempty] at hverdict
  have hrejected (hresult : result = .ok .failed) :
      ∃ d, x.consulted.find? (·.verdict ≠ .pending) = some d ∧
        ((d = d₀.received u.image.bytes ∧ x.device = d ∧ u.image.bytes = []) ∨
          (d = d₀ ∧ d₀.verdict = .failed)) := by
    subst hresult
    obtain ⟨d, hfind, hverdict, rfl | ⟨rfl, hdevice⟩⟩ :=
      hx.consulted_of_decision? (hx.decision?_of_failed hover)
    · exact ⟨d, hfind, .inr ⟨rfl, hverdict⟩⟩
    · refine ⟨_, hfind, .inl ⟨rfl, hdevice, ?_⟩⟩
      by_contra hbytes
      simp [verdict_received, hbytes] at hverdict
  refine ⟨hcomplete, hrejected, ?_⟩
  intro hpending
  constructor
  · intro hresult
    obtain ⟨d, -, ⟨rfl, hdevice, hbytes⟩ | ⟨-, hold⟩⟩ := hcomplete hresult
    · exact ⟨hdevice, hbytes⟩
    · rw [hpending] at hold
      cases hold
  · intro hresult
    obtain ⟨d, -, ⟨rfl, hdevice, hbytes⟩ | ⟨-, hold⟩⟩ := hrejected hresult
    · exact ⟨hdevice, hbytes⟩
    · rw [hpending] at hold
      cases hold

/-- The upload of a small image. -/
def smallUpload : UploadTask :=
  ⟨⟨"http://127.0.0.1", .program⟩, ⟨"fw.bin", [0x03, 0x04]⟩, "form-boundary", 10⟩

/-- The boundary of the small upload is one, does not occur in its image, and the request is not too
long. -/
theorem smallUpload_fits : MediaType.IsBoundary smallUpload.boundary ∧
    ¬ lineEnd ++ Text.bytes ("--" ++ smallUpload.boundary) <:+: smallUpload.image.bytes ∧
    (Client.uploadRequestWithin smallUpload.boundary smallUpload.image).body.length ≤
      uploadLimit := by
  refine ⟨?_, ?_, ?_⟩
  · exact List.all_eq_true.mp (by decide)
  · decide
  · decide +kernel

/-- A device as it is switched on decides by the image that it is sent. -/
theorem decided_by_memory_fresh : ∃ moves x l',
    (start smallUpload 0 (.new 1) 1 .initial).run smallUpload moves = some x ∧
    x.update.turn = .finished l' (.ok .succeeded) ∧
    x.device = Device.initial.received [0x03, 0x04] := by
  obtain ⟨hboundary, himage, hsize⟩ := smallUpload_fits
  obtain ⟨moves, x, l', hrun, hover, -⟩ :=
    exists_fresh smallUpload 0 1 (l := .new 1) rfl hboundary himage hsize (by decide) .initial
  obtain ⟨-, hdecided⟩ := decided_by_memory (l := .new 1) rfl hboundary himage hrun
  obtain ⟨-, -, hfresh⟩ := hdecided l' _ hover
  exact ⟨moves, x, l', hrun, hover, ((hfresh rfl).1 rfl).1⟩

/-- A device that has received another image before need not receive this one: the update succeeds
although its upload broke off, and the device has still received one image only. -/
theorem decided_by_old_verdict : ∃ moves x l' e,
    (start smallUpload 0 (.new 1) 1 (Device.initial.received [0x01, 0x02])).run smallUpload moves =
      some x ∧
    x.update.turn = .finished l' (.ok .succeeded) ∧ x.update.upload = .ended (.error e) ∧
    (Device.initial.received [0x01, 0x02]).uploads = 1 ∧ x.device.uploads = 1 := by
  have hold : (Device.initial.received [0x01, 0x02]).verdict = .complete := rfl
  obtain ⟨moves, x, l', hrun, hover, hdevice, e, hupload⟩ :=
    exists_stale smallUpload 0 (l := .new 1) rfl Nat.one_pos (by decide) hold
  exact ⟨moves, x, l', e, hrun, hover, hupload, rfl, congrArg Device.uploads hdevice⟩

end Exchange

end FanControl

import FanControl.Session.Client
import Mathlib.Order.Basic

/-!
# The chunks of an image

An image is uploaded in chunks, and with each chunk that is handed over a counter goes on and is
reported. The counter never sees the image: it adds up the chunks. So that a report can be believed,
the chunks have to be **the image and nothing else**, none of them may be empty, and what has been
counted has to be what has been handed over.

All of this is said of the first chunks, however many (`flatten_take_chunksOf`), because an upload
may end early; the whole image is the case of all chunks.

## Main results

* `length_chunksOf`, `flatten_take_chunksOf`: how many chunks there are, and what the first ones
  hold;
* `progressOf_eq`: the counter against the chunks that have been handed over;
* `imageProgress_exact`: the chunks and the reports of an image.
-/

namespace FanControl.Client

/-! ### Chunks -/

variable {size fuel : Nat} {bs : Bytes}

/-- No bytes make no chunks. -/
@[simp] theorem chunksOf_nil (size fuel : Nat) : chunksOf size fuel [] = [] := by
  cases fuel <;> rfl

/-- Bytes begin with a chunk. -/
theorem chunksOf_of_ne_nil (hbs : bs ≠ []) :
    chunksOf size (fuel + 1) bs = bs.take size :: chunksOf size fuel (bs.drop size) := by
  simp [chunksOf, hbs]

/-- After the first chunk there are fewer bytes. -/
theorem length_drop_le (hsize : 0 < size) (hbs : bs ≠ []) (hfuel : bs.length ≤ fuel + 1) :
    (bs.drop size).length ≤ fuel := by
  have := List.length_pos_iff.mpr hbs
  rw [List.length_drop]
  omega

/-- **How many chunks there are**: one for each `size` bytes, and one for the rest. -/
theorem length_chunksOf (hsize : 0 < size) (hfuel : bs.length ≤ fuel) :
    (chunksOf size fuel bs).length = (bs.length + (size - 1)) / size := by
  induction fuel generalizing bs with
  | zero =>
      obtain rfl := List.length_eq_zero_iff.mp (Nat.le_zero.mp hfuel)
      simp [Nat.div_eq_of_lt (show size - 1 < size by omega)]
  | succ fuel ih =>
      rcases eq_or_ne bs [] with rfl | hbs
      · simp [Nat.div_eq_of_lt (show size - 1 < size by omega)]
      · have hpos := List.length_pos_iff.mpr hbs
        rw [chunksOf_of_ne_nil hbs, List.length_cons, ih (length_drop_le hsize hbs hfuel),
          List.length_drop, ← Nat.add_div_right _ hsize]
        rcases Nat.le_total size bs.length with hle | hle
        · congr 1
          omega
        · -- The only chunk is not a whole one.
          rw [Nat.sub_eq_zero_of_le hle, Nat.div_eq_of_lt_le (k := 1) (by omega) (by omega),
            Nat.div_eq_of_lt_le (k := 1) (by omega) (by omega)]

/-- **What the first chunks hold**: the first bytes. -/
theorem flatten_take_chunksOf (hsize : 0 < size) (hfuel : bs.length ≤ fuel) (k : Nat) :
    ((chunksOf size fuel bs).take k).flatten = bs.take (size * k) := by
  induction fuel generalizing bs k with
  | zero =>
      obtain rfl := List.length_eq_zero_iff.mp (Nat.le_zero.mp hfuel)
      simp
  | succ fuel ih =>
      rcases eq_or_ne bs [] with rfl | hbs
      · simp
      · cases k with
        | zero => simp
        | succ k =>
            rw [chunksOf_of_ne_nil hbs, List.take_succ_cons, List.flatten_cons,
              ih (length_drop_le hsize hbs hfuel), ← List.take_add, Nat.mul_succ, Nat.add_comm]

/-- No chunk is empty, and none is too long. -/
theorem length_of_mem_chunksOf (hsize : 0 < size) {chunk : Bytes}
    (hchunk : chunk ∈ chunksOf size fuel bs) : 1 ≤ chunk.length ∧ chunk.length ≤ size := by
  induction fuel generalizing bs with
  | zero => cases hchunk
  | succ fuel ih =>
      rcases eq_or_ne bs [] with rfl | hbs
      · simp at hchunk
      · rw [chunksOf_of_ne_nil hbs] at hchunk
        rcases List.mem_cons.mp hchunk with rfl | hrest
        · have := List.length_pos_iff.mpr hbs
          rw [List.length_take]
          omega
        · exact ih hrest

/-! ### Reports -/

/-- **The counter has counted what has been handed over**: with each chunk it comes to the length of
all chunks up to this one. -/
theorem progressOf_eq (total sent : Nat) (chunks : List Bytes) :
    progressOf total sent chunks = (List.range chunks.length).map fun i =>
      ⟨.ofNat (sent + (chunks.take (i + 1)).flatten.length), some (.ofNat total)⟩ := by
  induction chunks generalizing sent with
  | nil => rfl
  | cons chunk chunks ih =>
      rw [progressOf, ih, List.length_cons, List.range_succ_eq_map, List.map_cons, List.map_map]
      simp [Function.comp_def, Nat.add_assoc]

/-! ### Images -/

/-- An image has one chunk for each 4096 bytes, and one for the rest. -/
theorem length_imageChunks (image : FirmwareImage) :
    (imageChunks image).length = (image.size + 4095) / 4096 :=
  length_chunksOf (by decide) (Nat.le_refl _)

/-- While a chunk is left, so is a byte. -/
theorem chunkSize_mul_lt {image : FirmwareImage} {i : Nat}
    (hi : i < (imageChunks image).length) : 4096 * i < image.size := by
  rw [length_imageChunks] at hi
  omega

/-- After the last chunk no byte is left. -/
theorem size_le_chunkSize_mul (image : FirmwareImage) :
    image.size ≤ 4096 * (imageChunks image).length := by
  rw [length_imageChunks]
  omega

/-- **The chunks and the reports of an image.** The chunks make up the image, none is empty and none
has more than 4096 bytes. There is one report with each chunk, of all bytes that have been handed
over by then and of the size of the image; so an empty image is not reported at all, and the last
report of any other is of the whole image. As long as the size is a number of 64 bits, as that of an
image in memory is, each report is of more bytes than the one before and of no more than there
are. -/
theorem imageProgress_exact (image : FirmwareImage) :
    (imageChunks image).flatten = image.bytes ∧
    (∀ chunk ∈ imageChunks image, 1 ≤ chunk.length ∧ chunk.length ≤ 4096) ∧
    (∀ k, ((imageChunks image).take k).flatten = image.bytes.take (4096 * k)) ∧
    imageProgress image = (List.range (imageChunks image).length).map (fun i =>
      ⟨.ofNat (min (4096 * (i + 1)) image.size), some (.ofNat image.size)⟩) ∧
    (image.bytes = [] → imageProgress image = []) ∧
    (image.bytes ≠ [] → (imageProgress image).getLast? =
      some ⟨.ofNat image.size, some (.ofNat image.size)⟩) ∧
    (image.size < UInt64.size →
      ((imageProgress image).map (·.sent)).Pairwise (· < ·) ∧
      ∀ p ∈ imageProgress image, ∃ total, p.total = some total ∧ total.toNat = image.size ∧
        p.sent ≤ total) := by
  have hfirst (k : Nat) : ((imageChunks image).take k).flatten = image.bytes.take (4096 * k) :=
    flatten_take_chunksOf (by decide) (Nat.le_refl _) k
  have hreports : imageProgress image = (List.range (imageChunks image).length).map (fun i =>
      ⟨.ofNat (min (4096 * (i + 1)) image.size), some (.ofNat image.size)⟩) := by
    rw [imageProgress, progressOf_eq]
    simp only [hfirst, List.length_take, Nat.zero_add]
    rfl
  have hlast := size_le_chunkSize_mul image
  refine ⟨?_, fun chunk => length_of_mem_chunksOf (by decide), hfirst, hreports, ?_, ?_, ?_⟩
  · have hall := hfirst (imageChunks image).length
    rwa [List.take_length, List.take_of_length_le hlast] at hall
  · intro hempty
    simp [imageProgress, imageChunks, hempty, progressOf]
  · intro hbytes
    obtain ⟨n, hn⟩ : ∃ n, (imageChunks image).length = n + 1 := by
      have hpos : 0 < image.size := List.length_pos_iff.mpr hbytes
      exact ⟨(imageChunks image).length - 1, by omega⟩
    rw [hreports, hn, List.range_succ, List.map_append, List.map_singleton, List.getLast?_concat,
      Nat.min_eq_right (hn ▸ hlast)]
  · intro hsize
    have hfits {k : Nat} : min k image.size < UInt64.size :=
      Nat.lt_of_le_of_lt (Nat.min_le_right ..) hsize
    rw [hreports, List.map_map, List.pairwise_map]
    refine ⟨List.pairwise_lt_range.imp_of_mem ?_, ?_⟩
    · intro i j _ hj hlt
      have hmore := chunkSize_mul_lt (List.mem_range.mp hj)
      simp only [Function.comp, UInt64.lt_iff_toNat_lt, UInt64.toNat_ofNat_of_lt' hfits]
      omega
    · simp only [List.mem_map]
      rintro p ⟨i, -, rfl⟩
      refine ⟨_, rfl, UInt64.toNat_ofNat_of_lt' hsize, ?_⟩
      rw [UInt64.le_iff_toNat_le, UInt64.toNat_ofNat_of_lt' hfits, UInt64.toNat_ofNat_of_lt' hsize]
      exact Nat.min_le_right ..

/-- Two whole chunks and ten bytes more are three reports. -/
theorem imageProgress_exact_threeChunks :
    let image : FirmwareImage := ⟨"fw.bin", List.replicate 8202 0xA5⟩
    image.size < UInt64.size ∧
    imageProgress image = [⟨4096, some 8202⟩, ⟨8192, some 8202⟩, ⟨8202, some 8202⟩] ∧
    ((imageProgress image).map (·.sent)).Pairwise (· < ·) := by
  intro image
  have hsize : image.size = 8202 := List.length_replicate
  have hlt : image.size < UInt64.size := by
    rw [hsize]
    decide
  obtain ⟨-, -, -, hreports, -, -, hfits⟩ := imageProgress_exact image
  rw [length_imageChunks, hsize] at hreports
  exact ⟨hlt, hreports, (hfits hlt).1⟩

end FanControl.Client

import Rpi3Device.Camera1.Thumbnail
import Rpi3Device.BoundedLoop
import Rpi3Device.ByteMemory
import Rpi3Device.IntArithmetic

/-!
# The colour rows handed to the JPEG library

`compressData` feeds the library sixteen rows of the image at a time. For each
call `deinterleave` takes up to eight rows of the interleaved colours apart into
two vectors, whose rows the library then reads; what a short last call leaves of
the call before lies below the image. A library that refuses to start takes the
error exit, and nothing is fed to it. Offsets count from the first byte of the
image.
-/

namespace Rpi3Device.Camera1.Compressor
open BoundedLoop ByteMemory IntArithmetic PlaneScan
open Thumbnail (vectorSize vectorSize_of_toInt Blocks exists_blocks)

structure Pair where
  index : Int32
  vu : ℤ
deriving DecidableEq

def deinterleave (vuPlanar : ℤ) (rowIndex width height stride : Int32) : List Pair :=
  let numRows := (height - rowIndex) / 2
  let numRows := if 8 < numRows then 8 else numRows
  raster (width >>> 1).toNatClampNeg numRows.toNatClampNeg fun i row =>
    let offset := (rowIndex >>> 1 + Int32.ofNat row) * stride
    ⟨Int32.ofNat row * (width >>> 1) + Int32.ofNat i, vuPlanar + offset.toInt + 2 * i⟩

def stored (image : ℤ → UInt8) (pairs : List Pair) (channel : ℤ) (rows : Memory) : Memory :=
  storeAll rows (pairs.map fun p => (p.index.toNatClampNeg, image (p.vu + channel)))

/-- What a call of the library gets: the first scanline, where the Y rows are, and
the bytes of the colour rows. -/
structure Chunk where
  scanline : ℕ
  pairs : List Pair
  y : ℕ → ℕ
  cb : ℕ → ℕ → UInt8
  cr : ℕ → ℕ → UInt8

structure Progress where
  nextScanline : ℕ
  uRows : Memory
  vRows : Memory
  chunks : List Chunk

def jpegWriteRawData (nextScanline imageHeight : ℕ) : ℕ := min (nextScanline + 16) imageHeight

section Loop
variable (jpegStartCompress : UInt32 → UInt32 → Bool) (attachExifData : Bool)
variable (image : ℤ → UInt8) (width height : Int32)

def chunkAt (nextScanline : ℕ) (uRows vRows : Memory) : Chunk :=
  let pairs := deinterleave (width * height).toInt (Int32.ofNat nextScanline) width height width
  let row (rows : Memory) (k i : ℕ) : UInt8 :=
    rows ((Int32.ofNat k * (width >>> 1)).toNatClampNeg + i)
  { scanline := nextScanline
    pairs := pairs
    y := fun i => (UInt32.ofNat (nextScanline + i) * width.toUInt32).toNat
    cb := row (stored image pairs 1 uRows)
    cr := row (stored image pairs 0 vRows) }

def compressBody (imageHeight : ℕ) (s : Progress) : Progress ⊕ List Chunk :=
  if s.nextScanline < imageHeight then
    let chunk := chunkAt image width height s.nextScanline s.uRows s.vRows
    .inl
      { nextScanline := jpegWriteRawData s.nextScanline imageHeight
        uRows := stored image chunk.pairs 1 s.uRows
        vRows := stored image chunk.pairs 0 s.vRows
        chunks := s.chunks ++ [chunk] }
  else .inr s.chunks

structure Compressed where
  rowsSize : ℕ
  chunks : List Chunk
  result : Bool

/-- The first two arguments tell whether the library comes back from its start on an image of a
size and from taking the EXIF data, or jumps to the error exit. -/
def compressData : Option Compressed :=
  (vectorSize ((8 : Int32) * (width >>> 1))).map fun rowsSize =>
    let imageHeight := height.toUInt32.toNat
    if jpegStartCompress width.toUInt32 height.toUInt32 = true ∧ attachExifData = true then
      ⟨rowsSize, measured (compressBody image width height imageHeight)
        (fun s => imageHeight - s.nextScanline) [] ⟨0, fun _ => 0, fun _ => 0, []⟩, true⟩
    else ⟨rowsSize, [], false⟩

end Loop

/-- Every colour row of the image is in one place of one call, and nothing else is
read or written. -/
structure ChromaRight (image : ℤ → UInt8) (w h : ℕ) (c : Compressed) : Prop where
  count : c.chunks.length = (h + 15) / 16
  once : ∀ row < h / 2, ∀ k j,
    (∃ chunk, c.chunks[k]? = some chunk ∧ j < 8 ∧ chunk.scanline / 2 + j = row) ↔
      k = row / 8 ∧ j = row % 8
  values : ∀ row < h / 2, ∀ chunk, c.chunks[row / 8]? = some chunk → ∀ i < w / 2,
    chunk.cb (row % 8) i = image (w * h + row * w + (2 * i + 1)) ∧
      chunk.cr (row % 8) i = image (w * h + row * w + 2 * i)
  reads : ∀ chunk ∈ c.chunks, ∀ p ∈ chunk.pairs,
    (w * h : ℕ) ≤ p.vu ∧ p.vu + 1 < (w * h + w * h / 2 : ℕ)
  writes : ∀ chunk ∈ c.chunks, ∀ p ∈ chunk.pairs, 0 ≤ p.index.toInt ∧ p.index.toInt < c.rowsSize

def PresentsChroma (jpegStartCompress : UInt32 → UInt32 → Bool) (attachExifData : Bool)
    (image : ℤ → UInt8) (width height : Int32) : Prop :=
  ∃ c, compressData jpegStartCompress attachExifData image width height = some c ∧
    c.result = true ∧ ChromaRight image width.toNatClampNeg height.toNatClampNeg c

section Loop
variable (image : ℤ → UInt8) (width height : Int32) (imageHeight : ℕ)

theorem compressBody_decreases : Decreases (compressBody image width height imageHeight)
    fun s => imageHeight - s.nextScanline := by
  intro s s' h
  unfold compressBody at h
  split at h
  · obtain rfl := Sum.inl.inj h
    simp only [jpegWriteRawData]
    omega
  · cases h

theorem compress_chunks (n : ℕ) {k : ℕ} {s : Progress} (hn : (imageHeight + 15) / 16 = k + n)
    (hs : s.nextScanline = min (16 * k) imageHeight) :
    ∃ more, measured (compressBody image width height imageHeight)
        (fun s => imageHeight - s.nextScanline) [] s = s.chunks ++ more ∧ more.length = n ∧
      ∀ j chunk, more[j]? = some chunk →
        ∃ u v, chunk = chunkAt image width height (16 * (k + j)) u v := by
  induction n generalizing k s with
  | zero =>
    have hexit : compressBody image width height imageHeight s = .inr s.chunks := by
      rw [compressBody, if_neg (by omega)]
    exact ⟨[], by rw [measured_exit hexit, List.append_nil], rfl, by simp⟩
  | succ n ih =>
    have hfirst : s.nextScanline = 16 * k := by omega
    obtain ⟨s', hbody, hnext, hchunks⟩ : ∃ s',
        compressBody image width height imageHeight s = .inl s' ∧
          s'.nextScanline = min (16 * (k + 1)) imageHeight ∧
          s'.chunks = s.chunks ++ [chunkAt image width height (16 * k) s.uRows s.vRows] := by
      rw [compressBody, if_pos (by omega), hfirst]
      exact ⟨_, rfl, by simp only [jpegWriteRawData]; omega, rfl⟩
    obtain ⟨more, heq, hlen, hmore⟩ := ih (k := k + 1) (by omega) hnext
    refine ⟨chunkAt image width height (16 * k) s.uRows s.vRows :: more, ?_, by simp [hlen],
      fun j chunk hchunk => ?_⟩
    · rw [measured_continue (compressBody_decreases image width height imageHeight) [] hbody, heq,
        hchunks, List.append_assoc]
      rfl
    · cases j with
      | zero => exact ⟨s.uRows, s.vRows, (Option.some.inj hchunk).symm⟩
      | succ j =>
        obtain ⟨u, v, hj⟩ := hmore j chunk hchunk
        exact ⟨u, v, by rw [hj, Nat.add_assoc, Nat.add_comm 1 j]⟩

end Loop

section Images
variable {jpegStartCompress : UInt32 → UInt32 → Bool} {attachExifData : Bool}
variable {image : ℤ → UInt8} {width height : Int32} {a b k : ℕ}

structure Fits (width height : Int32) (a b : ℕ) : Prop extends Blocks width height a b where
  heightInt : height.toInt = (2 * b : ℕ)
  rows_lt : 8 * a < 2 ^ 31

theorem eight_toInt : (8 : Int32).toInt = 8 := by decide

theorem Fits.plane_lt (h : Fits width height a b) : 4 * (a * b) < 2 ^ 31 := by
  have hlt := Int32.toInt_lt (width * height)
  rw [h.pixels] at hlt
  exact_mod_cast hlt

theorem Fits.height_lt (h : Fits width height a b) : 2 * b < 2 ^ 31 := by
  have hlt := Int32.toInt_lt height
  rw [h.heightInt] at hlt
  exact_mod_cast hlt

theorem Fits.half (h : Fits width height a b) : (width >>> 1).toInt = a := by
  rw [toInt_shiftRight_natCast h.stride, Nat.mul_div_cancel_left a two_pos]

theorem Fits.rowsSize (h : Fits width height a b) :
    vectorSize ((8 : Int32) * (width >>> 1)) = some (8 * a) := by
  apply vectorSize_of_toInt
  exact toInt_mul_natCast eight_toInt h.half h.rows_lt

theorem Fits.numRows (h : Fits width height a b) (hk : 8 * k < b) :
    (if 8 < (height - Int32.ofNat (16 * k)) / 2 then (8 : Int32)
      else (height - Int32.ofNat (16 * k)) / 2).toNatClampNeg = min 8 (b - 8 * k) := by
  have hb := h.height_lt
  have hline : (Int32.ofNat (16 * k)).toInt = (16 * k : ℕ) := Int32.toInt_ofNat_of_lt (by omega)
  have hdiff := toInt_sub_natCast h.heightInt hline (by omega)
  have hrows : ((height - Int32.ofNat (16 * k)) / 2).toInt = (b - 8 * k : ℕ) := by
    rw [toInt_div_natCast (b := 2) hdiff rfl]
    omega
  by_cases hmany : 8 < b - 8 * k
  · have hlt : 8 < (height - Int32.ofNat (16 * k)) / 2 := by
      rw [Int32.lt_iff_toInt_lt, hrows, eight_toInt]
      omega
    rw [if_pos hlt, min_eq_left hmany.le]
    rfl
  · have hlt : ¬ 8 < (height - Int32.ofNat (16 * k)) / 2 := by
      rw [Int32.lt_iff_toInt_lt, hrows, eight_toInt]
      omega
    rw [if_neg hlt, min_eq_right (not_lt.mp hmany)]
    exact toNatClampNeg_eq hrows

theorem Fits.rowStart (h : Fits width height a b) {row : ℕ} (hrow : row < 8) :
    (Int32.ofNat row * (width >>> 1)).toInt = (row * a : ℕ) := by
  have hcell : row * a ≤ 8 * a := Nat.mul_le_mul_right a hrow.le
  exact toInt_mul_natCast (Int32.toInt_ofNat_of_lt (by omega)) h.half (hcell.trans_lt h.rows_lt)

theorem Fits.index (h : Fits width height a b) {row i : ℕ} (hrow : row < 8) (hi : i < a) :
    (Int32.ofNat row * (width >>> 1) + Int32.ofNat i).toInt = (row * a + i : ℕ) := by
  have hlt := h.rows_lt
  have hcell : row * a + i < 8 * a := by nlinarith
  exact toInt_add_natCast (h.rowStart hrow) (Int32.toInt_ofNat_of_lt (by omega))
    (hcell.trans hlt)

theorem Fits.offset (h : Fits width height a b) {row : ℕ} (hrow : 8 * k + row < b) :
    ((Int32.ofNat (16 * k) >>> 1 + Int32.ofNat row) * width).toInt =
      ((8 * k + row) * (2 * a) : ℕ) := by
  have hb := h.height_lt
  have hlt := h.plane_lt
  have hrowsLt : (8 * k + row) * (2 * a) ≤ b * (2 * a) := Nat.mul_le_mul_right _ hrow.le
  have hplane : b * (2 * a) = 2 * (a * b) := by ring
  have hline : (Int32.ofNat (16 * k)).toInt = (16 * k : ℕ) := Int32.toInt_ofNat_of_lt (by omega)
  have hsum : (Int32.ofNat (16 * k) >>> 1 + Int32.ofNat row).toInt = (8 * k + row : ℕ) := by
    rw [toInt_add_natCast (toInt_shiftRight_natCast hline)
      (Int32.toInt_ofNat_of_lt (by omega)) (by omega)]
    omega
  exact toInt_mul_natCast hsum h.stride (by omega)

theorem Fits.mem_deinterleave (h : Fits width height a b) (hk : 8 * k < b) {p : Pair} :
    p ∈ deinterleave (width * height).toInt (Int32.ofNat (16 * k)) width height width ↔
      ∃ row < min 8 (b - 8 * k), ∃ i < a, p.index.toInt = (row * a + i : ℕ) ∧
        p.vu = (4 * (a * b) + (8 * k + row) * (2 * a) + 2 * i : ℕ) := by
  have hhalf : (width >>> 1).toNatClampNeg = a := toNatClampNeg_eq h.half
  have hround {row i : ℕ} (hrow : row < min 8 (b - 8 * k)) (hi : i < a) :
      (⟨Int32.ofNat row * (width >>> 1) + Int32.ofNat i, (width * height).toInt +
          ((Int32.ofNat (16 * k) >>> 1 + Int32.ofNat row) * width).toInt + 2 * i⟩ : Pair) = p ↔
        p.index.toInt = (row * a + i : ℕ) ∧
          p.vu = (4 * (a * b) + (8 * k + row) * (2 * a) + 2 * i : ℕ) := by
    rw [← h.index (by omega) hi, h.offset (by omega), h.pixels, Int32.toInt_inj]
    obtain ⟨index, vu⟩ := p
    simp only [Pair.mk.injEq]
    push_cast
    exact and_congr eq_comm eq_comm
  simp only [deinterleave, raster, h.numRows hk, hhalf, List.mem_flatMap, List.mem_map,
    List.mem_range]
  refine exists_congr fun row => and_congr_right fun hrow => ?_
  exact exists_congr fun i => and_congr_right fun hi => hround hrow hi

theorem Fits.stored_eq (h : Fits width height a b) (hk : 8 * k < b) (channel : ℤ) (rows : Memory)
    {row i : ℕ} (hrow : row < min 8 (b - 8 * k)) (hi : i < a) :
    stored image (deinterleave (width * height).toInt (Int32.ofNat (16 * k)) width height width)
        channel rows (row * a + i) =
      image ((4 * (a * b) + (8 * k + row) * (2 * a) + 2 * i : ℕ) + channel) := by
  obtain ⟨p, hp, hindex, hvu⟩ : ∃ p ∈ deinterleave (width * height).toInt
      (Int32.ofNat (16 * k)) width height width, p.index.toInt = (row * a + i : ℕ) ∧
        p.vu = (4 * (a * b) + (8 * k + row) * (2 * a) + 2 * i : ℕ) := by
    have hmem := (h.mem_deinterleave hk (p := ⟨Int32.ofNat row * (width >>> 1) + Int32.ofNat i,
      (4 * (a * b) + (8 * k + row) * (2 * a) + 2 * i : ℕ)⟩)).mpr
        ⟨row, hrow, i, hi, h.index (by omega) hi, rfl⟩
    exact ⟨_, hmem, h.index (by omega) hi, rfl⟩
  apply storeAll_agreed
  · exact ⟨_, List.mem_map_of_mem hp, toNatClampNeg_eq hindex⟩
  · intro w hw haddr
    obtain ⟨p', hp', rfl⟩ := List.mem_map.mp hw
    obtain ⟨row', hrow', i', hi', hindex', hvu'⟩ := (h.mem_deinterleave hk).mp hp'
    have hsame : row' * a + i' = row * a + i := (toNatClampNeg_eq hindex').symm.trans haddr
    have hapos : 0 < a := Nat.zero_lt_of_lt hi
    have hrows : row' = row := by
      have hdiv := congrArg (· / a) hsame
      simpa [Nat.add_comm (_ * a), Nat.add_mul_div_right _ _ hapos, Nat.div_eq_of_lt hi,
        Nat.div_eq_of_lt hi'] using hdiv
    subst hrows
    have his : i' = i := by omega
    subst his
    simp only [hvu']

structure ChunkRight (image : ℤ → UInt8) (a b k : ℕ) (chunk : Chunk) : Prop where
  scanline : chunk.scanline = 16 * k
  rows : ∀ row < min 8 (b - 8 * k), ∀ i < a,
    chunk.cb row i = image ((4 * (a * b) + (8 * k + row) * (2 * a) + 2 * i : ℕ) + 1) ∧
      chunk.cr row i = image ((4 * (a * b) + (8 * k + row) * (2 * a) + 2 * i : ℕ) + 0)
  pairs : ∀ p ∈ chunk.pairs, ∃ row < min 8 (b - 8 * k), ∃ i < a,
    p.index.toInt = (row * a + i : ℕ) ∧
      p.vu = (4 * (a * b) + (8 * k + row) * (2 * a) + 2 * i : ℕ)

theorem Fits.chunkRight (h : Fits width height a b) (hk : 8 * k < b) (u v : Memory) :
    ChunkRight image a b k (chunkAt image width height (16 * k) u v) := by
  have hplace {row : ℕ} (hrow : row < 8) :
      (Int32.ofNat row * (width >>> 1)).toNatClampNeg = row * a :=
    toNatClampNeg_eq (h.rowStart hrow)
  refine ⟨rfl, fun row hrow i hi => ?_, fun p hp => (h.mem_deinterleave hk).mp hp⟩
  simp only [chunkAt, hplace (lt_of_lt_of_le hrow (min_le_left _ _))]
  exact ⟨h.stored_eq hk 1 u hrow hi, h.stored_eq hk 0 v hrow hi⟩

theorem Fits.compressData (h : Fits width height a b) (image : ℤ → UInt8)
    (hstart : jpegStartCompress width.toUInt32 height.toUInt32 = true)
    (hexif : attachExifData = true) : ∃ chunks,
    compressData jpegStartCompress attachExifData image width height =
      some ⟨8 * a, chunks, true⟩ ∧
      chunks.length = (2 * b + 15) / 16 ∧
        ∀ k chunk, chunks[k]? = some chunk → ChunkRight image a b k chunk := by
  have hheight : height.toUInt32.toNat = 2 * b := by
    have hnonneg : 0 ≤ height := by
      rw [Int32.le_iff_toInt_le, h.heightInt]
      exact Int.natCast_nonneg _
    rw [Int32.toNat_toUInt32_of_le hnonneg, h.height_eq]
  obtain ⟨more, heq, hlen, hmore⟩ := compress_chunks image width height (2 * b)
    ((2 * b + 15) / 16) (k := 0) (s := ⟨0, fun _ => 0, fun _ => 0, []⟩) (by omega) (by simp)
  refine ⟨more, ?_, hlen, fun k chunk hchunk => ?_⟩
  · simp only [Compressor.compressData, h.rowsSize, hstart, hexif, and_self, if_true, hheight,
      Option.map_some, heq, List.nil_append]
  · obtain ⟨u, v, rfl⟩ := hmore k chunk hchunk
    have hk : k < more.length := (List.getElem?_eq_some_iff.mp hchunk).1
    rw [Nat.zero_add]
    exact h.chunkRight (by omega) u v

theorem chromaRight_of_chunks {c : Compressed} (hsize : c.rowsSize = 8 * a)
    (hcount : c.chunks.length = (2 * b + 15) / 16)
    (hchunks : ∀ k chunk, c.chunks[k]? = some chunk → ChunkRight image a b k chunk) :
    ChromaRight image (2 * a) (2 * b) c := by
  have hplane : 2 * a * (2 * b) = 4 * (a * b) := by ring
  have hhalf : 4 * (a * b) / 2 = 2 * (a * b) := by omega
  have hget (row : ℕ) (hrow : row < b) : ∃ chunk, c.chunks[row / 8]? = some chunk :=
    ⟨_, List.getElem?_eq_getElem (by omega)⟩
  have hmem {chunk : Chunk} (hchunk : chunk ∈ c.chunks) : ∃ k, ChunkRight image a b k chunk := by
    obtain ⟨k, hk⟩ := List.mem_iff_getElem?.mp hchunk
    exact ⟨k, hchunks k chunk hk⟩
  refine ⟨hcount, fun row hrow k j => ?_, fun row hrow chunk hchunk i hi => ?_,
    fun chunk hchunk p hp => ?_, fun chunk hchunk p hp => ?_⟩
  · constructor
    · intro hplace
      obtain ⟨chunk, hchunk, hj, hrow⟩ := hplace
      rw [(hchunks k chunk hchunk).scanline] at hrow
      omega
    · intro hplace
      obtain ⟨rfl, rfl⟩ := hplace
      obtain ⟨chunk, hchunk⟩ := hget row (by omega)
      refine ⟨chunk, hchunk, Nat.mod_lt _ (by norm_num), ?_⟩
      rw [(hchunks _ chunk hchunk).scanline]
      omega
  · have hdiv := Nat.div_add_mod row 8
    obtain ⟨hcb, hcr⟩ := (hchunks _ chunk hchunk).rows (row % 8) (by omega) i (by omega)
    rw [hdiv] at hcb hcr
    rw [hcb, hcr]
    push_cast
    exact ⟨congrArg image (by ring), congrArg image (by ring)⟩
  · obtain ⟨k, hright⟩ := hmem hchunk
    obtain ⟨row, hrow, i, hi, -, hvu⟩ := hright.pairs p hp
    have hrows : (8 * k + row + 1) * (2 * a) ≤ b * (2 * a) :=
      Nat.mul_le_mul_right _ (by omega)
    rw [Nat.succ_mul, Nat.mul_comm b, Nat.mul_assoc] at hrows
    rw [hvu, hplane, hhalf]
    omega
  · obtain ⟨k, hright⟩ := hmem hchunk
    obtain ⟨row, hrow, i, hi, hindex, -⟩ := hright.pairs p hp
    have hrows : (row + 1) * a ≤ 8 * a := Nat.mul_le_mul_right _ (by omega)
    rw [Nat.succ_mul] at hrows
    rw [hindex, hsize]
    omega

end Images

/-- Where the library starts and takes the EXIF data. -/
theorem presentsChroma (jpegStartCompress : UInt32 → UInt32 → Bool) (attachExifData : Bool)
    (image : ℤ → UInt8) (width height : Int32)
    (hstart : jpegStartCompress width.toUInt32 height.toUInt32 = true)
    (hexif : attachExifData = true) (hw : 0 ≤ width.toInt)
    (hh : 0 ≤ height.toInt) (hweven : width.toInt % 2 = 0) (hheven : height.toInt % 2 = 0)
    (hplane : width.toInt * height.toInt < 2 ^ 31) (hrows : 4 * width.toInt < 2 ^ 31) :
    PresentsChroma jpegStartCompress attachExifData image width height := by
  obtain ⟨a, b, hblocks⟩ := exists_blocks hw hh hweven hheven hplane
  have hfits : Fits width height a b := by
    have hheight := Int.toNat_of_nonneg hh
    have hnat : height.toInt.toNat = 2 * b := hblocks.height_eq
    refine ⟨hblocks, by omega, ?_⟩
    rw [hblocks.stride] at hrows
    omega
  obtain ⟨chunks, hdata, hcount, hchunks⟩ := hfits.compressData image hstart hexif
  refine ⟨_, hdata, rfl, ?_⟩
  rw [hblocks.width_eq, hblocks.height_eq]
  exact chromaRight_of_chunks rfl hcount hchunks

def startsWithin (width height : UInt32) : Bool :=
  0 < width && width ≤ 65500 && 0 < height && height ≤ 65500

theorem presentsChroma_small :
    PresentsChroma startsWithin true (fun offset => UInt8.ofInt (7 * offset + 3)) 6 18 :=
  presentsChroma startsWithin true _ 6 18 (by decide) rfl (by decide) (by decide) (by decide)
    (by decide) (by decide) (by decide)

/-- With more pixels than an `int` can count, the first pair of colours is read in front
of the image; with rows that are too long for that, there are no vectors; and with more pixels
a side than the library takes, there are no calls. -/
theorem not_presentsChroma :
    ¬ PresentsChroma startsWithin true (fun _ => 0) 46342 46342 ∧
      ¬ PresentsChroma startsWithin true (fun _ => 0) 536870912 2 ∧
      ¬ PresentsChroma startsWithin true (fun _ => 0) 65502 2 := by
  refine ⟨fun h => ?_, fun h => ?_, fun h => ?_⟩
  · obtain ⟨c, hc, -, hright⟩ := h
    have hheight : (46342 : Int32).toUInt32.toNat = 46342 := by decide
    have hsize : vectorSize ((8 : Int32) * ((46342 : Int32) >>> 1)) = some 185368 := by decide
    have hstart : startsWithin (46342 : Int32).toUInt32 (46342 : Int32).toUInt32 = true := by
      decide
    obtain ⟨more, heq, hlen, hmore⟩ := compress_chunks (fun _ => 0) 46342 46342 46342
      2897 (k := 0) (s := ⟨0, fun _ => 0, fun _ => 0, []⟩) (by decide) (by decide)
    simp only [compressData, hsize, hstart, and_self, if_true, hheight, Option.map_some, heq,
      List.nil_append, Option.some.injEq] at hc
    obtain ⟨first, others, rfl⟩ := List.exists_cons_of_length_eq_add_one hlen
    obtain ⟨u, v, hfirst⟩ := hmore 0 first rfl
    have hpair : (⟨0, -2147386332⟩ : Pair) ∈ first.pairs := by
      rw [hfirst]
      simp only [chunkAt, deinterleave, raster, List.mem_flatMap, List.mem_map, List.mem_range]
      exact ⟨0, by decide, 0, by decide, by decide⟩
    have hread := (hright.reads first (by simp [← hc]) _ hpair).1
    exact absurd hread (by decide)
  · obtain ⟨c, hc, -⟩ := h
    have hsize : vectorSize ((8 : Int32) * ((536870912 : Int32) >>> 1)) = none := by decide
    simp [compressData, hsize] at hc
  · obtain ⟨c, hc, hresult, -⟩ := h
    have hsize : vectorSize ((8 : Int32) * ((65502 : Int32) >>> 1)) = some 262008 := by decide
    have hstart : startsWithin (65502 : Int32).toUInt32 (2 : Int32).toUInt32 = false := by decide
    simp only [compressData, hsize, hstart, Bool.false_eq_true, false_and, if_false,
      Option.map_some, Option.some.injEq] at hc
    rw [← hc] at hresult
    cases hresult

end Rpi3Device.Camera1.Compressor

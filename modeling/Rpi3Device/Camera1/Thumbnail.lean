import Rpi3Device.Camera1.DrawBounds

/-!
# The raw thumbnail of a picture

`createRawThumbnail` takes the colours of the source image apart into two planes, has the three
planes scaled, and puts the scaled colours together behind the scaled Y plane. The buffers are
sized by dividing the number of pixels by four and the rows of a colour plane by halving the
width, both rounding down, while the scaler rounds the sizes of the colour planes up.
-/

namespace Rpi3Device.Camera1.Thumbnail
open IntArithmetic PlaneScan

inductive Buffer where
  | sourceImage
  | sourcePlanes
  | thumbnail
  | destPlanes
deriving DecidableEq

structure Access where
  buffer : Buffer
  index : ℤ
  writes : Bool
deriving DecidableEq

def read (buffer : Buffer) (index : ℤ) : Access := ⟨buffer, index, false⟩

def write (buffer : Buffer) (index : ℤ) : Access := ⟨buffer, index, true⟩

structure RawThumbnail where
  sourcePlanes : ℕ
  thumbnail : ℕ
  destPlanes : ℕ
  accesses : List Access
  created : Bool

/-- A negative size is too large as a `size_t`: the vector throws. -/
def vectorSize (size : Int32) : Option ℕ := if 0 ≤ size then some size.toNatClampNeg else none

def planeAccesses (access : ℤ → Access) (start stride : ℤ) (width height : ℕ) : List Access :=
  raster width height fun x y => access (start + y * stride + x)

def scalerAccesses (luma chroma : ℤ → Access) (width height : Int32) (v : ℤ) : List Access :=
  let w := width.toNatClampNeg
  let h := height.toNatClampNeg
  planeAccesses luma 0 width.toInt w h ++
    planeAccesses chroma 0 (width / 2).toInt ((w + 1) / 2) ((h + 1) / 2) ++
      planeAccesses chroma v (width / 2).toInt ((w + 1) / 2) ((h + 1) / 2)

def deinterleave (pixels : ℤ) (sourceUVPlaneSize : ℕ) : List Access :=
  (List.range sourceUVPlaneSize).flatMap fun (i : ℕ) =>
    [read .sourceImage (pixels + i * 2 + 0), write .sourcePlanes (sourceUVPlaneSize + i),
      read .sourceImage (pixels + i * 2 + 1), write .sourcePlanes i]

def interleave (uvPlanesOffset : ℤ) (destUVPlaneSize : ℕ) : List Access :=
  (List.range destUVPlaneSize).flatMap fun (i : ℕ) =>
    [read .destPlanes (destUVPlaneSize + i), write .thumbnail (uvPlanesOffset + i * 2 + 0),
      read .destPlanes i, write .thumbnail (uvPlanesOffset + i * 2 + 1)]

/-- `result` is the result of `libyuv::I420Scale`. -/
def createRawThumbnail (sourceWidth sourceHeight thumbnailWidth thumbnailHeight result : Int32) :
    Option RawThumbnail :=
  (vectorSize (sourceWidth * sourceHeight / 4)).bind fun sourceUVPlaneSize =>
    (vectorSize (thumbnailWidth * thumbnailHeight * 12 / 8)).bind fun thumbnailSize =>
      (vectorSize (thumbnailWidth * thumbnailHeight / 4)).map fun (destUVPlaneSize : ℕ) =>
        let before := deinterleave (sourceWidth * sourceHeight).toInt sourceUVPlaneSize ++
          scalerAccesses (read .sourceImage) (read .sourcePlanes) sourceWidth sourceHeight
            sourceUVPlaneSize ++
          scalerAccesses (write .thumbnail) (write .destPlanes) thumbnailWidth thumbnailHeight
            destUVPlaneSize
        { sourcePlanes := sourceUVPlaneSize * 2
          thumbnail := thumbnailSize
          destPlanes := destUVPlaneSize * 2
          accesses :=
            if result = 0 then
              before ++ interleave (thumbnailWidth * thumbnailHeight).toInt destUVPlaneSize
            else before
          created := result = 0 }

def nv21Size (width height : Int32) : ℕ :=
  let w := width.toNatClampNeg
  let h := height.toNatClampNeg
  w * h + 2 * ((w + 1) / 2 * ((h + 1) / 2))

def RawThumbnail.size (r : RawThumbnail) (imageSize : ℕ) : Buffer → ℕ
  | .sourceImage => imageSize
  | .sourcePlanes => r.sourcePlanes
  | .thumbnail => r.thumbnail
  | .destPlanes => r.destPlanes

/-- The accesses stay in their buffers, and each byte of an NV21 image is written. -/
structure Right (sourceWidth sourceHeight thumbnailWidth thumbnailHeight : Int32)
    (r : RawThumbnail) : Prop where
  inside : ∀ a ∈ r.accesses,
    0 ≤ a.index ∧ a.index < r.size (nv21Size sourceWidth sourceHeight) a.buffer
  created : r.created = true
  size : r.thumbnail = nv21Size thumbnailWidth thumbnailHeight
  complete : ∀ i < nv21Size thumbnailWidth thumbnailHeight, write .thumbnail i ∈ r.accesses

def ThumbnailRight (sourceWidth sourceHeight thumbnailWidth thumbnailHeight result : Int32) :
    Prop :=
  ∃ r, createRawThumbnail sourceWidth sourceHeight thumbnailWidth thumbnailHeight result = some r ∧
    Right sourceWidth sourceHeight thumbnailWidth thumbnailHeight r

/-- The sizes for which nothing overflows and nothing is rounded. -/
def SizesOk (sourceWidth sourceHeight thumbnailWidth thumbnailHeight : Int32) : Prop :=
  sourceWidth.toInt * sourceHeight.toInt < 2 ^ 31 ∧
    thumbnailWidth.toInt % 2 = 0 ∧ thumbnailHeight.toInt % 2 = 0 ∧
      12 * (thumbnailWidth.toInt * thumbnailHeight.toInt) < 2 ^ 31

structure Blocks (width height : Int32) (a b : ℕ) : Prop where
  width_eq : width.toNatClampNeg = 2 * a
  height_eq : height.toNatClampNeg = 2 * b
  stride : width.toInt = (2 * a : ℕ)
  chromaStride : (width / 2).toInt = a
  pixels : (width * height).toInt = (4 * (a * b) : ℕ)
  plane : vectorSize (width * height / 4) = some (a * b)

section Images
variable {width height : Int32} {a b : ℕ}

theorem vectorSize_of_toInt {size : Int32} {n : ℕ} (h : size.toInt = n) :
    vectorSize size = some n := by
  have hnat : size.toNatClampNeg = n := toNatClampNeg_eq h
  have hle : 0 ≤ size := by
    rw [Int32.le_iff_toInt_le, h]
    exact Int.natCast_nonneg n
  rw [vectorSize, if_pos hle, hnat]

theorem vectorSize_some {size : Int32} {n : ℕ} (h : vectorSize size = some n) :
    size.toInt = n := by
  unfold vectorSize at h
  split_ifs at h with hle
  have hnonneg : 0 ≤ size.toInt := Int32.le_iff_toInt_le.mp hle
  rw [← Option.some.inj h]
  exact (Int.toNat_of_nonneg hnonneg).symm

theorem exists_blocks (hw : 0 ≤ width.toInt) (hh : 0 ≤ height.toInt)
    (hweven : width.toInt % 2 = 0) (hheven : height.toInt % 2 = 0)
    (hfits : width.toInt * height.toInt < 2 ^ 31) : ∃ a b, Blocks width height a b := by
  obtain ⟨a, ha⟩ : ∃ a : ℕ, width.toInt = (2 * a : ℕ) := ⟨width.toInt.toNat / 2, by omega⟩
  obtain ⟨b, hb⟩ : ∃ b : ℕ, height.toInt = (2 * b : ℕ) := ⟨height.toInt.toNat / 2, by omega⟩
  have hproduct : width.toInt * height.toInt = (4 * (a * b) : ℕ) := by
    rw [ha, hb]
    push_cast
    ring
  have hpixels : (width * height).toInt = (4 * (a * b) : ℕ) := by
    have hnonneg : 0 ≤ width.toInt * height.toInt := mul_nonneg hw hh
    rw [toInt_mul_of_fits (by omega) hfits, hproduct]
  refine ⟨a, b, ?_, ?_, ha, ?_, hpixels, ?_⟩
  · exact toNatClampNeg_eq ha
  · exact toNatClampNeg_eq hb
  · rw [toInt_div_natCast (b := 2) ha rfl, Nat.mul_div_cancel_left a two_pos]
  · apply vectorSize_of_toInt
    rw [toInt_div_natCast (b := 4) hpixels rfl, Nat.mul_div_cancel_left _ four_pos]

theorem Blocks.nv21Size_eq (hblocks : Blocks width height a b) :
    nv21Size width height = 6 * (a * b) := by
  have hhalves : (2 * a + 1) / 2 = a ∧ (2 * b + 1) / 2 = b := by omega
  rw [nv21Size, hblocks.width_eq, hblocks.height_eq, hhalves.1, hhalves.2]
  ring

theorem mem_planeAccesses {access : ℤ → Access} {start stride : ℤ} {w h : ℕ} {acc : Access} :
    acc ∈ planeAccesses access start stride w h ↔
      ∃ y < h, ∃ x < w, acc = access (start + y * stride + x) := by
  simp [planeAccesses, raster, eq_comm]

theorem plane_inside {access : ℤ → Access} {w h : ℕ} {acc : Access} (start : ℕ)
    (hmem : acc ∈ planeAccesses access start w w h) :
    ∃ i : ℕ, acc = access i ∧ start ≤ i ∧ i < start + w * h := by
  obtain ⟨y, hy, x, hx, rfl⟩ := mem_planeAccesses.mp hmem
  have hrow : (y + 1) * w ≤ h * w := Nat.mul_le_mul_right w hy
  rw [Nat.succ_mul, Nat.mul_comm h] at hrow
  exact ⟨start + y * w + x, by push_cast; rfl, by omega, by omega⟩

theorem Blocks.scaler_inside {luma chroma : ℤ → Access} {acc : Access}
    (hblocks : Blocks width height a b)
    (hmem : acc ∈ scalerAccesses luma chroma width height (a * b : ℕ)) :
    (∃ i : ℕ, acc = luma i ∧ i < 4 * (a * b)) ∨ ∃ i : ℕ, acc = chroma i ∧ i < 2 * (a * b) := by
  have hhalves : (2 * a + 1) / 2 = a ∧ (2 * b + 1) / 2 = b := by omega
  simp only [scalerAccesses, hblocks.width_eq, hblocks.height_eq, hblocks.stride,
    hblocks.chromaStride, hhalves.1, hhalves.2, List.mem_append] at hmem
  rcases hmem with (hluma | hu) | hv
  · obtain ⟨i, rfl, -, hi⟩ := plane_inside 0 hluma
    refine Or.inl ⟨i, rfl, ?_⟩
    have hproduct : 2 * a * (2 * b) = 4 * (a * b) := by ring
    omega
  · obtain ⟨i, rfl, -, hi⟩ := plane_inside 0 hu
    exact Or.inr ⟨i, rfl, by omega⟩
  · obtain ⟨i, rfl, -, hi⟩ := plane_inside _ hv
    exact Or.inr ⟨i, rfl, by omega⟩

theorem Blocks.scaler_complete {luma chroma : ℤ → Access} {v : ℤ}
    (hblocks : Blocks width height a b) {i : ℕ} (hi : i < 4 * (a * b)) :
    luma i ∈ scalerAccesses luma chroma width height v := by
  have hproduct : 2 * a * (2 * b) = 4 * (a * b) := by ring
  have hpos : 0 < 2 * a := by
    by_contra hzero
    have ha : a = 0 := by omega
    rw [ha, Nat.zero_mul] at hi
    omega
  simp only [scalerAccesses, hblocks.width_eq, hblocks.height_eq, hblocks.stride,
    List.mem_append]
  refine Or.inl (Or.inl (mem_planeAccesses.mpr ⟨i / (2 * a), ?_, i % (2 * a), ?_, ?_⟩))
  · exact Nat.div_lt_of_lt_mul (by omega)
  · exact Nat.mod_lt _ hpos
  · congr 1
    have hdiv := Nat.div_add_mod' i (2 * a)
    rw [zero_add]
    exact_mod_cast hdiv.symm

theorem deinterleave_inside {n : ℕ} {acc : Access} (hmem : acc ∈ deinterleave (4 * n : ℕ) n) :
    (∃ i : ℕ, acc = read .sourceImage i ∧ i < 6 * n) ∨
      ∃ i : ℕ, acc = write .sourcePlanes i ∧ i < 2 * n := by
  obtain ⟨i, hi, hround⟩ := List.mem_flatMap.mp hmem
  have hlt := List.mem_range.mp hi
  simp only [List.mem_cons, List.not_mem_nil, or_false] at hround
  rcases hround with rfl | rfl | rfl | rfl
  · exact Or.inl ⟨4 * n + i * 2 + 0, by push_cast; rfl, by omega⟩
  · exact Or.inr ⟨n + i, by push_cast; rfl, by omega⟩
  · exact Or.inl ⟨4 * n + i * 2 + 1, by push_cast; rfl, by omega⟩
  · exact Or.inr ⟨i, rfl, by omega⟩

theorem interleave_inside {n : ℕ} {acc : Access} (hmem : acc ∈ interleave (4 * n : ℕ) n) :
    (∃ i : ℕ, acc = read .destPlanes i ∧ i < 2 * n) ∨
      ∃ i : ℕ, acc = write .thumbnail i ∧ i < 6 * n := by
  obtain ⟨i, hi, hround⟩ := List.mem_flatMap.mp hmem
  have hlt := List.mem_range.mp hi
  simp only [List.mem_cons, List.not_mem_nil, or_false] at hround
  rcases hround with rfl | rfl | rfl | rfl
  · exact Or.inl ⟨n + i, by push_cast; rfl, by omega⟩
  · exact Or.inr ⟨4 * n + i * 2 + 0, by push_cast; rfl, by omega⟩
  · exact Or.inl ⟨i, rfl, by omega⟩
  · exact Or.inr ⟨4 * n + i * 2 + 1, by push_cast; rfl, by omega⟩

theorem interleave_complete {n i : ℕ} (hlow : 4 * n ≤ i) (hhigh : i < 6 * n) :
    write .thumbnail i ∈ interleave (4 * n : ℕ) n := by
  obtain ⟨j, hj, hcases⟩ : ∃ j < n, i = 4 * n + j * 2 + 0 ∨ i = 4 * n + j * 2 + 1 :=
    ⟨(i - 4 * n) / 2, by omega, by omega⟩
  refine List.mem_flatMap.mpr ⟨j, List.mem_range.mpr hj, ?_⟩
  rcases hcases with rfl | rfl <;> simp

end Images

section Sizes
variable {sw sh tw th : Int32}

theorem createRawThumbnail_eq {n size m : ℕ} (hn : vectorSize (sw * sh / 4) = some n)
    (hsize : vectorSize (tw * th * 12 / 8) = some size)
    (hm : vectorSize (tw * th / 4) = some m) :
    createRawThumbnail sw sh tw th 0 = some
      { sourcePlanes := n * 2
        thumbnail := size
        destPlanes := m * 2
        accesses := deinterleave (sw * sh).toInt n ++
          scalerAccesses (read .sourceImage) (read .sourcePlanes) sw sh n ++
          scalerAccesses (write .thumbnail) (write .destPlanes) tw th m ++
          interleave (tw * th).toInt m
        created := true } := by
  simp [createRawThumbnail, hn, hsize, hm]

theorem createRawThumbnail_some {r : RawThumbnail}
    (h : createRawThumbnail sw sh tw th 0 = some r) :
    ∃ n size m, vectorSize (sw * sh / 4) = some n ∧ vectorSize (tw * th * 12 / 8) = some size ∧
      vectorSize (tw * th / 4) = some m := by
  unfold createRawThumbnail at h
  obtain ⟨n, hn, h⟩ := Option.bind_eq_some_iff.mp h
  obtain ⟨size, hsize, h⟩ := Option.bind_eq_some_iff.mp h
  obtain ⟨m, hm, -⟩ := Option.map_eq_some_iff.mp h
  exact ⟨n, size, m, hn, hsize, hm⟩

theorem right_of_blocks {a b c d : ℕ} (hsource : Blocks sw sh a b) (hthumb : Blocks tw th c d)
    (hsize : vectorSize (tw * th * 12 / 8) = some (6 * (c * d))) :
    ThumbnailRight sw sh tw th 0 := by
  refine ⟨_, createRawThumbnail_eq hsource.plane hsize hthumb.plane, ?_⟩
  rw [hsource.pixels, hthumb.pixels]
  refine ⟨?_, rfl, hthumb.nv21Size_eq.symm, ?_⟩
  · intro acc hmem
    rw [hsource.nv21Size_eq]
    simp only [List.mem_append] at hmem
    rcases hmem with ((hfirst | hread) | hwrite) | hlast
    · rcases deinterleave_inside hfirst with ⟨i, rfl, hi⟩ | ⟨i, rfl, hi⟩ <;>
        simp only [read, write, RawThumbnail.size] <;> omega
    · rcases hsource.scaler_inside hread with ⟨i, rfl, hi⟩ | ⟨i, rfl, hi⟩ <;>
        simp only [read, RawThumbnail.size] <;> omega
    · rcases hthumb.scaler_inside hwrite with ⟨i, rfl, hi⟩ | ⟨i, rfl, hi⟩ <;>
        simp only [write, RawThumbnail.size] <;> omega
    · rcases interleave_inside hlast with ⟨i, rfl, hi⟩ | ⟨i, rfl, hi⟩ <;>
        simp only [read, write, RawThumbnail.size] <;> omega
  · intro i hi
    rw [hthumb.nv21Size_eq] at hi
    simp only [List.mem_append]
    rcases lt_or_ge i (4 * (c * d)) with hluma | hchroma
    · exact Or.inl (Or.inr (hthumb.scaler_complete hluma))
    · exact Or.inr (interleave_complete hchroma hi)

theorem right_of_sizesOk (hsw : 0 ≤ sw.toInt) (hsh : 0 ≤ sh.toInt) (htw : 0 < tw.toInt)
    (hth : 0 < th.toInt) (hsweven : sw.toInt % 2 = 0) (hsheven : sh.toInt % 2 = 0)
    (hok : SizesOk sw sh tw th) : ThumbnailRight sw sh tw th 0 := by
  obtain ⟨hsource, htweven, htheven, hthumb⟩ := hok
  have hpos := mul_pos htw hth
  obtain ⟨a, b, hblocks⟩ := exists_blocks hsw hsh hsweven hsheven hsource
  obtain ⟨c, d, hdest⟩ := exists_blocks htw.le hth.le htweven htheven (by omega)
  refine right_of_blocks hblocks hdest (vectorSize_of_toInt ?_)
  obtain ⟨htotal, hbelow, habove⟩ := frameBufferSize_fits htw hth hthumb
  have hpixels := hdest.pixels
  rw [htotal] at hpixels
  change (frameBufferSize tw th).toInt = _
  omega

theorem quarter_lt {size : Int32} {n : ℕ} (h : vectorSize (size / 4) = some n) : n < 2 ^ 29 := by
  have hvalue := vectorSize_some h
  have hlt := Int32.toInt_lt size
  rw [Int32.toInt_div_of_ne_right _ _ (by decide)] at hvalue
  rcases le_or_gt 0 size.toInt with hnonneg | hneg
  · rw [Int.tdiv_eq_ediv_of_nonneg hnonneg] at hvalue
    change size.toInt / 4 = n at hvalue
    omega
  · have hsum := Int.tdiv_mul_add_tmod size.toInt 4
    have hlow := Int.lt_tmod_of_pos size.toInt (show (0 : ℤ) < 4 by norm_num)
    change size.toInt.tdiv 4 = n at hvalue
    omega

theorem source_fits {n : ℕ} (hn : vectorSize (sw * sh / 4) = some n)
    (hreads : ∀ acc ∈ scalerAccesses (read .sourceImage) (read .sourcePlanes) sw sh n,
      acc.buffer = .sourcePlanes → acc.index < (n * 2 : ℕ))
    (hsw : 0 ≤ sw.toInt) (hsh : 0 ≤ sh.toInt) (hsweven : sw.toInt % 2 = 0)
    (hsheven : sh.toInt % 2 = 0) : sw.toInt * sh.toInt < 2 ^ 31 := by
  obtain ⟨a, ha⟩ : ∃ a : ℕ, sw.toInt = (2 * a : ℕ) := ⟨sw.toInt.toNat / 2, by omega⟩
  obtain ⟨b, hb⟩ : ∃ b : ℕ, sh.toInt = (2 * b : ℕ) := ⟨sh.toInt.toNat / 2, by omega⟩
  have hproduct : sw.toInt * sh.toInt = (4 * (a * b) : ℕ) := by
    rw [ha, hb]
    push_cast
    ring
  rcases Nat.eq_zero_or_pos (a * b) with hzero | hpos
  · rw [hproduct, hzero]
    norm_num
  have ha' : 0 < a := Nat.pos_of_mul_pos_right hpos
  have hb' : 0 < b := Nat.pos_of_mul_pos_left hpos
  have hW : (sw.toNatClampNeg + 1) / 2 = a := by
    change (sw.toInt.toNat + 1) / 2 = a
    omega
  have hH : (sh.toNatClampNeg + 1) / 2 = b := by
    change (sh.toInt.toNat + 1) / 2 = b
    omega
  have hstride : (sw / 2).toInt = a := by
    rw [toInt_div_natCast (b := 2) ha rfl, Nat.mul_div_cancel_left a two_pos]
  have hlast : read .sourcePlanes (n + (b - 1 : ℕ) * a + (a - 1 : ℕ)) ∈
      scalerAccesses (read .sourceImage) (read .sourcePlanes) sw sh n := by
    simp only [scalerAccesses, hW, hH, hstride, List.mem_append]
    exact Or.inr (mem_planeAccesses.mpr ⟨b - 1, by omega, a - 1, by omega, rfl⟩)
  have hindex : (n : ℤ) + (b - 1 : ℕ) * a + (a - 1 : ℕ) < (n * 2 : ℕ) := hreads _ hlast rfl
  have hrows : (b - 1) * a + a = a * b := by
    obtain ⟨k, rfl⟩ : ∃ k, b = k + 1 := ⟨b - 1, by omega⟩
    rw [Nat.add_sub_cancel]
    ring
  have hblocks : a * b ≤ n := by
    rw [← Nat.cast_mul] at hindex
    rw [← hrows]
    generalize (b - 1) * a = rows at hindex ⊢
    omega
  have hquarter := quarter_lt hn
  rw [hproduct]
  push_cast
  omega

theorem thumbnail_fits {size : ℕ} (v : ℤ)
    (hsize : vectorSize (tw * th * 12 / 8) = some size)
    (hwrites : ∀ acc ∈ scalerAccesses (write .thumbnail) (write .destPlanes) tw th v,
      acc.buffer = .thumbnail → acc.index < size)
    (hwhole : size = nv21Size tw th) (htw : 0 < tw.toInt) (hth : 0 < th.toInt) :
    tw.toInt % 2 = 0 ∧ th.toInt % 2 = 0 ∧ 12 * (tw.toInt * th.toInt) < 2 ^ 31 := by
  have hW := toInt_of_pos htw
  have hH := toInt_of_pos hth
  have hproduct : tw.toInt * th.toInt = (tw.toNatClampNeg * th.toNatClampNeg : ℕ) := by
    rw [hW, hH, Nat.cast_mul]
  have hlast : write .thumbnail (0 + (th.toNatClampNeg - 1 : ℕ) * tw.toInt +
      (tw.toNatClampNeg - 1 : ℕ)) ∈
        scalerAccesses (write .thumbnail) (write .destPlanes) tw th v := by
    simp only [scalerAccesses, List.mem_append]
    exact Or.inl (Or.inl (mem_planeAccesses.mpr ⟨_, by omega, _, by omega, rfl⟩))
  have hindex : 0 + (th.toNatClampNeg - 1 : ℕ) * tw.toInt + (tw.toNatClampNeg - 1 : ℕ) <
      (size : ℤ) := hwrites _ hlast rfl
  have hvalue : (frameBufferSize tw th).toInt = size := vectorSize_some hsize
  have hrows : (th.toNatClampNeg - 1) * tw.toNatClampNeg + tw.toNatClampNeg =
      tw.toNatClampNeg * th.toNatClampNeg := by
    obtain ⟨k, hk⟩ : ∃ k, th.toNatClampNeg = k + 1 := ⟨th.toNatClampNeg - 1, by omega⟩
    rw [hk, Nat.add_sub_cancel]
    ring
  have hluma : tw.toNatClampNeg * th.toNatClampNeg ≤ size := by
    rw [hW, ← Nat.cast_mul] at hindex
    rw [← hrows]
    generalize (th.toNatClampNeg - 1) * tw.toNatClampNeg = rows at hindex ⊢
    omega
  have hfits : 12 * (tw.toInt * th.toInt) < 2 ^ 31 := by
    by_contra hlarge
    have hsmaller := frameBufferSize_overflows (not_lt.mp hlarge) (by omega)
    rw [hproduct] at hsmaller
    omega
  obtain ⟨-, hbelow, -⟩ := frameBufferSize_fits htw hth hfits
  rw [hproduct] at hbelow
  have hcolours : 4 * ((tw.toNatClampNeg + 1) / 2 * ((th.toNatClampNeg + 1) / 2)) ≤
      tw.toNatClampNeg * th.toNatClampNeg := by
    rw [nv21Size] at hwhole
    omega
  have heven := even_of_blocks_le (by omega : 0 < tw.toNatClampNeg)
    (by omega : 0 < th.toNatClampNeg) (by
      have hup : (th.toNatClampNeg - 1) / 2 + 1 = (th.toNatClampNeg + 1) / 2 := by omega
      rwa [hup, Nat.mul_comm ((th.toNatClampNeg + 1) / 2)])
  exact ⟨by omega, by omega, hfits⟩

theorem sizesOk_of_right (hsw : 0 ≤ sw.toInt) (hsh : 0 ≤ sh.toInt) (htw : 0 < tw.toInt)
    (hth : 0 < th.toInt) (hsweven : sw.toInt % 2 = 0) (hsheven : sh.toInt % 2 = 0)
    (hright : ThumbnailRight sw sh tw th 0) : SizesOk sw sh tw th := by
  obtain ⟨r, hr, hinside, -, hwhole, -⟩ := hright
  obtain ⟨n, size, m, hn, hsize, hm⟩ := createRawThumbnail_some hr
  rw [createRawThumbnail_eq hn hsize hm, Option.some.injEq] at hr
  subst hr
  refine ⟨source_fits hn ?_ hsw hsh hsweven hsheven, thumbnail_fits m hsize ?_ hwhole htw hth⟩
  · intro acc hmem hbuffer
    have hin := (hinside acc (by simp [hmem])).2
    rwa [hbuffer] at hin
  · intro acc hmem hbuffer
    have hin := (hinside acc (by simp [hmem])).2
    rwa [hbuffer] at hin

end Sizes

/-- With a source image of even size, the thumbnail is right exactly when its width and its height
are even and no size overflows. -/
theorem thumbnail_right_iff (sourceWidth sourceHeight thumbnailWidth thumbnailHeight : Int32)
    (result : Int32) (hscaled : result = 0)
    (hsourceWidth : 0 ≤ sourceWidth.toInt) (hsourceHeight : 0 ≤ sourceHeight.toInt)
    (hwidthEven : sourceWidth.toInt % 2 = 0) (hheightEven : sourceHeight.toInt % 2 = 0)
    (hwidth : 0 < thumbnailWidth.toInt) (hheight : 0 < thumbnailHeight.toInt) :
    ThumbnailRight sourceWidth sourceHeight thumbnailWidth thumbnailHeight result ↔
      SizesOk sourceWidth sourceHeight thumbnailWidth thumbnailHeight := by
  subst hscaled
  constructor
  · exact sizesOk_of_right hsourceWidth hsourceHeight hwidth hheight hwidthEven hheightEven
  · exact right_of_sizesOk hsourceWidth hsourceHeight hwidth hheight hwidthEven hheightEven

theorem thumbnail_right_small : ThumbnailRight 640 480 160 120 0 := by
  have hok : SizesOk 640 480 160 120 := by
    unfold SizesOk
    decide
  exact (thumbnail_right_iff 640 480 160 120 0 rfl (by decide) (by decide) (by decide) (by decide)
    (by decide) (by decide)).mpr hok

/-- With 121 rows the scaler writes 61 rows of 80 bytes to colour planes that have room for 60 and a
half. -/
theorem thumbnail_not_right : ¬ThumbnailRight 640 480 160 121 0 := by
  intro hright
  have hok := sizesOk_of_right (by decide) (by decide) (by decide) (by decide) (by decide)
    (by decide) hright
  exact absurd hok.2.2.1 (by decide)

end Rpi3Device.Camera1.Thumbnail

import Rpi3Device.Camera.Definition
import Rpi3Device.Camera2.StreamTable

/-!
# The size tables of the fake HAL2 camera

`EmulatedFakeCamera2::Initialize` fills three vectors with widths and heights in turn:
first the configured resolutions, then the built-in ones. For a camera that faces front
the built-in sizes are appended; for one that faces back they are copied to the
beginning, over the configured ones, and past the end of a vector that is too short.

`allocateStream` searches the vector of the format by pairs, but it takes the number of
elements for the number of pairs, so a search without a match leaves the vector.
-/

namespace Rpi3Device.Camera2
open StreamCamera
open Camera (Orientation CameraDefinition)

def kAvailableRawSizes : List UInt32 := [640, 480]
def kAvailableProcessedSizesBack : List UInt32 := [640, 480, 320, 240]
def kAvailableProcessedSizesFront : List UInt32 := [320, 240, 160, 120]
def kAvailableJpegSizesBack : List UInt32 := [640, 480]
def kAvailableJpegSizesFront : List UInt32 := [320, 240]

def flat (ps : List (UInt32 × UInt32)) : List UInt32 := ps.flatMap fun p => [p.1, p.2]

def configured (params : CameraDefinition) : List (UInt32 × UInt32) :=
  params.resolutions.map fun r => (r.width.toUInt32, r.height.toUInt32)

/-- `std::copy` to `begin()`. It is undefined when the vector is shorter than the source. -/
def copyToBegin (source v : List UInt32) : Option (List UInt32) :=
  if source.length ≤ v.length then some (source ++ v.drop source.length) else none

def initializeSizes (params : CameraDefinition) : Option StreamCamera :=
  let pushed := flat (configured params)
  let raw := pushed ++ kAvailableRawSizes
  match params.orientation with
  | .kFront => some {
      mAvailableRawSizes := raw
      mAvailableProcessedSizes := pushed ++ kAvailableProcessedSizesFront
      mAvailableJpegSizes := pushed ++ kAvailableJpegSizesFront }
  | .kBack =>
    match copyToBegin kAvailableProcessedSizesBack pushed,
      copyToBegin kAvailableJpegSizesBack pushed with
    | some processed, some jpeg => some {
        mAvailableRawSizes := raw
        mAvailableProcessedSizes := processed
        mAvailableJpegSizes := jpeg }
    | _, _ => none

def builtIn : Orientation → StreamKind → List (UInt32 × UInt32)
  | _, .raw => [(640, 480)]
  | .kFront, .processed => [(320, 240), (160, 120)]
  | .kFront, .jpeg => [(320, 240)]
  | .kBack, .processed => [(640, 480), (320, 240)]
  | .kBack, .jpeg => [(640, 480)]

def configuredSizes (params : CameraDefinition) (kind : StreamKind) : List (UInt32 × UInt32) :=
  configured params ++ builtIn params.orientation kind

def StreamFormat.Supported (format : StreamFormat) : Prop :=
  format = .implementationDefined ∨ format ∈ kAvailableFormats

/-- The vector of the format is filled as intended, and the check accepts exactly its sizes
and reads only elements of it. -/
def SizesRight (params : CameraDefinition) (format : StreamFormat) (width height : UInt32) : Prop :=
  ∃ camera, initializeSizes params = some camera ∧
    camera.availableSizes format = some (flat (configuredSizes params format.kind)) ∧
    ∀ beyond,
      let r := supportsResolution (flat (configuredSizes params format.kind)) beyond width height
      (r.1 = true ↔ (width, height) ∈ configuredSizes params format.kind) ∧
        ∀ i ∈ r.2, i < (flat (configuredSizes params format.kind)).length

theorem flat_length (ps : List (UInt32 × UInt32)) : (flat ps).length = 2 * ps.length := by
  induction ps with
  | nil => rfl
  | cons p ps ih =>
    simp only [flat, List.flatMap_cons, List.length_append, List.length_cons,
      List.length_nil] at ih ⊢
    omega

theorem flat_append (ps qs : List (UInt32 × UInt32)) : flat (ps ++ qs) = flat ps ++ flat qs :=
  List.flatMap_append

theorem flat_getD {ps : List (UInt32 × UInt32)} {i : ℕ} (hi : i < ps.length) (x y : UInt32) :
    (flat ps).getD (i * 2) x = ps[i].1 ∧ (flat ps).getD (i * 2 + 1) y = ps[i].2 := by
  induction ps generalizing i with
  | nil => simp at hi
  | cons p ps ih =>
    cases i with
    | zero => exact ⟨rfl, rfl⟩
    | succ i =>
      have hstep : (i + 1) * 2 = i * 2 + 1 + 1 := by omega
      rw [hstep]
      simpa [flat] using ih (by simpa using hi : i < ps.length)

theorem sizeSearch_of_mem {ps : List (UInt32 × UInt32)} (beyond : ℕ → UInt32)
    {width height : UInt32} (left resIdx : ℕ) (hmem : (width, height) ∈ ps.drop resIdx)
    (hleft : ps.length ≤ resIdx + left) :
    (sizeSearch (flat ps) beyond width height resIdx left).1 = true ∧
      ∀ i ∈ (sizeSearch (flat ps) beyond width height resIdx left).2, i < (flat ps).length := by
  have hlt : resIdx < ps.length := by
    have hpos := List.length_pos_of_mem hmem
    rw [List.length_drop] at hpos
    omega
  induction left generalizing resIdx with
  | zero => omega
  | succ left ih =>
    obtain ⟨hw, hh⟩ := flat_getD hlt (beyond (resIdx * 2)) (beyond (resIdx * 2 + 1))
    have hlen := flat_length ps
    have hnext (hne : ps[resIdx] ≠ (width, height)) :
        (width, height) ∈ ps.drop (resIdx + 1) ∧ resIdx + 1 < ps.length := by
      rw [List.drop_eq_getElem_cons hlt] at hmem
      have htail := (List.mem_cons.mp hmem).resolve_left (Ne.symm hne)
      have hpos := List.length_pos_of_mem htail
      rw [List.length_drop] at hpos
      exact ⟨htail, by omega⟩
    rw [sizeSearch, hw, hh]
    by_cases hwidth : ps[resIdx].1 = width
    · by_cases hheight : ps[resIdx].2 = height
      · rw [if_pos hwidth, if_pos hheight]
        refine ⟨rfl, ?_⟩
        simp only [List.mem_cons, List.not_mem_nil, or_false, forall_eq_or_imp, forall_eq]
        omega
      · obtain ⟨htail, hlt'⟩ := hnext fun he => hheight (by rw [he])
        obtain ⟨hfound, hreads⟩ := ih (resIdx + 1) htail (by omega) hlt'
        rw [if_pos hwidth, if_neg hheight]
        refine ⟨hfound, ?_⟩
        simp only [List.mem_cons, forall_eq_or_imp]
        exact ⟨by omega, by omega, hreads⟩
    · obtain ⟨htail, hlt'⟩ := hnext fun he => hwidth (by rw [he])
      obtain ⟨hfound, hreads⟩ := ih (resIdx + 1) htail (by omega) hlt'
      rw [if_neg hwidth]
      refine ⟨hfound, ?_⟩
      simp only [List.mem_cons, forall_eq_or_imp]
      exact ⟨by omega, hreads⟩

theorem sizeSearch_of_not_mem {ps : List (UInt32 × UInt32)} (beyond : ℕ → UInt32)
    {width height : UInt32} (left resIdx : ℕ) (hmem : (width, height) ∉ ps.drop resIdx)
    (hle : resIdx ≤ ps.length) (hleft : ps.length < resIdx + left) :
    ∃ i ∈ (sizeSearch (flat ps) beyond width height resIdx left).2, (flat ps).length ≤ i := by
  induction left generalizing resIdx with
  | zero => omega
  | succ left ih =>
    have hlen := flat_length ps
    rcases Nat.lt_or_ge resIdx ps.length with hlt | hge
    · have htail : (width, height) ∉ ps.drop (resIdx + 1) := by
        intro h
        apply hmem
        rw [List.drop_eq_getElem_cons hlt]
        exact List.mem_cons_of_mem _ h
      have hne : ¬ (ps[resIdx].1 = width ∧ ps[resIdx].2 = height) := by
        intro hparts
        obtain ⟨rfl, rfl⟩ := hparts
        apply hmem
        rw [List.drop_eq_getElem_cons hlt]
        exact List.mem_cons_self
      obtain ⟨hw, hh⟩ := flat_getD hlt (beyond (resIdx * 2)) (beyond (resIdx * 2 + 1))
      obtain ⟨i, hi, hpast⟩ := ih (resIdx + 1) htail hlt (by omega)
      refine ⟨i, ?_, hpast⟩
      rw [sizeSearch, hw, hh]
      by_cases hwidth : ps[resIdx].1 = width
      · rw [if_pos hwidth, if_neg fun hheight => hne ⟨hwidth, hheight⟩]
        exact List.mem_cons_of_mem _ (List.mem_cons_of_mem _ hi)
      · rw [if_neg hwidth]
        exact List.mem_cons_of_mem _ hi
    · refine ⟨resIdx * 2, ?_, by omega⟩
      rw [sizeSearch]
      split
      · split <;> exact List.mem_cons_self
      · exact List.mem_cons_self

theorem StreamFormat.Supported.availableSizes {format : StreamFormat} (hf : format.Supported)
    (camera : StreamCamera) : camera.availableSizes format = some (match format.kind with
      | .raw => camera.mAvailableRawSizes
      | .jpeg => camera.mAvailableJpegSizes
      | .processed => camera.mAvailableProcessedSizes) := by
  rcases hf with rfl | hmem
  · rfl
  · simp only [kAvailableFormats, List.mem_cons, List.not_mem_nil, or_false] at hmem
    rcases hmem with rfl | rfl | rfl | rfl <;> rfl

theorem copyToBegin_ne {source v v' : List UInt32} (hsource : source ≠ [])
    (h : copyToBegin source v = some v') : v' ≠ v ++ source := by
  intro heq
  unfold copyToBegin at h
  by_cases hle : source.length ≤ v.length
  · rw [if_pos hle, Option.some.injEq] at h
    have hlen := congrArg List.length (h.trans heq)
    have hpos := List.length_pos_iff.mpr hsource
    simp only [List.length_append, List.length_drop] at hlen
    omega
  · simp [if_neg hle] at h

theorem copyToBegin_isSome (source v : List UInt32) :
    (copyToBegin source v).isSome ↔ source.length ≤ v.length := by
  unfold copyToBegin
  by_cases hle : source.length ≤ v.length
  · simp [hle]
  · simp [hle]

theorem initializeSizes_back {params : CameraDefinition} (h : params.orientation = .kBack)
    {camera : StreamCamera} (hinit : initializeSizes params = some camera) :
    camera.mAvailableRawSizes = flat (configured params) ++ kAvailableRawSizes ∧
      copyToBegin kAvailableProcessedSizesBack (flat (configured params)) =
        some camera.mAvailableProcessedSizes ∧
      copyToBegin kAvailableJpegSizesBack (flat (configured params)) =
        some camera.mAvailableJpegSizes := by
  simp only [initializeSizes, h] at hinit
  split at hinit
  · rename_i processed jpeg hprocessed hjpeg
    rw [Option.some.injEq] at hinit
    subst hinit
    exact ⟨rfl, hprocessed, hjpeg⟩
  · simp at hinit

theorem initializeSizes_back_isSome {params : CameraDefinition} (h : params.orientation = .kBack) :
    (∃ camera, initializeSizes params = some camera) ↔ 2 ≤ params.resolutions.length := by
  have hlen : (flat (configured params)).length = 2 * params.resolutions.length := by
    rw [flat_length, configured, List.length_map]
  constructor
  · intro hparts
    obtain ⟨camera, hcamera⟩ := hparts
    obtain ⟨-, hprocessed, -⟩ := initializeSizes_back h hcamera
    have hle := (copyToBegin_isSome _ _).mp (Option.isSome_of_eq_some hprocessed)
    simp only [kAvailableProcessedSizesBack, List.length_cons, List.length_nil] at hle
    omega
  · intro hle
    obtain ⟨processed, hprocessed⟩ := Option.isSome_iff_exists.mp
      ((copyToBegin_isSome kAvailableProcessedSizesBack (flat (configured params))).mpr
        (by simp only [kAvailableProcessedSizesBack, List.length_cons, List.length_nil]; omega))
    obtain ⟨jpeg, hjpeg⟩ := Option.isSome_iff_exists.mp
      ((copyToBegin_isSome kAvailableJpegSizesBack (flat (configured params))).mpr
        (by simp only [kAvailableJpegSizesBack, List.length_cons, List.length_nil]; omega))
    simp only [initializeSizes, h, hprocessed, hjpeg]
    exact ⟨_, rfl⟩

def TableFilled (params : CameraDefinition) (kind : StreamKind) : Prop :=
  params.orientation = .kFront ∨ kind = .raw ∧ 2 ≤ params.resolutions.length

theorem initializeSizes_iff (params : CameraDefinition) {format : StreamFormat}
    (hf : format.Supported) :
    (∃ camera, initializeSizes params = some camera ∧
      camera.availableSizes format = some (flat (configuredSizes params format.kind))) ↔
        TableFilled params format.kind := by
  simp only [StreamFormat.Supported.availableSizes hf, configuredSizes, flat_append,
    TableFilled]
  cases horient : params.orientation with
  | kFront =>
    refine iff_of_true ?_ (.inl rfl)
    simp only [initializeSizes, horient]
    refine ⟨_, rfl, ?_⟩
    cases format.kind <;> rfl
  | kBack =>
    have hsome := initializeSizes_back_isSome horient
    cases format.kind with
    | raw =>
      constructor
      · intro h
        obtain ⟨camera, hcamera, -⟩ := h
        exact .inr ⟨rfl, hsome.mp ⟨camera, hcamera⟩⟩
      · intro h
        rcases h with hfront | ⟨-, hle⟩
        · simp at hfront
        · obtain ⟨camera, hcamera⟩ := hsome.mpr hle
          refine ⟨camera, hcamera, ?_⟩
          rw [(initializeSizes_back horient hcamera).1]
          rfl
    | jpeg =>
      refine iff_of_false ?_ (by simp)
      intro h
      obtain ⟨camera, hcamera, htable⟩ := h
      obtain ⟨-, -, hjpeg⟩ := initializeSizes_back horient hcamera
      exact copyToBegin_ne (by simp [kAvailableJpegSizesBack]) hjpeg (Option.some.inj htable)
    | processed =>
      refine iff_of_false ?_ (by simp)
      intro h
      obtain ⟨camera, hcamera, htable⟩ := h
      obtain ⟨-, hprocessed, -⟩ := initializeSizes_back horient hcamera
      exact copyToBegin_ne (by simp [kAvailableProcessedSizesBack]) hprocessed
        (Option.some.inj htable)

theorem builtIn_ne_nil (o : Orientation) (kind : StreamKind) : builtIn o kind ≠ [] := by
  cases o <;> cases kind <;> simp [builtIn]

/-- Sizes and check are right exactly for a table that was filled in order and a size in it. -/
theorem sizesRight_iff (params : CameraDefinition) {format : StreamFormat}
    (hf : format.Supported) (width height : UInt32) :
    SizesRight params format width height ↔
      TableFilled params format.kind ∧ (width, height) ∈ configuredSizes params format.kind := by
  rw [← initializeSizes_iff params hf]
  have hne : configuredSizes params format.kind ≠ [] := by
    simp [configuredSizes, builtIn_ne_nil]
  have hpos := List.length_pos_iff.mpr hne
  have hlen := flat_length (configuredSizes params format.kind)
  constructor
  · intro h
    obtain ⟨camera, hcamera, htable, hcheck⟩ := h
    refine ⟨⟨camera, hcamera, htable⟩, ?_⟩
    by_contra hmem
    obtain ⟨i, hi, hpast⟩ := sizeSearch_of_not_mem (fun _ => 0)
      (flat (configuredSizes params format.kind)).length 0 (by simpa using hmem) (Nat.zero_le _)
      (by omega)
    have hinside := (hcheck fun _ => 0).2 i hi
    omega
  · intro h
    obtain ⟨⟨camera, hcamera, htable⟩, hmem⟩ := h
    refine ⟨camera, hcamera, htable, fun beyond => ?_⟩
    obtain ⟨hfound, hreads⟩ := sizeSearch_of_mem beyond
      (flat (configuredSizes params format.kind)).length 0 (by simpa using hmem) (by omega)
    exact ⟨iff_of_true hfound hmem, hreads⟩

theorem sizesRight_front : SizesRight ⟨.kFront, .kHalV2, [⟨1280, 720⟩]⟩ .blob 1280 720 :=
  (sizesRight_iff ⟨.kFront, .kHalV2, [⟨1280, 720⟩]⟩ (.inr (by decide)) 1280 720).mpr
    ⟨.inl rfl, by decide⟩

/-- Facing back the configured JPEG size is lost; facing front the rejection of a size reads
past the vector. -/
theorem sizes_not_right :
    ¬ SizesRight ⟨.kBack, .kHalV2, [⟨1280, 720⟩, ⟨640, 480⟩]⟩ .blob 1280 720 ∧
      ¬ SizesRight ⟨.kFront, .kHalV2, [⟨1280, 720⟩]⟩ .blob 640 480 := by
  constructor
  · intro h
    obtain ⟨camera, hcamera, htable, -⟩ := h
    have hinit : initializeSizes ⟨.kBack, .kHalV2, [⟨1280, 720⟩, ⟨640, 480⟩]⟩ = some
        { mAvailableRawSizes := [1280, 720, 640, 480, 640, 480]
          mAvailableProcessedSizes := [640, 480, 320, 240]
          mAvailableJpegSizes := [640, 480, 640, 480] } := rfl
    rw [hinit, Option.some.injEq] at hcamera
    subst hcamera
    revert htable
    decide
  · intro h
    obtain ⟨-, -, -, hcheck⟩ := h
    have hinside := (hcheck fun _ => 0).2 4
    revert hinside
    decide

end Rpi3Device.Camera2

import Rpi3Device.KeyedTable
import Rpi3Device.TransitionSystem
import Rpi3Device.Camera1.Converters

/-!
# The parameters of the emulated camera

`setParameters` takes its values, and the lists it checks them against, from the
caller's string. A key that the string lacks gives a null pointer; comparing it is
an undefined call. White balance modes are registered once, each with an array of
scale factors, and the device points to the array of its current mode.

The container of the parameters belongs to the framework. It is a parameter here:
what a flattened string holds, and how its numbers are read.
-/

namespace Rpi3Device.Camera1
open KeyedTable TransitionSystem

/-- The answers of `get`; `none` is a null pointer. -/
abbrev ParameterMap := String → Option String

structure CameraParameters where
  unflatten : String → ParameterMap
  getInt : ParameterMap → String → Int32
  getFloat : ParameterMap → String → Float32
  getPreviewSize : ParameterMap → Int32 × Int32

def keyFlashMode : String := "flash-mode"
def keyFocusMode : String := "focus-mode"
def keyExposureCompensation : String := "exposure-compensation"
def keyMaxExposureCompensation : String := "max-exposure-compensation"
def keyMinExposureCompensation : String := "min-exposure-compensation"
def keyExposureCompensationStep : String := "exposure-compensation-step"
def keyWhiteBalance : String := "whitebalance"
def keySupportedWhiteBalance : String := "whitebalance-values"
def keySupportedFocusModes : String := "focus-mode-values"
def keySupportedFlashModes : String := "flash-mode-values"

def focusModeFixed : String := "fixed"
def whiteBalanceAuto : String := "auto"
def whiteBalanceIncandescent : String := "incandescent"
def whiteBalanceDaylight : String := "daylight"
def whiteBalanceTwilight : String := "twilight"

def kSupportedFlashModes : List String := ["off", "auto", "on", "red-eye", "torch"]

def buildParameterValue (values : List String) : String := ",".intercalate values

def checkParameterValue (value : String) (supportedValues : List String) : Bool :=
  supportedValues.any fun supported => value = supported

def Contains (haystack needle : String) : Prop := needle.toList <:+: haystack.toList

instance (haystack needle : String) : Decidable (Contains haystack needle) :=
  inferInstanceAs (Decidable (_ <:+: _))

structure Scale where
  r : Float32
  g : Float32
  b : Float32

/-- `scales` are the arrays allocated so far; a pointer to one is its index. -/
structure EmulatedCameraDevice where
  mExposureCompensation : Float32
  mWhiteBalanceScale : Option ℕ
  mSupportedWhiteBalanceScale : KeyedVector String ℕ
  scales : List Scale

namespace EmulatedCameraDevice

def constructed : EmulatedCameraDevice := ⟨1, none, ∅, []⟩

def setExposureCompensation (d : EmulatedCameraDevice) (ev : Float32) : EmulatedCameraDevice :=
  { d with mExposureCompensation := Float32.pow 2 (ev / 2.2) }

def initializeWhiteBalanceModes (d : EmulatedCameraDevice) (mode : String)
    (rScale bScale : Float32) : EmulatedCameraDevice :=
  { d with
    mSupportedWhiteBalanceScale := d.mSupportedWhiteBalanceScale.insert mode d.scales.length
    scales := d.scales ++ [⟨rScale, 1, bScale⟩] }

def setWhiteBalanceMode (d : EmulatedCameraDevice) (mode : String) : EmulatedCameraDevice :=
  { d with mWhiteBalanceScale := d.mSupportedWhiteBalanceScale.lookup mode }

def changeWhiteBalance (d : EmulatedCameraDevice) (c : YUVPixel) : Option YUVPixel := do
  let entry ← d.mWhiteBalanceScale
  let scale ← d.scales[entry]?
  let rgb := yuvToRgb32 c.Y.toNat c.U.toNat c.V.toNat
  let r := (Float32.ofNat rgb.r.toNat / scale.r).toInt32
  let b := (Float32.ofNat rgb.b.toNat / scale.b).toInt32
  return rgb32ToYuv r.toInt rgb.g.toNat b.toInt

end EmulatedCameraDevice

structure EmulatedCamera where
  mParameters : ParameterMap
  device : EmulatedCameraDevice

def noError : Int32 := 0
def EINVAL : Int32 := 22

namespace EmulatedCamera

def set (c : EmulatedCamera) (key value : String) : EmulatedCamera :=
  { c with mParameters := fun k => if k = key then some value else c.mParameters k }

def initializeCamera (c : EmulatedCamera) : EmulatedCamera :=
  let c := c.set keyMaxExposureCompensation "6"
  let c := c.set keyMinExposureCompensation "-6"
  let c := c.set keyExposureCompensationStep "0.5"
  let c := c.set keyExposureCompensation "0"
  let c := c.set keySupportedWhiteBalance (buildParameterValue
    [whiteBalanceAuto, whiteBalanceIncandescent, whiteBalanceDaylight, whiteBalanceTwilight])
  let c := c.set keyWhiteBalance whiteBalanceAuto
  let d := c.device
  let d := d.initializeWhiteBalanceModes whiteBalanceAuto 1.0 1.0
  let d := d.initializeWhiteBalanceModes whiteBalanceIncandescent 1.38 0.60
  let d := d.initializeWhiteBalanceModes whiteBalanceDaylight 1.09 0.92
  let d := d.initializeWhiteBalanceModes whiteBalanceTwilight 0.92 1.22
  let c := { c with device := d.setWhiteBalanceMode whiteBalanceAuto }
  let c := c.set keySupportedFocusModes focusModeFixed
  let c := c.set keyFocusMode focusModeFixed
  let c := c.set keySupportedFlashModes (buildParameterValue kSupportedFlashModes)
  c.set keyFlashMode "off"

def initialized : EmulatedCamera := initializeCamera ⟨fun _ => none, .constructed⟩

def updateExposure (lib : CameraParameters) (c : EmulatedCamera) (newParam : ParameterMap) :
    EmulatedCameraDevice :=
  let new := lib.getInt newParam keyExposureCompensation
  let min := lib.getInt newParam keyMinExposureCompensation
  let max := lib.getInt newParam keyMaxExposureCompensation
  if min ≠ 0 ∨ max ≠ 0 then
    let new := if new > max then max else new
    let new := if new < min then min else new
    let current := lib.getInt c.mParameters keyExposureCompensation
    if current ≠ new then
      c.device.setExposureCompensation
        (new.toFloat32 * lib.getFloat newParam keyExposureCompensationStep)
    else c.device
  else c.device

def updateWhiteBalance (c : EmulatedCamera) (newParam : ParameterMap)
    (d : EmulatedCameraDevice) : EmulatedCameraDevice :=
  match newParam keySupportedWhiteBalance, newParam keyWhiteBalance with
  | some supported, some new =>
    if Contains supported new then
      if c.mParameters keyWhiteBalance ≠ some new then d.setWhiteBalanceMode new else d
    else d
  | _, _ => d

/-- Undefined when a null pointer is compared. -/
def setParameters (lib : CameraParameters) (c : EmulatedCamera) (parms : String) :
    Option (Int32 × EmulatedCamera) := do
  let newParam := lib.unflatten parms
  let flashMode ← newParam keyFlashMode
  if checkParameterValue flashMode kSupportedFlashModes = false then return (-EINVAL, c)
  let focusMode ← newParam keyFocusMode
  if focusMode ≠ focusModeFixed then return (-EINVAL, c)
  let previewSize := lib.getPreviewSize newParam
  if previewSize.1 ≤ 0 ∨ previewSize.2 ≤ 0 then return (-EINVAL, c)
  let device := c.updateWhiteBalance newParam (c.updateExposure lib newParam)
  return (noError, ⟨newParam, device⟩)

end EmulatedCamera

def parameterMachine (lib : CameraParameters) : Machine EmulatedCamera String Int32 where
  step c parms := (c.setParameters lib parms).map fun res => (res.2, [res.1])

def registeredScales : KeyedVector String ℕ :=
  EmulatedCamera.initialized.device.mSupportedWhiteBalanceScale

/-- The scale in use is the registered one of a mode, and that mode is the white
balance value of the parameters when they have one. -/
def EmulatedCamera.Settled (c : EmulatedCamera) : Prop :=
  ∃ mode entry, registeredScales.lookup mode = some entry ∧
    c.device.mWhiteBalanceScale = some entry ∧
      ∀ value, c.mParameters keyWhiteBalance = some value → value = mode

structure SafeCall (c : EmulatedCamera) (res : Int32 × EmulatedCamera) : Prop where
  rejected : res.1 ≠ noError → res.2.mParameters = c.mParameters ∧
    res.2.device.mExposureCompensation = c.device.mExposureCompensation ∧
      res.2.device.mWhiteBalanceScale = c.device.mWhiteBalanceScale
  settled : res.2.Settled
  drawable : ∀ pixel, (res.2.device.changeWhiteBalance pixel).isSome

def CallSafe (lib : CameraParameters) (c : EmulatedCamera) (parms : String) : Prop :=
  ∃ res, c.setParameters lib parms = some res ∧ SafeCall c res

/-- The value is a registered mode, and the caller's own list contains it or the
device has its scale already. -/
def WhiteBalanceOk (c : EmulatedCamera) (newParam : ParameterMap) (value : String) : Prop :=
  (registeredScales.lookup value).isSome ∧
    ((∃ supported ∈ newParam keySupportedWhiteBalance, Contains supported value) ∨
      c.device.mWhiteBalanceScale = registeredScales.lookup value)

def FlashOk (newParam : ParameterMap) : Prop :=
  ∃ flashMode ∈ newParam keyFlashMode, checkParameterValue flashMode kSupportedFlashModes

structure Accepts (lib : CameraParameters) (newParam : ParameterMap) : Prop where
  flashMode : FlashOk newParam
  focusMode : newParam keyFocusMode = some focusModeFixed
  previewSize : ¬ ((lib.getPreviewSize newParam).1 ≤ 0 ∨ (lib.getPreviewSize newParam).2 ≤ 0)

structure StringOk (lib : CameraParameters) (c : EmulatedCamera) (parms : String) : Prop where
  flashMode : (lib.unflatten parms keyFlashMode).isSome
  focusMode : FlashOk (lib.unflatten parms) → (lib.unflatten parms keyFocusMode).isSome
  whiteBalance : Accepts lib (lib.unflatten parms) →
    ∀ value ∈ lib.unflatten parms keyWhiteBalance, WhiteBalanceOk c (lib.unflatten parms) value

structure ParameterInv (c : EmulatedCamera) : Prop where
  settled : c.Settled
  registered : c.device.mSupportedWhiteBalanceScale = registeredScales
  scales : c.device.scales.length = 4

namespace EmulatedCamera
variable {lib : CameraParameters} {c : EmulatedCamera} {parms : String}

def accept (lib : CameraParameters) (c : EmulatedCamera) (newParam : ParameterMap) :
    EmulatedCamera :=
  ⟨newParam, c.updateWhiteBalance newParam (c.updateExposure lib newParam)⟩

theorem setParameters_accepted (h : Accepts lib (lib.unflatten parms)) :
    c.setParameters lib parms = some (noError, c.accept lib (lib.unflatten parms)) := by
  obtain ⟨⟨flashMode, hflash, hsupported⟩, hfocus, hsize⟩ := h
  simp [setParameters, accept, Option.mem_def.mp hflash, hsupported, hfocus, hsize]

theorem setParameters_rejected (hflash : (lib.unflatten parms keyFlashMode).isSome)
    (hfocus : FlashOk (lib.unflatten parms) → (lib.unflatten parms keyFocusMode).isSome)
    (h : ¬ Accepts lib (lib.unflatten parms)) :
    c.setParameters lib parms = some (-EINVAL, c) := by
  obtain ⟨flashMode, hflash⟩ := Option.isSome_iff_exists.mp hflash
  by_cases hsupported : checkParameterValue flashMode kSupportedFlashModes
  · have hok : FlashOk (lib.unflatten parms) := ⟨flashMode, hflash, hsupported⟩
    obtain ⟨focusMode, hfocus⟩ := Option.isSome_iff_exists.mp (hfocus hok)
    by_cases hfixed : focusMode = focusModeFixed
    · have hsize : (lib.getPreviewSize (lib.unflatten parms)).1 ≤ 0 ∨
          (lib.getPreviewSize (lib.unflatten parms)).2 ≤ 0 := by
        by_contra hsize
        exact h ⟨hok, hfixed ▸ hfocus, hsize⟩
      simp [setParameters, hflash, hfocus, hfixed, hsize]
    · simp [setParameters, hflash, hfocus, hfixed]
  · simp [setParameters, hflash, hsupported]

theorem setParameters_defined (h : (c.setParameters lib parms).isSome) :
    (lib.unflatten parms keyFlashMode).isSome ∧
      (FlashOk (lib.unflatten parms) → (lib.unflatten parms keyFocusMode).isSome) := by
  cases hflash : lib.unflatten parms keyFlashMode with
  | none => simp [setParameters, hflash] at h
  | some flashMode =>
    refine ⟨rfl, ?_⟩
    intro hparts
    obtain ⟨flashMode', hmem, hsupported⟩ := hparts
    obtain rfl : flashMode = flashMode' := Option.some.inj (hflash.symm.trans hmem)
    by_contra hfocus
    rw [Option.not_isSome_iff_eq_none] at hfocus
    simp [setParameters, hflash, hsupported, hfocus] at h

theorem updateExposure_eq (lib : CameraParameters) (c : EmulatedCamera)
    (newParam : ParameterMap) :
    ∃ exposure, c.updateExposure lib newParam =
      { c.device with mExposureCompensation := exposure } := by
  simp only [updateExposure]
  split_ifs <;> exact ⟨_, rfl⟩

theorem updateWhiteBalance_eq (c : EmulatedCamera) (newParam : ParameterMap)
    (d : EmulatedCameraDevice) :
    ∃ scale, c.updateWhiteBalance newParam d = { d with mWhiteBalanceScale := scale } := by
  unfold updateWhiteBalance
  split
  · split_ifs <;> exact ⟨_, rfl⟩
  · exact ⟨_, rfl⟩

theorem updateWhiteBalance_of_missing {c : EmulatedCamera} {newParam : ParameterMap}
    (h : newParam keyWhiteBalance = none) (d : EmulatedCameraDevice) :
    c.updateWhiteBalance newParam d = d := by
  unfold updateWhiteBalance
  rw [h]
  cases newParam keySupportedWhiteBalance with
  | none => rfl
  | some supported => rfl

theorem updateWhiteBalance_scale {c : EmulatedCamera} {newParam : ParameterMap} {value : String}
    (h : newParam keyWhiteBalance = some value) (d : EmulatedCameraDevice) :
    ((∃ supported ∈ newParam keySupportedWhiteBalance, Contains supported value) ∧
        c.mParameters keyWhiteBalance ≠ some value ∧
        c.updateWhiteBalance newParam d = d.setWhiteBalanceMode value) ∨
      (¬ ((∃ supported ∈ newParam keySupportedWhiteBalance, Contains supported value) ∧
        c.mParameters keyWhiteBalance ≠ some value) ∧ c.updateWhiteBalance newParam d = d) := by
  unfold updateWhiteBalance
  rw [h]
  cases newParam keySupportedWhiteBalance with
  | none => exact .inr ⟨by simp, rfl⟩
  | some supported =>
    by_cases hcontains : Contains supported value
    · by_cases hcurrent : c.mParameters keyWhiteBalance = some value
      · exact .inr ⟨by simp [hcurrent], by simp [hcurrent]⟩
      · exact .inl ⟨⟨supported, rfl, hcontains⟩, hcurrent, by simp [hcontains, hcurrent]⟩
    · exact .inr ⟨by simp [hcontains], by simp [hcontains]⟩

theorem accept_device (lib : CameraParameters) (c : EmulatedCamera) (newParam : ParameterMap) :
    (c.accept lib newParam).device.mSupportedWhiteBalanceScale =
        c.device.mSupportedWhiteBalanceScale ∧
      (c.accept lib newParam).device.scales = c.device.scales := by
  obtain ⟨exposure, hexposure⟩ := updateExposure_eq lib c newParam
  obtain ⟨scale, hscale⟩ :=
    updateWhiteBalance_eq c newParam { c.device with mExposureCompensation := exposure }
  simp only [accept, hexposure, hscale, and_self]

theorem accept_settled_iff (lib : CameraParameters) (h : ParameterInv c)
    (newParam : ParameterMap) :
    (c.accept lib newParam).Settled ↔
      ∀ value ∈ newParam keyWhiteBalance, WhiteBalanceOk c newParam value := by
  obtain ⟨exposure, hexposure⟩ := updateExposure_eq lib c newParam
  cases hvalue : newParam keyWhiteBalance with
  | none =>
    obtain ⟨mode, entry, hmode, hentry, -⟩ := h.settled
    constructor
    · intro _ value hmem
      simp at hmem
    · intro _
      refine ⟨mode, entry, hmode, ?_, ?_⟩
      · simp only [accept, updateWhiteBalance_of_missing hvalue, hexposure, hentry]
      · intro value hmem
        exact absurd (hvalue.symm.trans hmem) (by simp)
  | some value =>
    have hsettled : (c.accept lib newParam).Settled ↔
        (registeredScales.lookup value).isSome ∧
          (c.accept lib newParam).device.mWhiteBalanceScale = registeredScales.lookup value := by
      constructor
      · intro hparts
        obtain ⟨mode, entry, hmode, hentry, hmatch⟩ := hparts
        obtain rfl := hmatch value hvalue
        exact ⟨by simp [hmode], hentry.trans hmode.symm⟩
      · intro hparts
        obtain ⟨hsome, hscale⟩ := hparts
        obtain ⟨entry, hentry⟩ := Option.isSome_iff_exists.mp hsome
        refine ⟨value, entry, hentry, hscale.trans hentry, ?_⟩
        intro value' hvalue'
        exact Option.some.inj (hvalue'.symm.trans hvalue)
    have hmem : (∀ v ∈ some value, WhiteBalanceOk c newParam v) ↔
        WhiteBalanceOk c newParam value := by simp
    rw [hsettled, hmem, WhiteBalanceOk]
    refine and_congr_right fun hsome => ?_
    simp only [accept, hexposure]
    rcases updateWhiteBalance_scale (c := c) hvalue
      { c.device with mExposureCompensation := exposure } with
      ⟨hlisted, -, heq⟩ | ⟨hskip, heq⟩
    · rw [heq]
      simp only [EmulatedCameraDevice.setWhiteBalanceMode, h.registered, true_iff]
      exact .inl hlisted
    · rw [heq]
      refine ⟨.inr, ?_⟩
      intro hcases
      rcases hcases with hlisted | hscale
      · have hcurrent : c.mParameters keyWhiteBalance = some value := by
          by_contra hne
          exact hskip ⟨hlisted, hne⟩
        obtain ⟨mode, entry, hmode, hentry, hmatch⟩ := h.settled
        obtain rfl := hmatch value hcurrent
        exact hentry.trans hmode.symm
      · exact hscale

end EmulatedCamera

theorem registeredScales_lt {mode : String} {entry : ℕ}
    (h : registeredScales.lookup mode = some entry) : entry < 4 := by
  have hentries : ∀ e ∈ registeredScales.entries, e.2 < 4 := by decide
  exact hentries ⟨mode, entry⟩ (AList.mem_lookup_iff.mp h)

theorem ParameterInv.drawable {c : EmulatedCamera} (h : ParameterInv c) (pixel : YUVPixel) :
    (c.device.changeWhiteBalance pixel).isSome := by
  obtain ⟨mode, entry, hmode, hentry, -⟩ := h.settled
  have hlt : entry < c.device.scales.length := by
    rw [h.scales]
    exact registeredScales_lt hmode
  simp [EmulatedCameraDevice.changeWhiteBalance, hentry, List.getElem?_eq_getElem hlt]

theorem initialized_inv : ParameterInv EmulatedCamera.initialized where
  settled := by
    refine ⟨whiteBalanceAuto, 0, by decide, by decide, ?_⟩
    intro value hvalue
    exact (Option.some.inj hvalue).symm
  registered := rfl
  scales := rfl

theorem ParameterInv.accept {lib : CameraParameters} {c : EmulatedCamera}
    {newParam : ParameterMap} (h : ParameterInv c)
    (hsettled : (c.accept lib newParam).Settled) : ParameterInv (c.accept lib newParam) := by
  obtain ⟨htable, hscales⟩ := EmulatedCamera.accept_device lib c newParam
  refine ⟨hsettled, htable.trans h.registered, ?_⟩
  rw [hscales]
  exact h.scales

theorem callSafe_iff {lib : CameraParameters} {c : EmulatedCamera} {parms : String}
    (h : ParameterInv c) : CallSafe lib c parms ↔ StringOk lib c parms := by
  constructor
  · intro hparts
    obtain ⟨res, hcall, hsafe⟩ := hparts
    have hdefined : (c.setParameters lib parms).isSome := by
      rw [hcall]
      rfl
    obtain ⟨hflash, hfocus⟩ := EmulatedCamera.setParameters_defined hdefined
    refine ⟨hflash, hfocus, fun haccept => ?_⟩
    rw [EmulatedCamera.setParameters_accepted haccept] at hcall
    have hsettled := hsafe.settled
    rw [← Option.some.inj hcall] at hsettled
    exact (EmulatedCamera.accept_settled_iff lib h _).mp hsettled
  · intro hparts
    obtain ⟨hflash, hfocus, hwhite⟩ := hparts
    by_cases haccept : Accepts lib (lib.unflatten parms)
    · have hsettled := (EmulatedCamera.accept_settled_iff lib h _).mpr (hwhite haccept)
      refine ⟨_, EmulatedCamera.setParameters_accepted haccept, ?_, hsettled,
        (h.accept hsettled).drawable⟩
      intro hne
      exact absurd rfl hne
    · refine ⟨_, EmulatedCamera.setParameters_rejected hflash hfocus haccept, ?_, h.settled,
        h.drawable⟩
      intro _
      exact ⟨rfl, rfl, rfl⟩

theorem parameterInv_step {lib : CameraParameters} {c c' : EmulatedCamera} {parms : String}
    {es : List Int32} (h : ParameterInv c) (hsafe : CallSafe lib c parms)
    (hstep : (parameterMachine lib).step c parms = some (c', es)) : ParameterInv c' := by
  obtain ⟨res, hcall, hres⟩ := Option.map_eq_some_iff.mp hstep
  obtain ⟨rfl, -⟩ := Prod.mk.inj hres
  obtain ⟨hflash, hfocus, hwhite⟩ := (callSafe_iff h).mp hsafe
  by_cases haccept : Accepts lib (lib.unflatten parms)
  · rw [EmulatedCamera.setParameters_accepted haccept] at hcall
    rw [← Option.some.inj hcall]
    apply h.accept
    exact (EmulatedCamera.accept_settled_iff lib h _).mpr (hwhite haccept)
  · rw [EmulatedCamera.setParameters_rejected hflash hfocus haccept] at hcall
    rw [← Option.some.inj hcall]
    exact h

/-- Every call of a sequence is safe exactly when every string is one that the
camera can take in the state in which it gets it. -/
theorem setParameters_safe_iff (lib : CameraParameters) (calls : List String) :
    (parameterMachine lib).Along (CallSafe lib) .initialized calls ↔
      (parameterMachine lib).Along (StringOk lib) .initialized calls :=
  Machine.along_iff callSafe_iff parameterInv_step initialized_inv calls

def digitsValue (text : List Char) : ℕ :=
  (text.takeWhile Char.isDigit).foldl (fun n c => n * 10 + (c.toNat - 48)) 0

def strtol : List Char → Int32
  | '-' :: text => -Int32.ofNat (digitsValue text)
  | text => Int32.ofNat (digitsValue text)

def strtof (text : List Char) : Float32 :=
  match text.splitOn '.' with
  | [whole, fraction] => Float32.ofScientific (digitsValue (whole ++ fraction)) true fraction.length
  | _ => (strtol text).toFloat32

def parameterPairs (text : String) : List (String × String) :=
  (text.toList.splitOn ';').filterMap fun item =>
    match item.splitOn '=' with
    | [key, value] => some (String.ofList key, String.ofList value)
    | _ => none

/-- The container for strings of the form `key=value;key=value`, with unsigned
fractions. A later value replaces an earlier one, a missing number reads as `-1`. -/
def framework : CameraParameters where
  unflatten text key := (parameterPairs text).reverse.lookup key
  getInt params key := ((params key).map fun value => strtol value.toList).getD (-1)
  getFloat params key := ((params key).map fun value => strtof value.toList).getD (-1)
  getPreviewSize params :=
    match (params "preview-size").map fun value => value.toList.splitOn 'x' with
    | some [width, height] => (strtol width, strtol height)
    | _ => (-1, -1)

def fluorescentString : String :=
  "flash-mode=off;focus-mode=fixed;preview-size=640x480;whitebalance-values=fluorescent;" ++
    "whitebalance=fluorescent"

theorem fluorescentString_get (key : String) : framework.unflatten fluorescentString key =
    [("whitebalance", "fluorescent"), ("whitebalance-values", "fluorescent"),
      ("preview-size", "640x480"), ("focus-mode", "fixed"), ("flash-mode", "off")].lookup key := by
  have hpairs : (parameterPairs fluorescentString).reverse =
      [("whitebalance", "fluorescent"), ("whitebalance-values", "fluorescent"),
        ("preview-size", "640x480"), ("focus-mode", "fixed"), ("flash-mode", "off")] := by
    decide +kernel
  simp only [framework, hpairs]

theorem fluorescentString_accepted : Accepts framework (framework.unflatten fluorescentString) := by
  have hsize : framework.getPreviewSize (framework.unflatten fluorescentString) = (640, 480) := by
    have hget := fluorescentString_get "preview-size"
    simp only [framework] at hget ⊢
    rw [hget]
    decide +kernel
  refine ⟨⟨"off", ?_, by decide +kernel⟩, ?_, ?_⟩
  · rw [fluorescentString_get]
    rfl
  · rw [fluorescentString_get]
    rfl
  · rw [hsize]
    decide

/-- A string without values compares a null pointer; a mode that only the caller's
list knows leaves the device without a scale. -/
theorem setParameters_unsafe :
    ¬ (parameterMachine framework).Along (CallSafe framework) .initialized [""] ∧
      ¬ (parameterMachine framework).Along (CallSafe framework) .initialized
        [fluorescentString] := by
  constructor
  · intro h
    have hok := (callSafe_iff initialized_inv).mp h.1
    exact absurd hok.flashMode (by decide +kernel)
  · intro h
    have hok := (callSafe_iff initialized_inv).mp h.1
    have hvalue : "fluorescent" ∈ framework.unflatten fluorescentString keyWhiteBalance := by
      rw [fluorescentString_get]
      rfl
    have hwhite := hok.whiteBalance fluorescentString_accepted "fluorescent" hvalue
    exact absurd hwhite.1 (by decide)

end Rpi3Device.Camera1

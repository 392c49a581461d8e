import Rpi3Device.BoundedLoop
import Rpi3Device.Camera.Definition
import Rpi3Device.DecimalText

/-!
# The configuration file of the cameras

The file is a JSON document with a list of camera definitions. A definition is appended to the
list of cameras before it is checked, and what is checked is written into it field by field, so
the list keeps whatever was read when the reading stops. The JSON library is a parameter: its
parser, and whether it counts null as an empty object, as its older versions do.
-/

namespace Rpi3Device.Camera
open BoundedLoop DecimalText

namespace Json

/-- The members of an object are listed in the order in which they are visited. A real number is
given by the text that the library makes of it. -/
inductive Value where
  | null
  | bool (b : Bool)
  | int (n : ℤ)
  | real (text : String)
  | string (text : String)
  | array (items : List Value)
  | object (members : List (String × Value))

structure Library where
  parse : String → Option Value
  nullIsObject : Bool

namespace Value

def isObject (lib : Library) : Value → Bool
  | object _ => true
  | null => lib.nullIsObject
  | _ => false

def isArray (lib : Library) : Value → Bool
  | array _ => true
  | null => lib.nullIsObject
  | _ => false

def elements : Value → List Value
  | array items => items
  | object members => members.map Prod.snd
  | _ => []

def member (key : String) : Value → Option Value
  | object members => members.lookup key
  | _ => none

/-- An array or an object is not convertible to a string: the library ends the program. -/
def asString : Value → Option String
  | null => some ""
  | bool b => some (if b then "true" else "false")
  | int n => some (toString n)
  | real text => some text
  | string text => some text
  | array _ | object _ => none

def field (key : String) (value : Value) : Option (Option String) := (value.member key).map asString

end Value
end Json

open Json

/-- The two targets of the device, which differ in the width of a `long`. -/
inductive Abi where
  | arm
  | arm64

def Abi.longBits : Abi → ℕ
  | arm => 32
  | arm64 => 64

def kCameraDefinitionsKey : String := "camera_definitions"
def kCameraDefinitionOrientationKey : String := "orientation"
def kCameraDefinitionHalVersionKey : String := "hal_version"
def kCameraDefinitionResolutionsKey : String := "resolutions"
def kCameraDefinitionResolutionWidthKey : String := "width"
def kCameraDefinitionResolutionHeightKey : String := "height"

def ValueToCameraOrientation (value : String) : Option Orientation :=
  if value = "back" then some .kBack
  else if value = "front" then some .kFront
  else none

def ValueToCameraHalVersion (abi : Abi) (value : String) : Option HalVersion :=
  let number := strtol abi.longBits value.toList
  let temp := Int32.ofInt number.1
  if number.2 ≠ [] then none
  else if temp = 1 then some .kHalV1
  else if temp = 2 then some .kHalV2
  else if temp = 3 then some .kHalV3
  else none

/-- The result, and what has been written to the resolution. -/
def ValueToCameraResolution (abi : Abi) (width height : String) (resolution : Resolution) :
    Bool × Resolution :=
  let number := strtol abi.longBits width.toList
  let resolution := { resolution with width := Int32.ofInt number.1 }
  if number.2 ≠ [] then (false, resolution)
  else
    let number := strtol abi.longBits height.toList
    let resolution := { resolution with height := Int32.ofInt number.1 }
    if number.2 ≠ [] then (false, resolution)
    else if resolution.width ≤ 0 ∨ resolution.height ≤ 0 then (false, resolution)
    else if resolution.width &&& 7 ≠ 0 ∨ resolution.height &&& 7 ≠ 0 then (false, resolution)
    else (true, resolution)

section Configure
variable (lib : Library) (abi : Abi)

def configureResolution (camera : CameraDefinition) (item : Value) :
    Option (Bool × CameraDefinition) :=
  if item.isObject lib = false then some (true, camera)
  else
    match item.field kCameraDefinitionResolutionWidthKey,
      item.field kCameraDefinitionResolutionHeightKey with
    | some (some width), some (some height) =>
      let res := ValueToCameraResolution abi width height {}
      some (res.1, { camera with resolutions := camera.resolutions ++ [res.2] })
    | none, _ | _, none => some (false, camera)
    | _, _ => none

def configureResolutions (element : Value) (camera : CameraDefinition) :
    Option (Bool × CameraDefinition) :=
  match element.member kCameraDefinitionResolutionsKey with
  | none => some (false, camera)
  | some resolutions =>
    if resolutions.isArray lib = false ∨ resolutions.elements = [] then some (false, camera)
    else forEach (configureResolution lib abi) resolutions.elements camera

def configureHalVersion (element : Value) (camera : CameraDefinition) :
    Option (Bool × CameraDefinition) :=
  match element.field kCameraDefinitionHalVersionKey with
  | none => some (false, camera)
  | some none => none
  | some (some value) =>
    match ValueToCameraHalVersion abi value with
    | none => some (false, camera)
    | some hal_version => configureResolutions lib abi element { camera with hal_version }

def configureCamera (element : Value) : Option (Bool × CameraDefinition) :=
  if element.isObject lib = false then some (true, {})
  else
    match element.field kCameraDefinitionOrientationKey with
    | none => some (false, {})
    | some none => none
    | some (some value) =>
      match ValueToCameraOrientation value with
      | none => some (false, {})
      | some orientation => configureHalVersion lib abi element { orientation }

def appendCamera (cameras : List CameraDefinition) (element : Value) :
    Option (Bool × List CameraDefinition) :=
  (configureCamera lib abi element).map fun res => (res.1, cameras ++ [res.2])

def ConfigureCameras (value : Value) (cameras : List CameraDefinition) :
    Option (Bool × List CameraDefinition) :=
  if value.isObject lib = false then some (false, cameras)
  else
    match value.member kCameraDefinitionsKey with
    | none => some (true, cameras)
    | some definitions => forEach (appendCamera lib abi) definitions.elements cameras

/-- `config` is what the file holds, if it can be read. The cameras of an earlier call are
cleared. -/
def Init (config : Option String) : Option (Bool × List CameraDefinition) :=
  match config with
  | none => some (false, [])
  | some config =>
    match lib.parse config with
    | none => some (false, [])
    | some root => ConfigureCameras lib abi root []

end Configure

def Orientation.name : Orientation → String
  | kFront => "front"
  | kBack => "back"

def HalVersion.number : HalVersion → ℤ
  | kHalV1 => 1
  | kHalV2 => 2
  | kHalV3 => 3

section Document
variable (lib : Library) (abi : Abi)

def definitions (config : Option String) : List Value :=
  (((config.bind lib.parse).bind (Value.member kCameraDefinitionsKey)).map Value.elements).getD []

structure Written (item : Value) (key : String) (z : ℤ) : Prop where
  decimal : ∃ text, item.field key = some (some text) ∧ IsDecimal text.toList z
  positive : 0 < z
  multiple : 8 ∣ z

def ResolutionWritten (item : Value) (resolution : Resolution) : Prop :=
  Written item kCameraDefinitionResolutionWidthKey resolution.width.toInt ∧
    Written item kCameraDefinitionResolutionHeightKey resolution.height.toInt

structure Describes (element : Value) (camera : CameraDefinition) : Prop where
  orientation : element.field kCameraDefinitionOrientationKey = some (some camera.orientation.name)
  hal_version : ∃ text, element.field kCameraDefinitionHalVersionKey = some (some text) ∧
    IsDecimal text.toList camera.hal_version.number
  resolutions : ∃ items, element.member kCameraDefinitionResolutionsKey = some items ∧
    items.isArray lib = true ∧
      List.Forall₂ ResolutionWritten (items.elements.filter (Value.isObject lib))
        camera.resolutions
  nonempty : camera.resolutions ≠ []

/-- Accepted cameras are those of the document, in its order, and a failure leaves none. -/
def Validated (config : Option String) : Prop :=
  match Init lib abi config with
  | some (true, cameras) => List.Forall₂ (Describes lib) (definitions lib config) cameras
  | some (false, cameras) => cameras = []
  | none => True

def SizeWritten (item : Value) (key : String) : Prop := ∃ z, Written item key z ∧ z < 2 ^ 31

structure WellFormed (element : Value) : Prop where
  orientation : ∃ text, element.field kCameraDefinitionOrientationKey = some (some text) ∧
    (text = "front" ∨ text = "back")
  hal_version : ∃ text z, element.field kCameraDefinitionHalVersionKey = some (some text) ∧
    IsDecimal text.toList z ∧ 1 ≤ z ∧ z ≤ 3
  resolutions : ∃ items, element.member kCameraDefinitionResolutionsKey = some items ∧
    items.isArray lib = true ∧ (∃ item ∈ items.elements, item.isObject lib = true) ∧
      ∀ item ∈ items.elements, item.isObject lib = true →
        SizeWritten item kCameraDefinitionResolutionWidthKey ∧
          SizeWritten item kCameraDefinitionResolutionHeightKey

def ItemPasses (item : Value) : Prop :=
  item.isObject lib = true → ∃ width height,
    item.field kCameraDefinitionResolutionWidthKey = some (some width) ∧
      item.field kCameraDefinitionResolutionHeightKey = some (some height) ∧
        (ValueToCameraResolution abi width height {}).1 = true

def ItemEnds (item : Value) : Prop :=
  item.isObject lib = true ∧ ∃ width height,
    item.field kCameraDefinitionResolutionWidthKey = some width ∧
      item.field kCameraDefinitionResolutionHeightKey = some height ∧
        (width = none ∨ height = none)

def HasVersion (element : Value) : Prop :=
  ∃ orientation version, element.field kCameraDefinitionOrientationKey = some (some orientation) ∧
    (ValueToCameraOrientation orientation).isSome = true ∧
      element.field kCameraDefinitionHalVersionKey = some (some version) ∧
        (ValueToCameraHalVersion abi version).isSome = true

def HasItems (element : Value) (items : List Value) : Prop :=
  ∃ resolutions, element.member kCameraDefinitionResolutionsKey = some resolutions ∧
    resolutions.isArray lib = true ∧ resolutions.elements = items ∧ items ≠ []

def Passes (element : Value) : Prop :=
  element.isObject lib = true → HasVersion abi element ∧
    ∃ items, HasItems lib element items ∧ ∀ item ∈ items, ItemPasses lib abi item

/-- The first thing in the definition that is not accepted is an array or an object where a string
is read. -/
def Ends (element : Value) : Prop :=
  element.field kCameraDefinitionOrientationKey = some none ∨
    (∃ text, element.field kCameraDefinitionOrientationKey = some (some text) ∧
      (ValueToCameraOrientation text).isSome = true) ∧
        element.field kCameraDefinitionHalVersionKey = some none ∨
    HasVersion abi element ∧ ∃ items, HasItems lib element items ∧
      ∃ pre item post, items = pre ++ item :: post ∧ (∀ other ∈ pre, ItemPasses lib abi other) ∧
        ItemEnds lib item

end Document

section Reading
variable {lib : Library} {abi : Abi} {element item : Value} {camera : CameraDefinition}

theorem isObject_of_member (lib : Library) {key : String} {value : Value}
    (h : item.member key = some value) : item.isObject lib = true := by
  cases item with
  | object members => rfl
  | null | bool | int | real | string | array => simp [Value.member] at h

theorem isObject_of_field (lib : Library) {key : String} {text : Option String}
    (h : item.field key = some text) : item.isObject lib = true := by
  obtain ⟨value, hvalue, -⟩ := Option.map_eq_some_iff.mp h
  exact isObject_of_member lib hvalue

theorem strtol_written {text : String} {z : ℤ} (abi : Abi) (h : IsDecimal text.toList z)
    (hpos : 0 < z) (hlt : z < 2 ^ 31) : strtol abi.longBits text.toList = (z, []) := by
  rw [strtol_of_isDecimal h]
  have hrange : saturate abi.longBits z = z := by
    cases abi with
    | arm =>
      have hlow : (-2 : ℤ) ^ 31 ≤ z := by omega
      exact saturate_eq_self (by simpa [Abi.longBits] using hlow) hlt
    | arm64 =>
      have hlow : (-2 : ℤ) ^ 63 ≤ z := by omega
      have hhigh : z < 2 ^ 63 := by omega
      exact saturate_eq_self (by simpa [Abi.longBits] using hlow) hhigh
  rw [hrange]

theorem and_seven {n : Int32} (hpos : 0 < n.toInt) (hmultiple : 8 ∣ n.toInt) : n &&& 7 = 0 := by
  have hbits : n.toBitVec.toNat % 8 = 0 := by
    have hcond := n.toBitVec.toInt_eq_toNat_cond
    have hint : n.toInt = n.toBitVec.toInt := rfl
    rw [hint] at hpos hmultiple
    split at hcond <;> omega
  have hseven : (7 : Int32).toBitVec.toNat = 2 ^ 3 - 1 := rfl
  rw [← Int32.toBitVec_inj]
  apply BitVec.eq_of_toNat_eq
  rw [Int32.toBitVec_and, BitVec.toNat_and, hseven, Nat.and_two_pow_sub_one_eq_mod]
  exact hbits

theorem toInt_size {z : ℤ} (hpos : 0 < z) (hlt : z < 2 ^ 31) : (Int32.ofInt z).toInt = z :=
  Int32.toInt_ofInt_of_le (by omega) hlt

theorem size_positive {z : ℤ} (hpos : 0 < z) (hlt : z < 2 ^ 31) : ¬Int32.ofInt z ≤ 0 := by
  rw [Int32.le_iff_toInt_le, toInt_size hpos hlt]
  simpa using hpos

theorem resolution_accepted {width height : String} {w h : ℤ}
    (hwidth : IsDecimal width.toList w) (hheight : IsDecimal height.toList h)
    (hw : 0 < w ∧ w < 2 ^ 31 ∧ 8 ∣ w) (hh : 0 < h ∧ h < 2 ^ 31 ∧ 8 ∣ h) :
    ValueToCameraResolution abi width height {} =
      (true, ⟨Int32.ofInt w, Int32.ofInt h⟩) := by
  have hw7 : Int32.ofInt w &&& 7 = 0 := by
    refine and_seven ?_ ?_ <;> rw [toInt_size hw.1 hw.2.1]
    · exact hw.1
    · exact hw.2.2
  have hh7 : Int32.ofInt h &&& 7 = 0 := by
    refine and_seven ?_ ?_ <;> rw [toInt_size hh.1 hh.2.1]
    · exact hh.1
    · exact hh.2.2
  simp only [ValueToCameraResolution, strtol_written abi hwidth hw.1 hw.2.1,
    strtol_written abi hheight hh.1 hh.2.1, ne_eq, not_true_eq_false, if_false,
    size_positive hw.1 hw.2.1, size_positive hh.1 hh.2.1, or_self, hw7, hh7]

theorem configureResolution_passes_iff (camera : CameraDefinition) (item : Value) :
    (∃ t, configureResolution lib abi camera item = some (true, t)) ↔ ItemPasses lib abi item := by
  unfold configureResolution ItemPasses
  cases hobject : item.isObject lib with
  | false => simp
  | true =>
    rw [if_neg (by simp)]
    rcases item.field kCameraDefinitionResolutionWidthKey with _ | _ | width <;>
      rcases item.field kCameraDefinitionResolutionHeightKey with _ | _ | height <;> simp

theorem configureResolution_ends_iff (camera : CameraDefinition) (item : Value) :
    configureResolution lib abi camera item = none ↔ ItemEnds lib item := by
  unfold configureResolution ItemEnds
  cases hobject : item.isObject lib with
  | false => simp
  | true =>
    rw [if_neg (by simp)]
    rcases item.field kCameraDefinitionResolutionWidthKey with _ | _ | width <;>
      rcases item.field kCameraDefinitionResolutionHeightKey with _ | _ | height <;> simp

theorem HasItems.unique {items others : List Value} (h : HasItems lib element items)
    (h' : HasItems lib element others) : items = others := by
  obtain ⟨resolutions, hmember, -, rfl, -⟩ := h
  obtain ⟨others, hother, -, rfl, -⟩ := h'
  rw [Option.some.inj (hmember.symm.trans hother)]

theorem configureResolutions_cases (lib : Library) (abi : Abi) (element : Value)
    (camera : CameraDefinition) :
    (∃ items, HasItems lib element items ∧ configureResolutions lib abi element camera =
        forEach (configureResolution lib abi) items camera) ∨
      (∀ items, ¬HasItems lib element items) ∧
        configureResolutions lib abi element camera = some (false, camera) := by
  unfold configureResolutions HasItems
  cases hmember : element.member kCameraDefinitionResolutionsKey with
  | none => simp
  | some resolutions =>
    simp only [Option.some.injEq, exists_eq_left']
    by_cases hbad : resolutions.isArray lib = false ∨ resolutions.elements = []
    · right
      refine ⟨?_, if_pos hbad⟩
      intro items hitems
      obtain ⟨harray, rfl, hne⟩ := hitems
      rcases hbad with hno | hempty
      · simp [hno] at harray
      · exact hne hempty
    · left
      rw [if_neg hbad]
      push Not at hbad
      exact ⟨_, ⟨by simpa using hbad.1, rfl, hbad.2⟩, rfl⟩

theorem configureResolutions_passes_iff :
    (∃ t, configureResolutions lib abi element camera = some (true, t)) ↔
      ∃ items, HasItems lib element items ∧ ∀ item ∈ items, ItemPasses lib abi item := by
  rcases configureResolutions_cases lib abi element camera with ⟨items, hitems, heq⟩ | ⟨hno, heq⟩
  · rw [heq, forEach_passes_iff configureResolution_passes_iff]
    constructor
    · exact fun hall => ⟨items, hitems, hall⟩
    · intro hother
      obtain ⟨others, hothers, hall⟩ := hother
      exact hitems.unique hothers ▸ hall
  · simp [heq, hno]

theorem configureResolutions_ends_iff :
    configureResolutions lib abi element camera = none ↔
      ∃ items, HasItems lib element items ∧ ∃ pre item post, items = pre ++ item :: post ∧
        (∀ other ∈ pre, ItemPasses lib abi other) ∧ ItemEnds lib item := by
  rcases configureResolutions_cases lib abi element camera with ⟨items, hitems, heq⟩ | ⟨hno, heq⟩
  · rw [heq, forEach_eq_none_iff configureResolution_passes_iff configureResolution_ends_iff]
    constructor
    · exact fun hsplit => ⟨items, hitems, hsplit⟩
    · intro hother
      obtain ⟨others, hothers, hsplit⟩ := hother
      rw [hitems.unique hothers]
      exact hsplit
  · simp [heq, hno]

theorem configureCamera_passes_iff (element : Value) :
    (∃ t, configureCamera lib abi element = some (true, t)) ↔ Passes lib abi element := by
  unfold configureCamera Passes HasVersion
  cases hobject : element.isObject lib with
  | false => simp
  | true =>
    rw [if_neg (by simp)]
    rcases element.field kCameraDefinitionOrientationKey with _ | _ | orientation
    · simp
    · simp
    · simp only
      cases horientation : ValueToCameraOrientation orientation with
      | none => simp [horientation]
      | some facing =>
        unfold configureHalVersion
        rcases element.field kCameraDefinitionHalVersionKey with _ | _ | version
        · simp
        · simp
        · simp only
          cases hversion : ValueToCameraHalVersion abi version with
          | none => simp [hversion]
          | some hal_version =>
            rw [configureResolutions_passes_iff]
            simp [horientation, hversion]

theorem configureCamera_ends_iff (element : Value) :
    configureCamera lib abi element = none ↔ Ends lib abi element := by
  unfold configureCamera Ends HasVersion
  cases hobject : element.isObject lib with
  | false =>
    have hnone (key : String) : element.field key = none := by
      by_contra hsome
      obtain ⟨text, htext⟩ := Option.ne_none_iff_exists'.mp hsome
      simp [isObject_of_field lib htext] at hobject
    simp [hnone]
  | true =>
    rw [if_neg (by simp)]
    rcases element.field kCameraDefinitionOrientationKey with _ | _ | orientation
    · simp
    · simp
    · simp only
      cases horientation : ValueToCameraOrientation orientation with
      | none => simp [horientation]
      | some facing =>
        unfold configureHalVersion
        rcases element.field kCameraDefinitionHalVersionKey with _ | _ | version
        · simp
        · simp [horientation]
        · simp only
          cases hversion : ValueToCameraHalVersion abi version with
          | none => simp [hversion]
          | some hal_version =>
            rw [configureResolutions_ends_iff]
            simp [horientation, hversion]

theorem exists_of_forall₂ {α β : Type*} {R : α → β → Prop} {l : List α} {l' : List β}
    (h : List.Forall₂ R l l') {a : α} (ha : a ∈ l) : ∃ b, R a b := by
  induction h with
  | nil => simp at ha
  | @cons c b l l' hcb _ ih =>
    rcases List.mem_cons.mp ha with rfl | htail
    · exact ⟨b, hcb⟩
    · exact ih htail

theorem Describes.wellFormed (h : Describes lib element camera) : WellFormed lib element := by
  obtain ⟨horientation, ⟨version, hversion, hnumber⟩, ⟨items, hitems, harray, hall⟩, hne⟩ := h
  have hsizes : ∀ item ∈ items.elements.filter (Value.isObject lib),
      ∃ resolution, ResolutionWritten item resolution :=
    fun item hmem => exists_of_forall₂ hall hmem
  refine ⟨⟨_, horientation, ?_⟩, ⟨version, _, hversion, hnumber, ?_⟩, items, hitems, harray, ?_, ?_⟩
  · cases camera.orientation with
    | kFront => exact Or.inl rfl
    | kBack => exact Or.inr rfl
  · cases camera.hal_version <;> simp [HalVersion.number]
  · have hfilter : items.elements.filter (Value.isObject lib) ≠ [] := by
      intro hempty
      rw [hempty, List.forall₂_nil_left_iff] at hall
      exact hne hall
    obtain ⟨item, hmem⟩ := List.exists_mem_of_ne_nil _ hfilter
    exact ⟨item, List.mem_filter.mp hmem⟩
  · intro item hmem hobject
    obtain ⟨resolution, hwidth, hheight⟩ := hsizes item (List.mem_filter.mpr ⟨hmem, hobject⟩)
    exact ⟨⟨_, hwidth, resolution.width.toInt_lt⟩, ⟨_, hheight, resolution.height.toInt_lt⟩⟩

theorem forEach_resolutions (abi : Abi) (items : List Value)
    (h : ∀ item ∈ items, item.isObject lib = true →
      SizeWritten item kCameraDefinitionResolutionWidthKey ∧
        SizeWritten item kCameraDefinitionResolutionHeightKey) (camera : CameraDefinition) :
    ∃ read, forEach (configureResolution lib abi) items camera =
        some (true, { camera with resolutions := camera.resolutions ++ read }) ∧
      List.Forall₂ ResolutionWritten (items.filter (Value.isObject lib)) read := by
  induction items generalizing camera with
  | nil => exact ⟨[], by simp [forEach], .nil⟩
  | cons item items ih =>
    have hrest : ∀ item ∈ items, item.isObject lib = true →
        SizeWritten item kCameraDefinitionResolutionWidthKey ∧
          SizeWritten item kCameraDefinitionResolutionHeightKey :=
      fun other hmem => h other (List.mem_cons_of_mem _ hmem)
    by_cases hobject : item.isObject lib = true
    · obtain ⟨⟨w, hw, hwlt⟩, z, hz, hzlt⟩ := h item List.mem_cons_self hobject
      obtain ⟨width, hwidth, hwidthDecimal⟩ := hw.decimal
      obtain ⟨height, hheight, hheightDecimal⟩ := hz.decimal
      have hround : configureResolution lib abi camera item = some (true, { camera with
          resolutions := camera.resolutions ++ [⟨Int32.ofInt w, Int32.ofInt z⟩] }) := by
        unfold configureResolution
        rw [if_neg (by simp [hobject]), hwidth, hheight]
        simp only [resolution_accepted hwidthDecimal hheightDecimal
          ⟨hw.positive, hwlt, hw.multiple⟩ ⟨hz.positive, hzlt, hz.multiple⟩]
      obtain ⟨read, hread, hall⟩ := ih hrest { camera with
        resolutions := camera.resolutions ++ [⟨Int32.ofInt w, Int32.ofInt z⟩] }
      refine ⟨⟨Int32.ofInt w, Int32.ofInt z⟩ :: read, ?_, ?_⟩
      · simp only [forEach, hround]
        rw [hread, List.append_assoc, List.singleton_append]
      · rw [List.filter_cons_of_pos hobject]
        refine .cons ⟨?_, ?_⟩ hall
        · rw [toInt_size hw.positive hwlt]
          exact hw
        · rw [toInt_size hz.positive hzlt]
          exact hz
    · have hskip : configureResolution lib abi camera item = some (true, camera) := by
        unfold configureResolution
        rw [if_pos (by simpa using hobject)]
      obtain ⟨read, hread, hall⟩ := ih hrest camera
      refine ⟨read, ?_, ?_⟩
      · simp only [forEach, hskip]
        exact hread
      · rw [List.filter_cons_of_neg hobject]
        exact hall

theorem orientation_accepted {text : String} (h : text = "front" ∨ text = "back") :
    ∃ orientation, ValueToCameraOrientation text = some orientation ∧ orientation.name = text := by
  rcases h with rfl | rfl
  · exact ⟨.kFront, by decide +kernel, rfl⟩
  · exact ⟨.kBack, by decide +kernel, rfl⟩

theorem hal_version_accepted (abi : Abi) {text : String} {z : ℤ}
    (h : IsDecimal text.toList z) (hlow : 1 ≤ z) (hhigh : z ≤ 3) :
    ∃ hal_version,
      ValueToCameraHalVersion abi text = some hal_version ∧ hal_version.number = z := by
  unfold ValueToCameraHalVersion
  rw [strtol_written abi h (by omega) (by omega)]
  obtain rfl | rfl | rfl : z = 1 ∨ z = 2 ∨ z = 3 := by omega
  · exact ⟨.kHalV1, by decide, rfl⟩
  · exact ⟨.kHalV2, by decide, rfl⟩
  · exact ⟨.kHalV3, by decide, rfl⟩

theorem WellFormed.configured (abi : Abi) (h : WellFormed lib element) :
    ∃ camera, configureCamera lib abi element = some (true, camera) ∧
      Describes lib element camera := by
  obtain ⟨facing, hfacing, hname⟩ := h.orientation
  obtain ⟨version, z, hversion, hdecimal, hlow, hhigh⟩ := h.hal_version
  obtain ⟨items, hitems, harray, ⟨item, hmem, hobject⟩, hsizes⟩ := h.resolutions
  obtain ⟨orientation, horientation, rfl⟩ := orientation_accepted hname
  obtain ⟨hal_version, haccepted, rfl⟩ := hal_version_accepted abi hdecimal hlow hhigh
  obtain ⟨read, hread, hall⟩ := forEach_resolutions abi items.elements hsizes
    { orientation, hal_version }
  have hne : items.elements ≠ [] := List.ne_nil_of_mem hmem
  refine ⟨{ orientation, hal_version, resolutions := read }, ?_, hfacing,
    ⟨version, hversion, hdecimal⟩, ⟨items, hitems, harray, hall⟩, ?_⟩
  · unfold configureCamera
    rw [if_neg (by simp [isObject_of_field lib hfacing]), hfacing]
    simp only [horientation, configureHalVersion, hversion, haccepted, configureResolutions, hitems]
    rw [if_neg (by simp [harray, hne])]
    exact hread
  · intro hempty
    simp only at hempty
    rw [hempty, List.forall₂_nil_right_iff] at hall
    have hfilter := List.mem_filter.mpr ⟨hmem, hobject⟩
    simp [hall] at hfilter

theorem appendCamera_passes_iff (cameras : List CameraDefinition) (element : Value) :
    (∃ t, appendCamera lib abi cameras element = some (true, t)) ↔ Passes lib abi element := by
  rw [← configureCamera_passes_iff]
  unfold appendCamera
  cases configureCamera lib abi element with
  | none => simp
  | some res => simp [Prod.ext_iff]

theorem appendCamera_ends_iff (cameras : List CameraDefinition) (element : Value) :
    appendCamera lib abi cameras element = none ↔ Ends lib abi element := by
  rw [← configureCamera_ends_iff]
  exact Option.map_eq_none_iff

theorem forEach_cameras (abi : Abi) (elements : List Value)
    (h : ∀ element ∈ elements, WellFormed lib element)
    (cameras : List CameraDefinition) :
    ∃ read, forEach (appendCamera lib abi) elements cameras = some (true, cameras ++ read) ∧
      List.Forall₂ (Describes lib) elements read := by
  induction elements generalizing cameras with
  | nil => exact ⟨[], by simp [forEach], .nil⟩
  | cons element elements ih =>
    rw [List.forall_mem_cons] at h
    obtain ⟨camera, hcamera, hdescribes⟩ := h.1.configured abi
    obtain ⟨read, hread, hall⟩ := ih h.2 (cameras ++ [camera])
    refine ⟨camera :: read, ?_, .cons hdescribes hall⟩
    simp only [forEach, appendCamera, hcamera, Option.map_some]
    rw [hread, List.append_assoc, List.singleton_append]

theorem forEach_cameras_returned {elements : List Value} {cameras left : List CameraDefinition}
    (h : forEach (appendCamera lib abi) elements cameras = some (false, left)) : left ≠ [] := by
  obtain ⟨before, element, hround⟩ := forEach_returned h
  obtain ⟨res, -, heq⟩ := Option.map_eq_some_iff.mp hround
  obtain ⟨-, rfl⟩ := Prod.mk.inj heq
  simp

theorem Init_cases (lib : Library) (abi : Abi) (config : Option String) :
    Init lib abi config = forEach (appendCamera lib abi) (definitions lib config) [] ∨
      definitions lib config = [] ∧ Init lib abi config = some (false, []) := by
  unfold Init definitions
  cases config with
  | none => exact Or.inr ⟨rfl, rfl⟩
  | some config =>
    simp only [Option.bind_some]
    cases lib.parse config with
    | none => exact Or.inr ⟨rfl, rfl⟩
    | some root =>
      simp only [Option.bind_some, ConfigureCameras]
      cases hobject : root.isObject lib with
      | false =>
        have hnone : root.member kCameraDefinitionsKey = none := by
          by_contra hsome
          obtain ⟨value, hvalue⟩ := Option.ne_none_iff_exists'.mp hsome
          simp [isObject_of_member lib hvalue] at hobject
        exact Or.inr ⟨by simp [hnone], by simp⟩
      | true =>
        rw [if_neg (by simp)]
        left
        cases root.member kCameraDefinitionsKey with
        | none => rfl
        | some value => rfl

end Reading

/-- The list of cameras is right exactly when every camera definition is of the right form, or the
program ends at the first one that is not accepted. -/
theorem validated_iff (lib : Library) (abi : Abi) (config : Option String) :
    Validated lib abi config ↔
      (∀ element ∈ definitions lib config, WellFormed lib element) ∨
        ∃ pre element post, definitions lib config = pre ++ element :: post ∧
          (∀ other ∈ pre, Passes lib abi other) ∧ Ends lib abi element := by
  unfold Validated
  rcases Init_cases lib abi config with hinit | ⟨hnone, hinit⟩
  · rw [hinit]
    constructor
    · intro hvalidated
      cases hres : forEach (appendCamera lib abi) (definitions lib config) [] with
      | none =>
        exact Or.inr ((forEach_eq_none_iff appendCamera_passes_iff appendCamera_ends_iff _ _).mp
          hres)
      | some res =>
        obtain ⟨accepted, cameras⟩ := res
        rw [hres] at hvalidated
        cases accepted with
        | false => exact absurd hvalidated (forEach_cameras_returned hres)
        | true =>
          left
          intro element hmem
          obtain ⟨camera, hdescribes⟩ := exists_of_forall₂ hvalidated hmem
          exact hdescribes.wellFormed
    · intro hcases
      rcases hcases with hall | hends
      · obtain ⟨read, hread, hdescribes⟩ := forEach_cameras abi _ hall []
        rw [hread]
        exact hdescribes
      · rw [(forEach_eq_none_iff appendCamera_passes_iff appendCamera_ends_iff _ _).mpr hends]
        trivial
  · rw [hinit, hnone]
    simp

def leftText : String := "\x7b\"camera_definitions\": [\x7b\"orientation\": \"left\"\x7d]\x7d"

def leftDocument : Value :=
  .object [("camera_definitions", .array [.object [("orientation", .string "left")]])]

def leftLibrary : Library where
  parse text := if text = leftText then some leftDocument else none
  nullIsObject := false

/-- The definition is refused, and the camera that was appended for it stays. -/
theorem refused_camera_stays :
    ¬∀ (lib : Library) (abi : Abi) (config : Option String), Validated lib abi config := by
  intro hall
  have hinit : Init leftLibrary .arm64 (some leftText) = some (false, [{}]) := by decide +kernel
  have hvalidated := hall leftLibrary .arm64 (some leftText)
  unfold Validated at hvalidated
  rw [hinit] at hvalidated
  exact absurd hvalidated (by simp)

end Rpi3Device.Camera

import Mathlib.Tactic

/-!
# The search for a firmware patch

`bcm43xxLocatePatch` follows `bcm43xx_locate_patch`: a directory is read entry by entry,
an entry whose type has the directory bit is searched in turn, and any other entry whose
name starts with the chip name ends the loop over its directory. It ends it with success
only if the name also has the extension ".hcd".

A `Listing` is what `readdir` returns for a directory, in its order, with the listings
of the subdirectories in place. A file system may list a directory without a type, and
the code takes it for a file then. The type of an entry that is no directory is arbitrary.
The types of block devices, sockets and whiteouts contain the directory bit, so the code
tries to open these entries and goes on when that fails.
-/

namespace Rpi3Device.Bluetooth

structure Name where
  chars : List Char
  short : chars.length ≤ 255

inductive FileType
  | unknown | fifo | chr | blk | reg | lnk | sock | wht

def FileType.bits : FileType → ℕ
  | .unknown => 0
  | .fifo => 1
  | .chr => 2
  | .blk => 6
  | .reg => 8
  | .lnk => 10
  | .sock => 12
  | .wht => 14

inductive DirType
  | unknown | dir

def dtDir : ℕ := 4

def DirType.bits : DirType → ℕ
  | .unknown => 0
  | .dir => dtDir

/-- The test `d_type & DT_DIR`. -/
def hasDirBit (bits : ℕ) : Bool := bits &&& dtDir ≠ 0

/-- `dots` stands for the entry "." or, if `up` is set, "..". -/
inductive Listing
  | nil
  | dots (up : Bool) (type : DirType) (rest : Listing)
  | file (name : Name) (type : FileType) (rest : Listing)
  | dir (name : Name) (type : DirType) (sub rest : Listing)

def dotsText (up : Bool) : List Char := if up = true then ['.', '.'] else ['.']

theorem dotsText_short (up : Bool) : (dotsText up).length ≤ 255 := by
  cases up <;> decide

def dotsName (up : Bool) : Name := ⟨dotsText up, dotsText_short up⟩

def fwExt : List Char := ['.', 'h', 'c', 'd']

/-- `name_len - sizeof(FW_EXT) + 1` in `size_t`. -/
def cursExt (nameLen : ℕ) : ℕ := (nameLen + (2 ^ 64 - 5) + 1) % 2 ^ 64

def join (dir : List Char) (name : Name) : List Char := dir ++ '/' :: name.chars

/-- An entry without the directory bit: the loop goes on, or it is left with the return variable
and the location buffer. -/
def matchName (chip dir : List Char) (name : Name) (ret : ℤ) (location : List Char) :
    Option (ℤ × List Char) :=
  if chip.isPrefixOf name.chars then
    if cursExt name.chars.length > name.chars.length then some (ret, location)
    else if name.chars.drop (cursExt name.chars.length) ≠ fwExt then some (ret, location)
    else some (0, join dir name)
  else none

def locateLoop (chip : List Char) : List Char → Listing → ℤ → List Char → ℤ × List Char
  | _, .nil, ret, location => (ret, location)
  | dir, .dots up type rest, ret, location =>
    if hasDirBit type.bits then locateLoop chip dir rest ret location
    else (matchName chip dir (dotsName up) ret location).getD
      (locateLoop chip dir rest ret location)
  | dir, .dir name type sub rest, ret, location =>
    if hasDirBit type.bits then
      let r := locateLoop chip (join dir name) sub (-1) location
      if r.1 = 0 then r else locateLoop chip dir rest r.1 r.2
    else (matchName chip dir name ret location).getD (locateLoop chip dir rest ret location)
  | dir, .file name type rest, ret, location =>
    if hasDirBit type.bits then
      -- `opendir` fails on it and the call returns -1
      locateLoop chip dir rest (-1) location
    else (matchName chip dir name ret location).getD (locateLoop chip dir rest ret location)

def bcm43xxLocatePatch (dir chip : List Char) (listing : Listing) (location : List Char) :
    ℤ × List Char :=
  locateLoop chip dir listing (-1) location

def Name.IsPatch (chip : List Char) (name : Name) : Prop :=
  chip <+: name.chars ∧ fwExt <:+ name.chars

instance (chip : List Char) (name : Name) : Decidable (name.IsPatch chip) :=
  inferInstanceAs (Decidable (_ ∧ _))

def patches (chip : List Char) : List Char → Listing → List (List Char)
  | _, .nil => []
  | dir, .dots _ _ rest => patches chip dir rest
  | dir, .dir name _ sub rest => patches chip (join dir name) sub ++ patches chip dir rest
  | dir, .file name _ rest =>
    (if name.IsPatch chip then [join dir name] else []) ++ patches chip dir rest

def FindsPatch (dir chip : List Char) (listing : Listing) (location : List Char) : Prop :=
  ((bcm43xxLocatePatch dir chip listing location).1 = 0 ↔ patches chip dir listing ≠ []) ∧
    ((bcm43xxLocatePatch dir chip listing location).1 = 0 →
      (bcm43xxLocatePatch dir chip listing location).2 ∈ patches chip dir listing)

/-- The search meets `path` at an entry without the directory bit or, with `rest`, behind it: an
entry that starts with the chip name and lacks the extension hides what is behind it. -/
def MeetsPlain (chip dir : List Char) (name : Name) (rest : Prop) (path : List Char) : Prop :=
  name.IsPatch chip ∧ path = join dir name ∨ ¬ chip <+: name.chars ∧ rest

/-- The first entry with the name of a patch that the search meets has this path. -/
def Meets (chip : List Char) : List Char → Listing → List Char → Prop
  | _, .nil, _ => False
  | dir, .dots up type rest, path =>
    if hasDirBit type.bits then Meets chip dir rest path
    else MeetsPlain chip dir (dotsName up) (Meets chip dir rest path) path
  | dir, .file name type rest, path =>
    if hasDirBit type.bits then Meets chip dir rest path
    else MeetsPlain chip dir name (Meets chip dir rest path) path
  | dir, .dir name type sub rest, path =>
    if hasDirBit type.bits then
      Meets chip (join dir name) sub path ∨
        (∀ inner, ¬ Meets chip (join dir name) sub inner) ∧ Meets chip dir rest path
    else MeetsPlain chip dir name (Meets chip dir rest path) path

theorem cursExt_gt_iff {n : ℕ} (h : n ≤ 255) : cursExt n > n ↔ n < 4 := by
  unfold cursExt
  omega

theorem cursExt_eq {n : ℕ} (h : n ≤ 255) (h4 : 4 ≤ n) : cursExt n = n - 4 := by
  unfold cursExt
  omega

theorem extension_iff (name : Name) : fwExt <:+ name.chars ↔
    ¬ cursExt name.chars.length > name.chars.length ∧
      name.chars.drop (cursExt name.chars.length) = fwExt := by
  rw [cursExt_gt_iff name.short]
  by_cases h4 : 4 ≤ name.chars.length
  · rw [cursExt_eq name.short h4]
    constructor
    · intro h
      exact ⟨by omega, (List.suffix_iff_eq_drop.mp h).symm⟩
    · intro hparts
      obtain ⟨-, h⟩ := hparts
      rw [← h]
      exact List.drop_suffix _ _
  · constructor
    · intro h
      have hle := h.length_le
      simp only [fwExt, List.length_cons, List.length_nil] at hle
      omega
    · intro hparts
      obtain ⟨h, -⟩ := hparts
      omega

theorem matchName_eq (chip dir : List Char) (name : Name) (ret : ℤ) (location : List Char) :
    matchName chip dir name ret location =
      if name.IsPatch chip then some (0, join dir name)
      else if chip <+: name.chars then some (ret, location) else none := by
  unfold matchName
  by_cases hchip : chip <+: name.chars
  · rw [if_pos (List.isPrefixOf_iff_prefix.mpr hchip), if_pos hchip]
    by_cases hext : fwExt <:+ name.chars
    · obtain ⟨hlong, htail⟩ := (extension_iff name).mp hext
      have hpatch : name.IsPatch chip := ⟨hchip, hext⟩
      rw [if_neg hlong, if_neg (not_not.mpr htail), if_pos hpatch]
    · have hpatch : ¬ name.IsPatch chip := fun h => hext h.2
      rw [if_neg hpatch]
      by_cases hlong : cursExt name.chars.length > name.chars.length
      · rw [if_pos hlong]
      · have htail : name.chars.drop (cursExt name.chars.length) ≠ fwExt :=
          fun htail => hext ((extension_iff name).mpr ⟨hlong, htail⟩)
        rw [if_neg hlong, if_pos htail]
  · have hpatch : ¬ name.IsPatch chip := fun h => hchip h.1
    rw [if_neg (by rwa [List.isPrefixOf_iff_prefix]), if_neg hpatch, if_neg hchip]

structure Searched (location : List Char) (meets : List Char → Prop) (r : ℤ × List Char) :
    Prop where
  met : ∀ path, meets path → r = (0, path)
  missed : (∀ path, ¬ meets path) → r.1 ≠ 0 ∧ r.2 = location

section Search
variable {chip dir location : List Char} {ret : ℤ}

theorem searched_plain {meets : List Char → Prop} {r : ℤ × List Char}
    (h : Searched location meets r) (hret : ret ≠ 0) (name : Name) :
    Searched location (fun path => MeetsPlain chip dir name (meets path) path)
      ((matchName chip dir name ret location).getD r) := by
  rw [matchName_eq]
  by_cases hpatch : name.IsPatch chip
  · rw [if_pos hpatch, Option.getD_some]
    refine ⟨fun path hmet => ?_, fun hnone => absurd (.inl ⟨hpatch, rfl⟩) (hnone (join dir name))⟩
    rcases hmet with ⟨-, rfl⟩ | ⟨hother, -⟩
    · rfl
    · exact absurd hpatch.1 hother
  · rw [if_neg hpatch]
    by_cases hchip : chip <+: name.chars
    · rw [if_pos hchip, Option.getD_some]
      refine ⟨fun path hmet => ?_, fun _ => ⟨hret, rfl⟩⟩
      rcases hmet with ⟨hyes, -⟩ | ⟨hother, -⟩
      · exact absurd hyes hpatch
      · exact absurd hchip hother
    · rw [if_neg hchip, Option.getD_none]
      refine ⟨fun path hmet => ?_, fun hnone => h.missed fun path hmeets => ?_⟩
      · rcases hmet with ⟨hyes, -⟩ | ⟨-, hmeets⟩
        · exact absurd hyes hpatch
        · exact h.met path hmeets
      · exact hnone path (.inr ⟨hchip, hmeets⟩)

theorem searched_locateLoop (listing : Listing) (hret : ret ≠ 0) :
    Searched location (Meets chip dir listing) (locateLoop chip dir listing ret location) := by
  induction listing generalizing dir ret location with
  | nil => exact ⟨fun path hmet => hmet.elim, fun _ => ⟨hret, rfl⟩⟩
  | dots up type rest ih =>
    by_cases hdir : hasDirBit type.bits = true
    · simpa only [locateLoop, Meets, hdir, if_true] using ih hret
    · simpa only [locateLoop, Meets, hdir, Bool.false_eq_true, if_false]
        using searched_plain (ih hret) hret _
  | file name type rest ih =>
    by_cases hdir : hasDirBit type.bits = true
    · simpa only [locateLoop, Meets, hdir, if_true] using ih (by decide : (-1 : ℤ) ≠ 0)
    · simpa only [locateLoop, Meets, hdir, Bool.false_eq_true, if_false]
        using searched_plain (ih hret) hret _
  | dir name type sub rest ihSub ihRest =>
    by_cases hdir : hasDirBit type.bits = true
    · have hsub : Searched location (Meets chip (join dir name) sub)
          (locateLoop chip (join dir name) sub (-1) location) := ihSub (by decide)
      simp only [locateLoop, Meets, hdir, if_true]
      by_cases hfound : ∃ path, Meets chip (join dir name) sub path
      · obtain ⟨found, hfound⟩ := hfound
        rw [hsub.met found hfound, if_pos rfl]
        refine ⟨fun path hmet => ?_, fun hnone => absurd (.inl hfound) (hnone found)⟩
        rcases hmet with hinside | ⟨hnone, -⟩
        · rw [← hsub.met path hinside, hsub.met found hfound]
        · exact absurd hfound (hnone found)
      · have hnone := not_exists.mp hfound
        obtain ⟨hfailed, hsame⟩ := hsub.missed hnone
        have hrest : Searched location (Meets chip dir rest)
            (locateLoop chip dir rest (locateLoop chip (join dir name) sub (-1) location).1
              location) := ihRest hfailed
        rw [if_neg hfailed, hsame]
        refine ⟨fun path hmet => ?_, fun hmissed => hrest.missed fun path hmet => ?_⟩
        · rcases hmet with hinside | ⟨-, hmet⟩
          · exact absurd hinside (hnone path)
          · exact hrest.met path hmet
        · exact hmissed path (.inr ⟨hnone, hmet⟩)
    · simpa only [locateLoop, Meets, hdir, Bool.false_eq_true, if_false]
        using searched_plain (ihRest hret) hret _

end Search

/-- A directory that is listed without a type and named like a patch is returned for one. -/
example : bcm43xxLocatePatch ['/', 'f', 'w'] ['B']
    (.dir ⟨['B', '.', 'h', 'c', 'd'], by decide⟩ .unknown .nil .nil) [] =
      (0, ['/', 'f', 'w', '/', 'B', '.', 'h', 'c', 'd']) := by
  decide

end Rpi3Device.Bluetooth

import Rpi3Device.BoundedLoop
import Rpi3Device.HexText

/-!
# The device address as a string

`bachk` checks the string group by group, `str2ba` reads the six groups from the
last byte of the address to the first, and the attach program derives the string
from the end of its sixth argument. A pointer into a string is the rest of it.
-/

namespace Rpi3Device.Bluetooth
open BoundedLoop HexText

structure CString where
  bytes : List UInt8
  nonzero : 0 ∉ bytes

def deref (str : List UInt8) : UInt8 := str.headD 0

def bachkBody (str : List UInt8) : List UInt8 ⊕ Int32 :=
  if deref str = 0 then .inr 0
  else if ¬ isHexDigit (deref str) then .inr (-1)
  else
    let str := str.tail
    if ¬ isHexDigit (deref str) then .inr (-1)
    else
      let str := str.tail
      if deref str = 0 then .inr 0
      else if deref str ≠ 58 then .inr (-1)
      else .inl str.tail

def bachk : Option CString → Int32
  | none => -1
  | some str =>
    if str.bytes.length ≠ 17 then -1 else measured bachkBody List.length 0 str.bytes

abbrev Bdaddr := Fin 6 → UInt8

def longBits (arm64 : Bool) : ℕ := if arm64 then 64 else 32

def storeGroups (bits : ℕ) : List (Fin 6) → List UInt8 → Bdaddr → Bdaddr
  | [], _, ba => ba
  | i :: is, str, ba =>
    storeGroups bits is (str.drop 3)
      (Function.update ba i (UInt8.ofNat (strtol bits str % 256).toNat))

def str2ba (arm64 : Bool) (str : Option CString) (ba : Bdaddr) : Int32 × Bdaddr :=
  if bachk str < 0 then (-1, fun _ => 0)
  else (0, storeGroups (longBits arm64) [5, 4, 3, 2, 1, 0] ((str.map CString.bytes).getD []) ba)

/-- The text is `n` groups of two hexadecimal digits with colons between them. -/
structure HexGroups (n : ℕ) (text : List UInt8) (groups : List (List UInt8)) : Prop where
  count : groups.length = n
  digits : ∀ g ∈ groups, g.length = 2 ∧ ∀ c ∈ g, isHexDigit c = true
  text : text = [58].intercalate groups

section Groups
variable {n : ℕ} {a b c : UInt8} {text : List UInt8} {groups : List (List UInt8)}

theorem intercalate_cons_cons (g g' : List UInt8) :
    [58].intercalate (g :: g' :: groups) = g ++ 58 :: [58].intercalate (g' :: groups) := by
  simp [List.intercalate]

theorem pair_iff {g : List UInt8} : (g.length = 2 ∧ ∀ c ∈ g, isHexDigit c = true) ↔
    ∃ a b, g = [a, b] ∧ isHexDigit a = true ∧ isHexDigit b = true := by
  constructor
  · intro h
    obtain ⟨a, b, rfl⟩ := List.length_eq_two.mp h.1
    exact ⟨a, b, rfl, h.2 a (by simp), h.2 b (by simp)⟩
  · intro h
    obtain ⟨a, b, rfl, ha, hb⟩ := h
    exact ⟨rfl, by simp [ha, hb]⟩

theorem hexGroups_last : HexGroups 1 [a, b] groups ↔
    groups = [[a, b]] ∧ isHexDigit a = true ∧ isHexDigit b = true := by
  constructor
  · intro h
    obtain ⟨g, rfl⟩ := List.length_eq_one_iff.mp h.count
    obtain ⟨a', b', rfl, ha, hb⟩ := pair_iff.mp (h.digits g (by simp))
    have htext : [a, b] = [a', b'] := h.text
    obtain ⟨rfl, rfl⟩ : a = a' ∧ b = b' := by simpa using htext
    exact ⟨rfl, ha, hb⟩
  · intro h
    obtain ⟨rfl, ha, hb⟩ := h
    exact ⟨rfl, by simp [ha, hb], rfl⟩

theorem hexGroups_cons : HexGroups (n + 2) (a :: b :: c :: text) groups ↔
    isHexDigit a = true ∧ isHexDigit b = true ∧ c = 58 ∧
      ∃ rest, groups = [a, b] :: rest ∧ HexGroups (n + 1) text rest := by
  constructor
  · intro h
    obtain ⟨hcount, hdigits, htext⟩ := h
    obtain ⟨g, rest, rfl⟩ := List.exists_cons_of_length_eq_add_one hcount
    have hrest : rest.length = n + 1 := by simpa using hcount
    obtain ⟨hg, hothers⟩ := List.forall_mem_cons.mp hdigits
    obtain ⟨a', b', rfl, ha, hb⟩ := pair_iff.mp hg
    obtain ⟨g', rest', rfl⟩ := List.exists_cons_of_length_eq_add_one hrest
    rw [intercalate_cons_cons] at htext
    simp only [List.cons_append, List.nil_append, List.cons.injEq] at htext
    obtain ⟨rfl, rfl, rfl, rfl⟩ := htext
    exact ⟨ha, hb, rfl, _, rfl, hrest, hothers, rfl⟩
  · intro h
    obtain ⟨ha, hb, rfl, rest, rfl, hcount, hdigits, rfl⟩ := h
    obtain ⟨g', rest', rfl⟩ := List.exists_cons_of_length_eq_add_one hcount
    refine ⟨by simpa using hcount, ?_, ?_⟩
    · rw [List.forall_mem_cons]
      exact ⟨⟨rfl, by simp [ha, hb]⟩, hdigits⟩
    · rw [intercalate_cons_cons]
      rfl

theorem HexGroups.length (h : HexGroups (n + 1) text groups) : text.length = 3 * n + 2 := by
  induction n generalizing text groups with
  | zero =>
    obtain ⟨g, rfl⟩ := List.length_eq_one_iff.mp h.count
    rw [h.text]
    simpa using (h.digits g (by simp)).1
  | succ n ih =>
    obtain ⟨hcount, hdigits, htext⟩ := h
    obtain ⟨g, rest, rfl⟩ := List.exists_cons_of_length_eq_add_one hcount
    obtain ⟨hg, hdigits⟩ := List.forall_mem_cons.mp hdigits
    have hrest : rest.length = n + 1 := by simpa using hcount
    obtain ⟨g', rest', rfl⟩ := List.exists_cons_of_length_eq_add_one hrest
    have hlen := ih ⟨hrest, hdigits, rfl⟩
    rw [htext, intercalate_cons_cons, List.length_append, List.length_cons, hg.1, hlen]
    ring

theorem bachkBody_decreases : Decreases bachkBody List.length := by
  intro str str' h
  have hnext : str ≠ [] ∧ str' = str.tail.tail.tail := by
    unfold bachkBody at h
    grind [deref]
  obtain ⟨hne, rfl⟩ := hnext
  have hpos := List.length_pos_iff.mpr hne
  simp only [List.length_tail]
  omega

theorem bachkBody_last (ha : a ≠ 0) : bachkBody [a, b] =
    .inr (if isHexDigit a = true ∧ isHexDigit b = true then 0 else -1) := by
  cases hdigit : isHexDigit a with
  | false => simp [bachkBody, deref, ha, hdigit]
  | true =>
    cases hdigit' : isHexDigit b with
    | false => simp [bachkBody, deref, ha, hdigit, hdigit']
    | true => simp [bachkBody, deref, ha, hdigit, hdigit']

theorem bachkBody_group (b : UInt8) (text : List UInt8) (ha : a ≠ 0) (hc : c ≠ 0) :
    bachkBody (a :: b :: c :: text) =
    if isHexDigit a = true ∧ isHexDigit b = true ∧ c = 58 then .inl text else .inr (-1) := by
  cases hdigit : isHexDigit a with
  | false => simp [bachkBody, deref, ha, hdigit]
  | true =>
    cases hdigit' : isHexDigit b with
    | false => simp [bachkBody, deref, ha, hdigit, hdigit']
    | true =>
      by_cases hcolon : c = 58
      · simp [bachkBody, deref, ha, hdigit, hdigit', hcolon]
      · simp [bachkBody, deref, ha, hc, hdigit, hdigit', hcolon]

theorem bachk_loop (hlen : text.length = 3 * n + 2) (hzero : 0 ∉ text) :
    (∃ groups, HexGroups (n + 1) text groups) ∧ measured bachkBody List.length 0 text = 0 ∨
      (¬ ∃ groups, HexGroups (n + 1) text groups) ∧
        measured bachkBody List.length 0 text = -1 := by
  induction n generalizing text with
  | zero =>
    obtain ⟨a, b, rfl⟩ := List.length_eq_two.mp hlen
    have ha : a ≠ 0 := fun h => hzero (by simp [h])
    rw [measured_exit (bachkBody_last ha)]
    by_cases hdigits : isHexDigit a = true ∧ isHexDigit b = true
    · left
      exact ⟨⟨_, hexGroups_last.mpr ⟨rfl, hdigits⟩⟩, if_pos hdigits⟩
    · right
      refine ⟨fun h => ?_, if_neg hdigits⟩
      obtain ⟨groups, hgroups⟩ := h
      exact hdigits (hexGroups_last.mp hgroups).2
  | succ n ih =>
    obtain ⟨a, b, c, text, rfl⟩ : ∃ a b c t, text = a :: b :: c :: t := by
      match text, hlen with
      | a :: b :: c :: t, _ => exact ⟨a, b, c, t, rfl⟩
    have ha : a ≠ 0 := fun h => hzero (by simp [h])
    have hc : c ≠ 0 := fun h => hzero (by simp [h])
    have hrest : 0 ∉ text := fun h => hzero (by simp [h])
    have hbody := bachkBody_group b text ha hc
    by_cases hgroup : isHexDigit a = true ∧ isHexDigit b = true ∧ c = 58
    · rw [if_pos hgroup] at hbody
      rw [measured_continue bachkBody_decreases 0 hbody]
      obtain ⟨ha, hb, hc⟩ := hgroup
      have hlen' : text.length = 3 * n + 2 := by
        simp only [List.length_cons] at hlen
        omega
      refine (ih hlen' hrest).imp (And.imp_left ?_) (And.imp_left ?_)
      · intro h
        obtain ⟨groups, hgroups⟩ := h
        exact ⟨_, hexGroups_cons.mpr ⟨ha, hb, hc, groups, rfl, hgroups⟩⟩
      · intro hnone h
        obtain ⟨groups, hgroups⟩ := h
        obtain ⟨-, -, -, rest, -, hrest⟩ := hexGroups_cons.mp hgroups
        exact hnone ⟨rest, hrest⟩
    · right
      rw [if_neg hgroup] at hbody
      refine ⟨fun h => ?_, measured_exit hbody⟩
      obtain ⟨groups, hgroups⟩ := h
      obtain ⟨ha, hb, hc, -⟩ := hexGroups_cons.mp hgroups
      exact hgroup ⟨ha, hb, hc⟩

theorem bachk_spec (str : CString) :
    (∃ groups, HexGroups 6 str.bytes groups) ∧ bachk (some str) = 0 ∨
      (¬ ∃ groups, HexGroups 6 str.bytes groups) ∧ bachk (some str) = -1 := by
  by_cases hlen : str.bytes.length = 17
  · have hloop := bachk_loop (n := 5) hlen str.nonzero
    rwa [bachk, if_neg (not_not.mpr hlen)]
  · right
    refine ⟨fun h => ?_, if_pos hlen⟩
    obtain ⟨groups, hgroups⟩ := h
    exact hlen hgroups.length

def groupByte (g : List UInt8) : UInt8 := UInt8.ofNat (textValue g)

def reversed (groups : List (List UInt8)) : Bdaddr := fun i => groupByte (groups.getD (5 - i) [])

theorem strtol_group (arm64 : Bool) (ha : isHexDigit a = true) (hb : isHexDigit b = true)
    {rest : List UInt8} (hrest : ∀ c ∈ rest.head?, isHexDigit c = false) :
    UInt8.ofNat (strtol (longBits arm64) (a :: b :: rest) % 256).toNat = groupByte [a, b] := by
  have hbits : 9 ≤ longBits arm64 := by cases arm64 <;> decide
  have hvalue := textValue_pair_lt ha hb
  have hmod : ((textValue [a, b] : ℤ) % 256).toNat = textValue [a, b] := by omega
  rw [strtol_pair hbits ha hb hrest, hmod, groupByte]

theorem storeGroups_eq (arm64 : Bool) (is : List (Fin 6)) (his : is.length = n + 1)
    (h : HexGroups (n + 1) text groups) (ba : Bdaddr) :
    storeGroups (longBits arm64) is text ba =
      (is.zip groups).foldl (fun ba p => Function.update ba p.1 (groupByte p.2)) ba := by
  induction n generalizing is text groups ba with
  | zero =>
    obtain ⟨i, rfl⟩ := List.length_eq_one_iff.mp his
    obtain ⟨a, b, rfl⟩ := List.length_eq_two.mp h.length
    obtain ⟨rfl, ha, hb⟩ := hexGroups_last.mp h
    rw [storeGroups, strtol_group arm64 ha hb (by simp)]
    rfl
  | succ n ih =>
    obtain ⟨i, is, rfl⟩ := List.exists_cons_of_length_eq_add_one his
    obtain ⟨a, b, c, rest, rfl⟩ : ∃ a b c t, text = a :: b :: c :: t := by
      match text, h.length with
      | a :: b :: c :: t, _ => exact ⟨a, b, c, t, rfl⟩
    obtain ⟨ha, hb, rfl, groups, rfl, hgroups⟩ := hexGroups_cons.mp h
    have hcolon : ∀ c ∈ (58 :: rest).head?, isHexDigit c = false := by
      intro c hc
      obtain rfl := Option.some.inj hc
      decide
    rw [storeGroups, strtol_group arm64 ha hb hcolon]
    exact ih is (by simpa using his) hgroups _

theorem str2ba_groups (arm64 : Bool) {str : CString} (h : HexGroups 6 str.bytes groups)
    (ba : Bdaddr) : str2ba arm64 (some str) ba = (0, reversed groups) := by
  have hcheck : bachk (some str) = 0 := by
    rcases bachk_spec str with hspec | hspec
    · exact hspec.2
    · exact absurd ⟨groups, h⟩ hspec.1
  have hstored := storeGroups_eq arm64 [5, 4, 3, 2, 1, 0] rfl h ba
  have hgroups : ∃ g₀ g₁ g₂ g₃ g₄ g₅, groups = [g₀, g₁, g₂, g₃, g₄, g₅] := by
    match groups, h.count with
    | [g₀, g₁, g₂, g₃, g₄, g₅], _ => exact ⟨g₀, g₁, g₂, g₃, g₄, g₅, rfl⟩
  obtain ⟨g₀, g₁, g₂, g₃, g₄, g₅, rfl⟩ := hgroups
  rw [str2ba, hcheck, if_neg (by decide)]
  refine congrArg (Prod.mk 0) (hstored.trans (funext fun i => ?_))
  fin_cases i <;> simp [reversed, Function.update]

theorem str2ba_otherwise (arm64 : Bool) {str : CString}
    (h : ¬ ∃ groups, HexGroups 6 str.bytes groups) (ba : Bdaddr) :
    str2ba arm64 (some str) ba = (-1, fun _ => 0) := by
  have hcheck : bachk (some str) = -1 := by
    rcases bachk_spec str with hspec | hspec
    · exact absurd hspec.1 h
    · exact hspec.2
  rw [str2ba, hcheck, if_pos (by decide)]

end Groups

def nibble (ch : UInt8) : UInt8 :=
  if 48 ≤ ch ∧ ch ≤ 57 then ch - 48
  else if 65 ≤ ch ∧ ch ≤ 70 then ch - 65 + 10
  else if 97 ≤ ch ∧ ch ≤ 102 then ch - 97 + 10
  else 0

/-- The three bytes `b`, from the last six characters. -/
def derivedBytes (arg : CString) : ℕ → UInt8 :=
  let len := Int32.ofNat arg.bytes.length
  if 6 ≤ len then
    let p := arg.bytes.drop (len.toInt.toNat - 6)
    (List.range 6).foldl (fun b idx =>
      Function.update b (idx / 2) (b (idx / 2) * 16 + nibble (deref (p.drop idx)))) fun _ => 0
  else fun _ => 0

def digitOrZero (ch : UInt8) : ℕ := if isHexDigit ch = true then digitValue ch else 0

/-- The byte that two characters of the argument spell: the `k`-th two of the last six, as `len`
counts them. -/
def spelledByte (arg : CString) (k : ℕ) : UInt8 :=
  let len := (Int32.ofNat arg.bytes.length).toInt
  if 6 ≤ len then
    UInt8.ofNat (16 * digitOrZero (arg.bytes.getD (len.toNat - 6 + 2 * k) 0) +
      digitOrZero (arg.bytes.getD (len.toNat - 5 + 2 * k) 0))
  else 0

theorem nibble_eq (ch : UInt8) : nibble ch = UInt8.ofNat (digitOrZero ch) := by
  have hall : ∀ n : Fin 256, nibble (.ofFin n) = UInt8.ofNat (digitOrZero (.ofFin n)) := by
    decide +kernel
  exact hall ch.toFin

theorem deref_drop (str : List UInt8) (i : ℕ) : deref (str.drop i) = str.getD i 0 := by
  rw [deref, List.headD_eq_head?_getD, List.head?_drop, List.getD_eq_getElem?_getD]

theorem gatherPairs (v : ℕ → UInt8) {k : ℕ} (hk : k < 3) :
    (List.range 6).foldl (fun b idx => Function.update b (idx / 2) (b (idx / 2) * 16 + v idx))
      (fun _ => (0 : UInt8)) k = 16 * v (2 * k) + v (2 * k + 1) := by
  have hthree : k = 0 ∨ k = 1 ∨ k = 2 := by omega
  rcases hthree with rfl | rfl | rfl
  · simp [List.range_succ, Function.update, UInt8.mul_comm]
  · simp [List.range_succ, Function.update, UInt8.mul_comm]
  · simp [List.range_succ, Function.update, UInt8.mul_comm]

theorem derivedBytes_eq (arg : CString) {k : ℕ} (hk : k < 3) :
    derivedBytes arg k = spelledByte arg k := by
  unfold derivedBytes spelledByte
  have hlen : 6 ≤ Int32.ofNat arg.bytes.length ↔ 6 ≤ (Int32.ofNat arg.bytes.length).toInt :=
    Int32.le_iff_toInt_le
  by_cases h : 6 ≤ (Int32.ofNat arg.bytes.length).toInt
  · have hsecond : (Int32.ofNat arg.bytes.length).toInt.toNat - 5 + 2 * k =
        (Int32.ofNat arg.bytes.length).toInt.toNat - 6 + (2 * k + 1) := by omega
    simp only [hlen, h, if_true, List.drop_drop, deref_drop, hsecond]
    rw [gatherPairs _ hk, nibble_eq, nibble_eq, UInt8.ofNat_add, UInt8.ofNat_mul]
    rfl
  · simp only [hlen, h, if_false]

def bdaddr (arg : CString) : CString where
  bytes := [98, 56, 58, 50, 55, 58, 101, 98, 58] ++ printed (derivedBytes arg 0 ^^^ 0xaa) ++
    58 :: printed (derivedBytes arg 1 ^^^ 0xaa) ++ 58 :: printed (derivedBytes arg 2 ^^^ 0xaa)
  nonzero := by
    have hprinted (x : UInt8) : 0 ∉ printed x := by
      intro h
      exact absurd (printed_digits x 0 h) (by decide)
    simp [hprinted]

theorem bdaddr_groups (arg : CString) : HexGroups 6 (bdaddr arg).bytes
    [[98, 56], [50, 55], [101, 98], printed (derivedBytes arg 0 ^^^ 0xaa),
      printed (derivedBytes arg 1 ^^^ 0xaa), printed (derivedBytes arg 2 ^^^ 0xaa)] := by
  refine ⟨rfl, ?_, ?_⟩
  · have hprinted (x : UInt8) : (printed x).length = 2 ∧ ∀ c ∈ printed x, isHexDigit c = true :=
      ⟨rfl, printed_digits x⟩
    intro g hg
    simp only [List.mem_cons, List.not_mem_nil, or_false] at hg
    rcases hg with rfl | rfl | rfl | rfl | rfl | rfl
    · exact pair_iff.mpr ⟨98, 56, rfl, by decide, by decide⟩
    · exact pair_iff.mpr ⟨50, 55, rfl, by decide, by decide⟩
    · exact pair_iff.mpr ⟨101, 98, rfl, by decide, by decide⟩
    · exact hprinted _
    · exact hprinted _
    · exact hprinted _
  · simp [bdaddr, List.intercalate]

theorem groupByte_printed (x : UInt8) : groupByte (printed x) = x := by
  rw [groupByte, textValue_printed, UInt8.ofNat_toNat]

/-- The address that the argument spells, from the least significant byte on. -/
def derivedAddress (arg : CString) : Bdaddr :=
  ![spelledByte arg 2 ^^^ 0xaa, spelledByte arg 1 ^^^ 0xaa, spelledByte arg 0 ^^^ 0xaa,
    0xeb, 0x27, 0xb8]

theorem reversed_bdaddr (arg : CString) :
    reversed [[98, 56], [50, 55], [101, 98], printed (derivedBytes arg 0 ^^^ 0xaa),
      printed (derivedBytes arg 1 ^^^ 0xaa), printed (derivedBytes arg 2 ^^^ 0xaa)] =
    derivedAddress arg := by
  rw [derivedBytes_eq arg (by decide), derivedBytes_eq arg (by decide),
    derivedBytes_eq arg (by decide)]
  funext i
  fin_cases i <;> simp [reversed, derivedAddress, groupByte_printed] <;> decide

theorem str2ba_codec (arm64 : Bool) (ba : Bdaddr) :
    (∀ (str : CString) (groups : List (List UInt8)), HexGroups 6 str.bytes groups →
      str2ba arm64 (some str) ba = (0, reversed groups)) ∧
    (∀ str : CString, (¬ ∃ groups, HexGroups 6 str.bytes groups) →
      str2ba arm64 (some str) ba = (-1, fun _ => 0)) ∧
    ∀ arg : CString, str2ba arm64 (some (bdaddr arg)) ba = (0, derivedAddress arg) := by
  refine ⟨fun str groups h => str2ba_groups arm64 h ba,
    fun str h => str2ba_otherwise arm64 h ba, fun arg => ?_⟩
  rw [str2ba_groups arm64 (bdaddr_groups arg) ba, reversed_bdaddr]

def sampleAddress : CString where
  bytes := [52, 51, 58, 97, 52, 58, 48, 48, 58, 48, 70, 58, 102, 102, 58, 101, 49]
  nonzero := by decide

def sampleArgument : CString where
  bytes := [49, 98, 51, 120, 48, 70, 57]
  nonzero := by decide

theorem str2ba_codec_sample : HexGroups 6 sampleAddress.bytes
      [[52, 51], [97, 52], [48, 48], [48, 70], [102, 102], [101, 49]] ∧
    str2ba false (some sampleAddress) (fun _ => 0) =
      (0, ![0xe1, 0xff, 0x0f, 0x00, 0xa4, 0x43]) ∧
    str2ba false (some (bdaddr sampleArgument)) (fun _ => 0) =
      (0, ![0xf9 ^^^ 0xaa, 0x00 ^^^ 0xaa, 0xb3 ^^^ 0xaa, 0xeb, 0x27, 0xb8]) := by
  have hgroups : HexGroups 6 sampleAddress.bytes
      [[52, 51], [97, 52], [48, 48], [48, 70], [102, 102], [101, 49]] :=
    ⟨rfl, by simp [isHexDigit], rfl⟩
  obtain ⟨haccepted, -, hderived⟩ := str2ba_codec false fun _ => 0
  refine ⟨hgroups, (haccepted sampleAddress _ hgroups).trans ?_, (hderived sampleArgument).trans ?_⟩
  · exact congrArg (Prod.mk 0) (by decide)
  · exact congrArg (Prod.mk 0) (by decide)

end Rpi3Device.Bluetooth

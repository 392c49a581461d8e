import Rpi3Device.Dhcp.ClientOptions

/-!
# Padding between options

Neither walker of an option area knows the pad byte: both take it for the header
of an option and the byte after it for a length. Two pad bytes then read as one
empty option, so padding of even length is skipped. A pad byte before an option
or before the end marker takes its first byte for a length and goes astray.

An area is given by its options, each with the number of pad bytes inserted
before it, and the number inserted before the end marker.
-/

namespace Rpi3Device.Dhcp
open ByteMemory TagLengthValue

structure OptionArea (m : Message) (area : List UInt8) : Prop where
  holds : HoldsAt m.dhcpData (optionsOffset + 4) area
  size : m.mSize = optionsOffset + 4 + area.length
  fits : m.mSize ≤ capacity

structure Complete (e : Entry) : Prop where
  fits : e.Fits
  ne_end : e.tag ≠ optEnd
  ne_pad : e.tag ≠ optPad

def padArea : List (ℕ × Entry) → ℕ → List UInt8
  | [], last => List.replicate last optPad ++ [optEnd]
  | (p, e) :: ops, last => List.replicate p optPad ++ (encode [e] ++ padArea ops last)

/-- Length and value bytes of the option that `getOption` finds. -/
def Message.found (m : Message) (code : UInt8) : Option (UInt8 × List UInt8) :=
  (m.getOption code).map fun r => (r.2, load m.dhcpData (optionsOffset + r.1) r.2.toNat)

theorem OptionArea.optionsSize_eq {m : Message} {area : List UInt8} (h : OptionArea m area)
    (hne : 0 < area.length) : m.optionsSize = 4 + area.length := by
  have hsize := h.size
  have hlt : ¬ m.mSize ≤ optionsOffset := by omega
  simp only [Message.optionsSize, hlt, if_false]
  omega

theorem OptionArea.found_encoded {m : Message} {es : List Entry}
    (h : OptionArea m (encode es ++ [optEnd])) (hfits : ∀ e ∈ es, e.Fits)
    (hend : ∀ e ∈ es, e.tag ≠ optEnd) (code : UInt8) :
    m.found code = (es.find? fun e => e.tag = code).map fun e => (e.length, e.value) := by
  have hsize : m.optionsSize = 4 + (encode es).length + 1 := by
    rw [h.optionsSize_eq (by simp), List.length_append, List.length_singleton, Nat.add_assoc]
  have hopt : m.getOption code = _ := getOptionFrom_encoded code h.holds hsize hfits hend
  rw [Message.found, hopt, ← locate_map_snd code es 4]
  cases hl : locate code es 4 with
  | none => rfl
  | some r =>
    obtain ⟨p, e⟩ := r
    have hvalue := locate_holdsAt h.holds hl
    have hmem : e ∈ es := by
      have hfind := locate_map_snd code es 4
      rw [hl] at hfind
      exact List.mem_of_find?_eq_some hfind.symm
    simp only [Option.map_some, (hfits e hmem).length_toNat, hvalue.load_eq]

theorem OptionArea.readOptions_encoded {m : Message} {es : List Entry}
    (h : OptionArea m (encode es ++ [optEnd])) (hfits : ∀ e ∈ es, e.Fits)
    (hend : ∀ e ∈ es, e.tag ≠ optEnd) :
    m.readOptions = (true, es.foldl DhcpInfo.readEntry DhcpInfo.zero) := by
  refine Message.readOptionsFrom_encoded h.holds ?_ hfits hend _
  rw [h.size, List.length_append, List.length_singleton]
  omega

def padEntry : Entry := ⟨optPad, []⟩

theorem replicate_optPad (n : ℕ) : List.replicate n optPad =
    encode (List.replicate (n / 2) padEntry) ++ List.replicate (n % 2) optPad := by
  have hpairs (k : ℕ) :
      encode (List.replicate k padEntry) = List.replicate (2 * k) optPad := by
    induction k with
    | zero => rfl
    | succ k ih =>
      rw [List.replicate_succ, encode, ih, Nat.mul_succ, List.replicate_succ,
        List.replicate_succ]
      rfl
  rw [hpairs, ← List.replicate_add, Nat.div_add_mod]

def padEntries : List (ℕ × Entry) → ℕ → List Entry
  | [], last => List.replicate (last / 2) padEntry
  | (p, e) :: ops, last => List.replicate (p / 2) padEntry ++ e :: padEntries ops last

theorem padArea_eq_encode {ops : List (ℕ × Entry)} (last : ℕ) (hops : ∀ o ∈ ops, Even o.1) :
    padArea ops last =
      encode (padEntries ops last) ++ (List.replicate (last % 2) optPad ++ [optEnd]) := by
  induction ops with
  | nil => rw [padArea, padEntries, ← List.append_assoc, ← replicate_optPad]
  | cons o ops ih =>
    obtain ⟨p, e⟩ := o
    have hp : p % 2 = 0 := Nat.even_iff.mp (hops (p, e) (by simp))
    rw [padArea, ih fun o ho => hops o (by simp [ho]), padEntries, encode_append,
      replicate_optPad p, hp]
    simp [encode]

theorem forall_padEntries {P : Entry → Prop} (hpad : P padEntry) {ops : List (ℕ × Entry)}
    (hops : ∀ o ∈ ops, P o.2) (last : ℕ) : ∀ e ∈ padEntries ops last, P e := by
  induction ops with
  | nil =>
    intro e he
    rw [List.eq_of_mem_replicate he]
    exact hpad
  | cons o ops ih =>
    intro e he
    rcases List.mem_append.mp he with he | he
    · rw [List.eq_of_mem_replicate he]
      exact hpad
    · rcases List.mem_cons.mp he with rfl | he
      · exact hops o (by simp)
      · exact ih (fun o ho => hops o (by simp [ho])) e he

theorem find_padEntries {code : UInt8} (hcode : code ≠ optPad) (ops : List (ℕ × Entry))
    (last : ℕ) : ((padEntries ops last).find? fun e => e.tag = code) =
      (ops.map Prod.snd).find? fun e => e.tag = code := by
  have hskip (k : ℕ) : ((List.replicate k padEntry).find? fun e => e.tag = code) = none := by
    rw [List.find?_eq_none]
    intro e he
    rw [List.eq_of_mem_replicate he, decide_eq_true_eq]
    exact hcode.symm
  induction ops with
  | nil => exact hskip _
  | cons o ops ih => simp only [padEntries, List.find?_append, hskip, Option.none_or,
      List.map_cons, List.find?_cons, ih]

theorem foldl_padEntries (ops : List (ℕ × Entry)) (last : ℕ) (info : DhcpInfo) :
    (padEntries ops last).foldl DhcpInfo.readEntry info =
      (ops.map Prod.snd).foldl DhcpInfo.readEntry info := by
  have hskip (k : ℕ) (info : DhcpInfo) :
      (List.replicate k padEntry).foldl DhcpInfo.readEntry info = info := by
    induction k with
    | zero => rfl
    | succ k ih => exact ih
  induction ops generalizing info with
  | nil => exact hskip _ _
  | cons o ops ih => simp only [padEntries, List.foldl_append, hskip, List.foldl_cons,
      List.map_cons, ih]

section Even
variable {ops : List (ℕ × Entry)} {last : ℕ} {m m' : Message}

theorem padEntry_fits : padEntry.Fits := Nat.zero_lt_succ 255

theorem OptionArea.found_plain (hops : ∀ o ∈ ops, Complete o.2)
    (h : OptionArea m (encode (ops.map Prod.snd) ++ [optEnd])) (code : UInt8) :
    m.found code =
      ((ops.map Prod.snd).find? fun e => e.tag = code).map fun e => (e.length, e.value) :=
  h.found_encoded (List.forall_mem_map.mpr fun o ho => (hops o ho).fits)
    (List.forall_mem_map.mpr fun o ho => (hops o ho).ne_end) code

theorem OptionArea.readOptions_plain (hops : ∀ o ∈ ops, Complete o.2)
    (h : OptionArea m (encode (ops.map Prod.snd) ++ [optEnd])) :
    m.readOptions = (true, (ops.map Prod.snd).foldl DhcpInfo.readEntry DhcpInfo.zero) :=
  h.readOptions_encoded (List.forall_mem_map.mpr fun o ho => (hops o ho).fits)
    (List.forall_mem_map.mpr fun o ho => (hops o ho).ne_end)

variable (hops : ∀ o ∈ ops, Complete o.2)
  (h : OptionArea m (encode (ops.map Prod.snd) ++ [optEnd])) (h' : OptionArea m' (padArea ops last))
  (heven : ∀ o ∈ ops, Even o.1) (hlast : Even last)
include hops h h' heven hlast

theorem found_of_even {code : UInt8} (hcode : code ≠ optPad) : m'.found code = m.found code := by
  rw [padArea_eq_encode last heven, Nat.even_iff.mp hlast] at h'
  rw [h.found_plain hops, ← find_padEntries hcode ops last]
  exact h'.found_encoded (forall_padEntries padEntry_fits (fun o ho => (hops o ho).fits) last)
    (forall_padEntries (by decide) (fun o ho => (hops o ho).ne_end) last) code

theorem readOptions_of_even : m'.readOptions = m.readOptions := by
  rw [padArea_eq_encode last heven, Nat.even_iff.mp hlast] at h'
  rw [h.readOptions_plain hops, ← foldl_padEntries ops last]
  exact h'.readOptions_encoded (forall_padEntries padEntry_fits (fun o ho => (hops o ho).fits) last)
    (forall_padEntries (by decide) (fun o ho => (hops o ho).ne_end) last)

end Even

section Astray
variable {m : Message} {es : List Entry} {tail : List UInt8}

theorem OptionArea.byte_at (h : OptionArea m (encode es ++ tail)) {k : ℕ} (hk : k < tail.length) :
    m.options (4 + (encode es).length + k) = tail[k] := by
  have htail := (holdsAt_append.mp h.holds).2 k hk
  simpa only [Message.options, Nat.add_assoc] using htail

theorem OptionArea.optionsSize_append (h : OptionArea m (encode es ++ tail))
    (htail : 0 < tail.length) :
    m.optionsSize = 4 + (encode es).length + tail.length := by
  rw [h.optionsSize_eq (by rw [List.length_append]; omega), List.length_append, Nat.add_assoc]

theorem OptionArea.readOptions_pad_end (h : OptionArea m (encode es ++ [optPad, optEnd]))
    (hfits : ∀ e ∈ es, e.Fits) (hend : ∀ e ∈ es, e.tag ≠ optEnd) :
    m.readOptions.1 = false := by
  have hsize : m.mSize = optionsOffset + 4 + (encode es).length + [optPad, optEnd].length := by
    rw [h.size, List.length_append, Nat.add_assoc (optionsOffset + 4)]
  have hopts := h.optionsSize_append (by simp)
  have hcode : m.options (4 + (encode es).length) = optPad := h.byte_at (k := 0) (by simp)
  have hlength : m.options (4 + (encode es).length + 1) = optEnd := h.byte_at (k := 1) (by simp)
  have hlong : optionsOffset + optEnd.toNat + (4 + (encode es).length) ≥ m.mSize := by
    have h255 : optEnd.toNat = 255 := rfl
    simp only [List.length_cons, List.length_nil] at hsize
    omega
  simp only [List.length_cons, List.length_nil] at hopts
  rw [Message.readOptions, Message.readOptionsFrom_past h.holds hsize (by simp) hfits hend,
    Message.readOptionsFrom_eq, if_pos (by omega), hcode, hlength, if_neg (by decide),
    if_pos hlong]

theorem OptionArea.found_pad (h : OptionArea m (encode es ++ optPad :: tail))
    (hes : ∀ e ∈ es, Complete e) (htail : 2 ≤ tail.length) : m.found optPad ≠ none := by
  have hopts := h.optionsSize_append (by simp)
  have hcode : m.options (4 + (encode es).length) = optPad := h.byte_at (k := 0) (by simp)
  have hopt : m.getOption optPad =
      some (4 + (encode es).length + 2, m.options (4 + (encode es).length + 1)) := by
    rw [Message.getOption, getOptionFrom_past optPad h.holds hopts (by simp)
      (fun e he => (hes e he).fits) (fun e he => (hes e he).ne_end),
      locate_none (fun e he => (hes e he).ne_pad), Option.map_none, Option.none_or,
      Message.getOptionFrom_eq, hcode]
    rw [List.length_cons] at hopts
    rw [if_pos (by omega), if_neg (by decide), if_pos rfl]
  simp [Message.found, hopt]

theorem getOptionFrom_none {code : UInt8} {i : ℕ}
    (h : ∀ j, i ≤ j → j ≠ i + 1 → j < m.optionsSize → m.options j ≠ code) :
    m.getOptionFrom code i = none := by
  induction hn : m.optionsSize - i using Nat.strong_induction_on generalizing i with
  | _ n ih =>
    rw [Message.getOptionFrom_eq]
    by_cases hi : i + 2 < m.optionsSize
    · rw [if_pos hi, if_neg (h i le_rfl (by omega) (by omega))]
      have hnext := ih (m.optionsSize - (i + 2 + (m.options (i + 1)).toNat)) (by omega)
        (fun j hj _ hlt => h j (by omega) (by omega) hlt) rfl
      rw [hnext, ite_self]
    · rw [if_neg hi]

theorem OptionArea.found_after_pad {code : UInt8}
    (h : OptionArea m (encode es ++ optPad :: code :: tail))
    (hes : ∀ e ∈ es, e.Fits ∧ e.tag ≠ optEnd ∧ e.tag ≠ code) (hcode : optPad ≠ code)
    (htail : code ∉ tail) : m.found code = none := by
  have hopts := h.optionsSize_append (by simp)
  have hmiss : m.getOptionFrom code (4 + (encode es).length) = none := by
    refine getOptionFrom_none fun j hj hne hlt => ?_
    obtain ⟨k, rfl⟩ := Nat.exists_eq_add_of_le hj
    have hk : k < (optPad :: code :: tail).length := by omega
    rw [h.byte_at hk]
    match k, hk, hne with
    | 0, _, _ => exact hcode
    | 1, _, hne => exact absurd rfl hne
    | k + 2, hk, _ => exact fun heq => htail (heq ▸ List.getElem_mem (by simpa using hk))
  have hopt : m.getOption code = none := by
    rw [Message.getOption, getOptionFrom_past code h.holds hopts (by simp)
      (fun e he => (hes e he).1) (fun e he => (hes e he).2.1),
      locate_none (fun e he => (hes e he).2.2), hmiss]
    rfl
  rw [Message.found, hopt]
  rfl

end Astray

theorem padArea_first_pad {ops : List (ℕ × Entry)} {last : ℕ} (hops : ∀ o ∈ ops, Complete o.2)
    (hpad : ¬ ((∀ o ∈ ops, o.1 = 0) ∧ last = 0)) : ∃ es tail, (∀ e ∈ es, Complete e) ∧
      padArea ops last = encode es ++ optPad :: tail ∧ (tail = [optEnd] ∨ 2 ≤ tail.length) := by
  induction ops with
  | nil =>
    cases last with
    | zero => simp at hpad
    | succ k =>
      refine ⟨[], List.replicate k optPad ++ [optEnd], by simp, rfl, ?_⟩
      cases k with
      | zero => exact .inl rfl
      | succ k => exact .inr (by simp)
  | cons o ops ih =>
    obtain ⟨p, e⟩ := o
    cases p with
    | zero =>
      obtain ⟨es, tail, hes, harea, htail⟩ :=
        ih (fun o ho => hops o (by simp [ho])) (by simpa using hpad)
      refine ⟨e :: es, tail, ?_, ?_, htail⟩
      · exact List.forall_mem_cons.mpr ⟨hops (0, e) (by simp), hes⟩
      · rw [padArea, harea]
        simp [encode]
    | succ p =>
      refine ⟨[], List.replicate p optPad ++ (encode [e] ++ padArea ops last), by simp, rfl,
        .inr ?_⟩
      simp only [List.length_append, encode_cons_length]
      omega

def plainOption : Entry := ⟨optSubnetMask, []⟩

def strayOption : Entry := ⟨254, []⟩

/-- Empty options for the gaps given, of which the one after the first gap of odd
length is told apart from all others. -/
def strayOptions : List ℕ → List (ℕ × Entry)
  | [] => []
  | p :: gaps =>
    if Even p then (p, plainOption) :: strayOptions gaps
    else (p, strayOption) :: gaps.map fun p => (p, plainOption)

theorem forall_strayOptions {P : Entry → Prop} (hplain : P plainOption) (hstray : P strayOption)
    (gaps : List ℕ) : ∀ o ∈ strayOptions gaps, P o.2 := by
  induction gaps with
  | nil => simp [strayOptions]
  | cons p gaps ih =>
    intro o ho
    rw [strayOptions] at ho
    split_ifs at ho
    · rcases List.mem_cons.mp ho with rfl | ho
      · exact hplain
      · exact ih o ho
    · rcases List.mem_cons.mp ho with rfl | ho
      · exact hstray
      · obtain ⟨q, -, rfl⟩ := List.mem_map.mp ho
        exact hplain

theorem strayOptions_gaps (gaps : List ℕ) : (strayOptions gaps).map Prod.fst = gaps := by
  induction gaps with
  | nil => rfl
  | cons p gaps ih =>
    rw [strayOptions]
    split_ifs
    · rw [List.map_cons, ih]
    · rw [List.map_cons, List.map_map]
      exact congrArg _ (List.map_id gaps)

theorem encode_strayOptions_length (gaps : List ℕ) :
    (encode ((strayOptions gaps).map Prod.snd)).length = 2 * gaps.length := by
  have hempty : ∀ es : List Entry, (∀ e ∈ es, e.value = []) →
      (encode es).length = 2 * es.length := by
    intro es hes
    induction es with
    | nil => rfl
    | cons e es ih =>
      rw [encode_cons_length, hes e (by simp), ih fun e' he' => hes e' (by simp [he'])]
      simp only [List.length_nil, List.length_cons]
      omega
  have hvalue : ∀ o ∈ strayOptions gaps, o.2.value = [] :=
    forall_strayOptions (P := fun e => e.value = []) rfl rfl gaps
  rw [hempty _ (List.forall_mem_map.mpr hvalue), List.length_map,
    ← List.length_map (f := Prod.fst), strayOptions_gaps]

theorem padArea_length (ops : List (ℕ × Entry)) (last : ℕ) : (padArea ops last).length =
    (ops.map Prod.fst).sum + (encode (ops.map Prod.snd)).length + last + 1 := by
  induction ops with
  | nil => simp [padArea, encode]
  | cons o ops ih =>
    obtain ⟨p, e⟩ := o
    have hone : (encode [e]).length = 2 + e.value.length := encode_cons_length e []
    rw [padArea, List.length_append, List.length_append, List.length_replicate, ih, hone,
      List.map_cons, List.map_cons, List.sum_cons, encode_cons_length]
    dsimp only
    omega

theorem strayOption_not_mem (gaps : List ℕ) (last : ℕ) :
    strayOption.tag ∉ padArea (gaps.map fun p => (p, plainOption)) last := by
  have hpads (n : ℕ) : strayOption.tag ∉ List.replicate n optPad := by
    intro hmem
    exact absurd (List.eq_of_mem_replicate hmem) (by decide)
  induction gaps with
  | nil =>
    rw [List.map_nil, padArea, List.mem_append, not_or]
    exact ⟨hpads last, by decide⟩
  | cons p gaps ih =>
    rw [List.map_cons, padArea, List.mem_append, List.mem_append, not_or, not_or]
    exact ⟨hpads p, by decide, ih⟩

theorem padArea_strayOptions {gaps : List ℕ} (last : ℕ) (hodd : ¬ ∀ p ∈ gaps, Even p) :
    strayOption ∈ (strayOptions gaps).map Prod.snd ∧ ∃ es tail,
      (∀ e ∈ es, e.Fits ∧ e.tag ≠ optEnd ∧ e.tag ≠ strayOption.tag) ∧
      padArea (strayOptions gaps) last = encode es ++ optPad :: strayOption.tag :: tail ∧
      strayOption.tag ∉ tail := by
  have hpad : ∀ n, ∀ e ∈ List.replicate n padEntry,
      e.Fits ∧ e.tag ≠ optEnd ∧ e.tag ≠ strayOption.tag := by
    intro n e he
    rw [List.eq_of_mem_replicate he]
    exact ⟨padEntry_fits, by decide, by decide⟩
  induction gaps with
  | nil => simp at hodd
  | cons p gaps ih =>
    by_cases hp : Even p
    · have hrest : ¬ ∀ q ∈ gaps, Even q := by
        intro hall
        exact hodd (List.forall_mem_cons.mpr ⟨hp, hall⟩)
      obtain ⟨hmem, es, tail, hes, harea, htail⟩ := ih hrest
      rw [strayOptions, if_pos hp]
      refine ⟨List.mem_cons_of_mem _ hmem,
        List.replicate (p / 2) padEntry ++ plainOption :: es, tail, ?_, ?_, htail⟩
      · refine List.forall_mem_append.mpr ⟨hpad _, List.forall_mem_cons.mpr ⟨?_, hes⟩⟩
        exact ⟨Nat.zero_lt_succ 255, by decide, by decide⟩
      · rw [padArea, harea, replicate_optPad, Nat.even_iff.mp hp, encode_append]
        simp [encode]
    · rw [strayOptions, if_neg hp]
      refine ⟨by simp, List.replicate (p / 2) padEntry,
        strayOption.length :: padArea (gaps.map fun p => (p, plainOption)) last, hpad _, ?_, ?_⟩
      · rw [padArea, replicate_optPad, Nat.odd_iff.mp (Nat.not_even_iff_odd.mp hp)]
        simp [encode, strayOption]
      · rw [List.mem_cons, not_or]
        exact ⟨by decide, strayOption_not_mem gaps last⟩

theorem OptionArea.found_stray {m : Message} {gaps : List ℕ} {last : ℕ}
    (h : OptionArea m (padArea (strayOptions gaps) last)) (hodd : ¬ ∀ p ∈ gaps, Even p) :
    m.found strayOption.tag = none := by
  obtain ⟨-, es, tail, hes, harea, htail⟩ := padArea_strayOptions last hodd
  rw [harea] at h
  exact h.found_after_pad hes (by decide) htail

theorem OptionArea.readOptions_odd_last {m : Message} {ops : List (ℕ × Entry)} {last : ℕ}
    (hops : ∀ o ∈ ops, Complete o.2) (h : OptionArea m (padArea ops last))
    (heven : ∀ o ∈ ops, Even o.1) (hlast : ¬ Even last) : m.readOptions.1 = false := by
  rw [padArea_eq_encode last heven, Nat.odd_iff.mp (Nat.not_even_iff_odd.mp hlast)] at h
  exact h.readOptions_pad_end
    (forall_padEntries padEntry_fits (fun o ho => (hops o ho).fits) last)
    (forall_padEntries (by decide) (fun o ho => (hops o ho).ne_end) last)

def Message.withArea (area : List UInt8) : Message :=
  ⟨store (fun _ => 0) (optionsOffset + 4) area, optionsOffset + 4 + area.length⟩

theorem optionArea_withArea (area : List UInt8) (h : optionsOffset + 4 + area.length ≤ capacity) :
    OptionArea (Message.withArea area) area :=
  ⟨holdsAt_store _ _ _, rfl, h⟩

theorem transparent_iff_no_pad {ops : List (ℕ × Entry)} {last : ℕ} {m m' : Message}
    (hops : ∀ o ∈ ops, Complete o.2) (h : OptionArea m (encode (ops.map Prod.snd) ++ [optEnd]))
    (h' : OptionArea m' (padArea ops last)) :
    ((∀ code, m'.found code = m.found code) ∧ m'.readOptions = m.readOptions) ↔
      (∀ o ∈ ops, o.1 = 0) ∧ last = 0 := by
  constructor
  · intro hparts
    obtain ⟨hfound, hread⟩ := hparts
    by_contra hpad
    obtain ⟨es, tail, hes, harea, htail⟩ := padArea_first_pad hops hpad
    rw [harea] at h'
    rcases htail with rfl | htail
    · have hfalse := h'.readOptions_pad_end (fun e he => (hes e he).fits)
        (fun e he => (hes e he).ne_end)
      rw [hread, h.readOptions_plain hops] at hfalse
      exact Bool.noConfusion hfalse
    · refine h'.found_pad hes htail ?_
      rw [hfound, h.found_plain hops, Option.map_eq_none_iff, List.find?_eq_none]
      intro e he
      obtain ⟨o, ho, rfl⟩ := List.mem_map.mp he
      simpa using (hops o ho).ne_pad
  · intro hparts
    obtain ⟨hzero, rfl⟩ := hparts
    have heven : ∀ o ∈ ops, Even o.1 := fun o ho => by simp [hzero o ho]
    have hsame : padEntries ops 0 = ops.map Prod.snd := by
      clear h h' hops heven
      induction ops with
      | nil => rfl
      | cons o ops ih =>
        have hgap : o.1 = 0 := hzero o (by simp)
        rw [padEntries, hgap, ih fun o ho => hzero o (by simp [ho])]
        rfl
    rw [padArea_eq_encode 0 heven, hsame] at h'
    refine ⟨fun code => ?_, ?_⟩
    · rw [h.found_plain hops]
      exact OptionArea.found_plain hops h' code
    · rw [h.readOptions_plain hops]
      exact OptionArea.readOptions_plain hops h'

theorem transparent_for_all_iff_even {gaps : List ℕ} {last : ℕ}
    (hfit : optionsOffset + 4 + (gaps.sum + 2 * gaps.length + last + 1) ≤ capacity) :
    (∀ (ops : List (ℕ × Entry)) (m m' : Message), ops.map Prod.fst = gaps →
      (∀ o ∈ ops, Complete o.2) → OptionArea m (encode (ops.map Prod.snd) ++ [optEnd]) →
      OptionArea m' (padArea ops last) →
      (∀ code, code ≠ optPad → m'.found code = m.found code) ∧ m'.readOptions = m.readOptions) ↔
    (∀ p ∈ gaps, Even p) ∧ Even last := by
  constructor
  · intro htransparent
    have hcomplete : ∀ o ∈ strayOptions gaps, Complete o.2 :=
      forall_strayOptions ⟨Nat.zero_lt_succ 255, by decide, by decide⟩
        ⟨Nat.zero_lt_succ 255, by decide, by decide⟩ gaps
    have hlen := encode_strayOptions_length gaps
    have h := optionArea_withArea (encode ((strayOptions gaps).map Prod.snd) ++ [optEnd])
      (by rw [List.length_append, hlen, List.length_singleton]; omega)
    have h' := optionArea_withArea (padArea (strayOptions gaps) last)
      (by rw [padArea_length, hlen, strayOptions_gaps]; exact hfit)
    obtain ⟨hfound, hread⟩ :=
      htransparent (strayOptions gaps) _ _ (strayOptions_gaps gaps) hcomplete h h'
    have hgaps : ∀ p ∈ gaps, Even p := by
      by_contra hodd
      have hmissed := hfound strayOption.tag (by decide)
      rw [h'.found_stray hodd, h.found_plain hcomplete, eq_comm, Option.map_eq_none_iff,
        List.find?_eq_none] at hmissed
      exact hmissed strayOption (padArea_strayOptions last hodd).1 (by decide)
    refine ⟨hgaps, ?_⟩
    by_contra hlast
    have heven : ∀ o ∈ strayOptions gaps, Even o.1 := by
      intro o ho
      refine hgaps o.1 ?_
      rw [← strayOptions_gaps gaps]
      exact List.mem_map_of_mem ho
    have hfalse := h'.readOptions_odd_last hcomplete heven hlast
    rw [hread, h.readOptions_plain hcomplete] at hfalse
    exact Bool.noConfusion hfalse
  · intro hparts ops m m' heq hops h h'
    obtain ⟨hgaps, hlast⟩ := hparts
    obtain rfl := heq
    have heven : ∀ o ∈ ops, Even o.1 := fun o ho => hgaps o.1 (List.mem_map_of_mem ho)
    exact ⟨fun code hcode => found_of_even hops h h' heven hlast hcode,
      readOptions_of_even hops h h' heven hlast⟩

/-- Padding is transparent for every code only where none is inserted. For the
codes other than the pad code itself, and for the option loop of the client, the
paddings transparent for all options are those of even length in every gap. -/
theorem padding_transparent_iff (gaps : List ℕ) (last : ℕ) :
    (∀ (ops : List (ℕ × Entry)) (m m' : Message), ops.map Prod.fst = gaps →
      (∀ o ∈ ops, Complete o.2) → OptionArea m (encode (ops.map Prod.snd) ++ [optEnd]) →
      OptionArea m' (padArea ops last) →
      (((∀ code, m'.found code = m.found code) ∧ m'.readOptions = m.readOptions) ↔
        (∀ p ∈ gaps, p = 0) ∧ last = 0)) ∧
    (optionsOffset + 4 + (gaps.sum + 2 * gaps.length + last + 1) ≤ capacity →
      ((∀ (ops : List (ℕ × Entry)) (m m' : Message), ops.map Prod.fst = gaps →
        (∀ o ∈ ops, Complete o.2) → OptionArea m (encode (ops.map Prod.snd) ++ [optEnd]) →
        OptionArea m' (padArea ops last) →
        (∀ code, code ≠ optPad → m'.found code = m.found code) ∧
          m'.readOptions = m.readOptions) ↔
      (∀ p ∈ gaps, Even p) ∧ Even last)) := by
  refine ⟨?_, transparent_for_all_iff_even⟩
  intro ops m m' heq hops h h'
  obtain rfl := heq
  rw [transparent_iff_no_pad hops h h', List.forall_mem_map]

/-- One pad byte before the lease time hides it from both walkers. -/
theorem padding_hides_lease_time :
    OptionArea (.withArea [optLeaseTime, 4, 0, 0, 2, 88, optEnd])
      (encode [⟨optLeaseTime, [0, 0, 2, 88]⟩] ++ [optEnd]) ∧
    OptionArea (.withArea [optPad, optLeaseTime, 4, 0, 0, 2, 88, optEnd])
      (padArea [(1, ⟨optLeaseTime, [0, 0, 2, 88]⟩)] 0) ∧
    (Message.withArea [optPad, optLeaseTime, 4, 0, 0, 2, 88, optEnd]).found optLeaseTime ≠
      (Message.withArea [optLeaseTime, 4, 0, 0, 2, 88, optEnd]).found optLeaseTime ∧
    (Message.withArea [optPad, optLeaseTime, 4, 0, 0, 2, 88, optEnd]).readOptions ≠
      (Message.withArea [optLeaseTime, 4, 0, 0, 2, 88, optEnd]).readOptions :=
  ⟨optionArea_withArea _ (by decide), optionArea_withArea _ (by decide), by decide +kernel,
    by decide +kernel⟩

end Rpi3Device.Dhcp

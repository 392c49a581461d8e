import Rpi3Device.Gps.FixFreshness

/-!
# The fields of a sentence

The tokenizer moves pointers over the line. `between` reads the bytes between two
of them, so that each pointer comparison of the source becomes an operation on a
list: `sentenceBody` strips the line from both ends, and the loop is `List.splitOn` cut
off after 16 tokens. A comma at the very end starts no further token, and the
empty field after it reads the same as a token that is not there.
-/

namespace Rpi3Device.Gps
open BoundedLoop

def between (buf : List UInt8) (p end_ : ℕ) : List UInt8 := (buf.drop p).take (end_ - p)

section Pointers
variable (buf : List UInt8) {p q end_ : ℕ}

theorem between_self : between buf p p = [] := by simp [between]

theorem between_whole : between buf 0 buf.length = buf := by simp [between]

theorem between_cons (hp : p < end_) (hend : end_ ≤ buf.length) :
    between buf p end_ = buf.getD p 0 :: between buf (p + 1) end_ := by
  obtain ⟨n, rfl⟩ := Nat.exists_eq_add_of_lt hp
  have hlen : p < buf.length := by omega
  have hn : p + n + 1 - p = n + 1 := by omega
  have hn' : p + n + 1 - (p + 1) = n := by omega
  have hbyte : buf.getD p 0 = buf[p] := by simp [hlen]
  rw [between, between, hn, hn', List.drop_eq_getElem_cons hlen, List.take_succ_cons, hbyte]

theorem between_append (hp : p ≤ q) (hq : q ≤ end_) :
    between buf p end_ = between buf p q ++ between buf q end_ := by
  have hlen : end_ - p = q - p + (end_ - q) := by omega
  have hdrop : (buf.drop p).drop (q - p) = buf.drop q := by
    rw [List.drop_drop, Nat.add_sub_cancel' hp]
  rw [between, hlen, List.take_add, hdrop]
  rfl

theorem between_concat (hp : p < end_) (hend : end_ ≤ buf.length) :
    between buf p end_ = between buf p (end_ - 1) ++ [buf.getD (end_ - 1) 0] := by
  have hlast : end_ - 1 + 1 = end_ := by omega
  rw [between_append buf (p := p) (q := end_ - 1) (by omega) (by omega),
    between_cons buf (p := end_ - 1) (by omega) hend, hlast, between_self]

theorem getLast?_between (hp : p < end_) (hend : end_ ≤ buf.length) :
    (between buf p end_).getLast? = some (buf.getD (end_ - 1) 0) := by
  rw [between_concat buf hp hend, List.getLast?_concat]

theorem dropLast_between (hp : p < end_) (hend : end_ ≤ buf.length) :
    (between buf p end_).dropLast = between buf p (end_ - 1) := by
  rw [between_concat buf hp hend, List.dropLast_concat]

end Pointers

def withoutDollar (s : List UInt8) : List UInt8 := if s.head? = some 36 then s.tail else s

def withoutNewline (s : List UInt8) : List UInt8 :=
  if s.getLast? = some 10 then
    if s.dropLast.getLast? = some 13 then s.dropLast.dropLast else s.dropLast
  else s

def withoutChecksum (s : List UInt8) : List UInt8 :=
  if s.dropLast.dropLast.getLast? = some 42 then s.dropLast.dropLast.dropLast else s

def sentenceBody (s : List UInt8) : List UInt8 := withoutChecksum (withoutNewline (withoutDollar s))

namespace NmeaTokenizer
variable (buf : List UInt8) {p end_ : ℕ}

theorem bodyStart_le (hp : p ≤ end_) :
    p ≤ bodyStart buf p end_ ∧ bodyStart buf p end_ ≤ end_ := by
  unfold bodyStart
  split <;> omega

theorem dropNewline_le (hp : p ≤ end_) :
    p ≤ dropNewline buf p end_ ∧ dropNewline buf p end_ ≤ end_ := by
  unfold dropNewline
  split
  · split <;> omega
  · omega

theorem dropChecksum_le (hp : p ≤ end_) :
    p ≤ dropChecksum buf p end_ ∧ dropChecksum buf p end_ ≤ end_ := by
  unfold dropChecksum
  split <;> omega

theorem between_bodyStart (hp : p ≤ end_) (hend : end_ ≤ buf.length) :
    between buf (bodyStart buf p end_) end_ = withoutDollar (between buf p end_) := by
  unfold bodyStart withoutDollar
  rcases hp.eq_or_lt with rfl | hlt
  · simp [between_self]
  · rw [between_cons buf hlt hend, List.head?_cons, List.tail_cons]
    by_cases hdollar : buf.getD p 0 = 36
    · rw [if_pos ⟨hlt, hdollar⟩, if_pos (congrArg some hdollar)]
    · rw [if_neg fun h => hdollar h.2, if_neg fun h => hdollar (Option.some.inj h),
        between_cons buf hlt hend]

theorem between_dropNewline (hp : p ≤ end_) (hend : end_ ≤ buf.length) :
    between buf p (dropNewline buf p end_) = withoutNewline (between buf p end_) := by
  unfold dropNewline withoutNewline
  rcases hp.eq_or_lt with rfl | hlt
  · simp [between_self]
  · rw [getLast?_between buf hlt hend, dropLast_between buf hlt hend]
    by_cases hnewline : buf.getD (end_ - 1) 0 = 10
    · rw [if_pos ⟨hlt, hnewline⟩, if_pos (congrArg some hnewline)]
      rcases (Nat.le_sub_one_of_lt hlt).eq_or_lt with heq | hlt'
      · simp [← heq, between_self]
      · have htwo : end_ - 1 - 1 = end_ - 2 := by omega
        rw [getLast?_between buf hlt' (by omega), dropLast_between buf hlt' (by omega), htwo]
        simp only [hlt', true_and, Option.some.injEq]
        exact apply_ite (between buf p) _ _ _
    · rw [if_neg fun h => hnewline h.2, if_neg fun h => hnewline (Option.some.inj h)]

theorem between_dropChecksum (hp : p ≤ end_) (hend : end_ ≤ buf.length) :
    between buf p (dropChecksum buf p end_) = withoutChecksum (between buf p end_) := by
  unfold dropChecksum withoutChecksum
  by_cases hthree : p + 3 ≤ end_
  · have htwo : end_ - 1 - 1 = end_ - 2 := by omega
    have hstar : end_ - 2 - 1 = end_ - 3 := by omega
    rw [dropLast_between buf (by omega) hend, dropLast_between buf (by omega) (by omega), htwo,
      getLast?_between buf (by omega) (by omega), dropLast_between buf (by omega) (by omega),
      hstar]
    simp only [hthree, true_and, Option.some.injEq]
    exact apply_ite (between buf p) _ _ _
  · have hshort : (between buf p end_).dropLast.dropLast = [] := by
      apply List.eq_nil_of_length_eq_zero
      simp only [List.length_dropLast, between, List.length_take]
      omega
    simp [hthree, hshort]

theorem memchr_spec (c : UInt8) (hp : p ≤ end_) :
    p ≤ (memchr buf c p end_).getD end_ ∧ (memchr buf c p end_).getD end_ ≤ end_ ∧
      c ∉ between buf p ((memchr buf c p end_).getD end_) ∧
      ((memchr buf c p end_).getD end_ < end_ →
        buf.getD ((memchr buf c p end_).getD end_) 0 = c) := by
  have hmem {q : ℕ} (hq : q ≤ end_) (hc : c ∈ between buf p q) :
      ∃ i, p ≤ i ∧ i < q ∧ buf.getD i 0 = c := by
    obtain ⟨i, hi⟩ := List.mem_iff_getElem?.mp hc
    rw [between, List.getElem?_take] at hi
    split at hi
    · rw [List.getElem?_drop] at hi
      exact ⟨p + i, by omega, by omega, by simp [List.getD_eq_getElem?_getD, hi]⟩
    · cases hi
  cases hfind : memchr buf c p end_ with
  | none =>
    refine ⟨hp, le_rfl, fun hc => ?_, fun h => absurd h (lt_irrefl _)⟩
    obtain ⟨i, hpi, hi, heq⟩ := hmem le_rfl hc
    have hnone := List.find?_range'_eq_none.mp hfind i hpi (by omega)
    simp only [heq, decide_true, Bool.not_true, Bool.false_eq_true] at hnone
  | some q =>
    obtain ⟨hq, hrange, hfirst⟩ := List.find?_range'_eq_some.mp hfind
    have hbounds := List.mem_range'_1.mp hrange
    simp only [Option.getD_some]
    refine ⟨hbounds.1, by omega, fun hc => ?_, fun _ => by simpa using hq⟩
    obtain ⟨i, hpi, hi, heq⟩ := hmem (by omega) hc
    have hbefore := hfirst i hpi hi
    simp only [heq, decide_true, Bool.not_true, Bool.false_eq_true] at hbefore

def fieldEnd (p end_ : ℕ) : ℕ := (memchr buf 44 p end_).getD end_

def nextField (p end_ : ℕ) : ℕ :=
  if fieldEnd buf p end_ < end_ then fieldEnd buf p end_ + 1 else fieldEnd buf p end_

theorem nextField_le (hp : p ≤ end_) :
    p ≤ nextField buf p end_ ∧ nextField buf p end_ ≤ end_ := by
  obtain ⟨hlo, hhi, -, -⟩ := memchr_spec buf 44 hp
  unfold nextField fieldEnd
  split <;> omega

/-- The comma separated fields between the two pointers. -/
def fieldTexts (p end_ : ℕ) : List (List UInt8) := (between buf p end_).splitOn 44

theorem fields_first (hp : p ≤ end_) (hend : end_ ≤ buf.length) :
    ∃ rest, fieldTexts buf p end_ = between buf p (fieldEnd buf p end_) :: rest ∧
      ∀ i, rest.getD i [] = (fieldTexts buf (nextField buf p end_) end_).getD i [] := by
  obtain ⟨hlo, hhi, hfree, hcomma⟩ := memchr_spec buf 44 hp
  have hcut := between_append buf hlo hhi
  unfold nextField fieldTexts fieldEnd
  rw [hcut]
  by_cases hq : (memchr buf 44 p end_).getD end_ < end_
  · rw [between_cons buf hq hend, hcomma hq, List.splitOn_append_cons_self_of_not_mem hfree,
      if_pos hq]
    exact ⟨_, rfl, fun i => rfl⟩
  · have heq : (memchr buf 44 p end_).getD end_ = end_ := by omega
    rw [if_neg hq, heq, between_self, List.append_nil, List.splitOn_nil]
    rw [heq] at hfree
    have hone : (between buf p end_).splitOn 44 = [between buf p end_] :=
      List.splitOn_eq_singleton hfree
    refine ⟨[], hone, fun i => ?_⟩
    cases i with
    | zero => rfl
    | succ i => rfl

/-- The tokens that the loop adds from pointer `p` on while there is room. -/
structure Added (p end_ room : ℕ) (more : List Token) : Prop where
  count : more.length ≤ room
  inside : ∀ tok ∈ more, tok.buf = buf ∧ p ≤ tok.p ∧ tok.p ≤ tok.end_ ∧ tok.end_ ≤ end_
  fields : ∀ i < room, (more.getD i ⟨[], 0, 0⟩).text = (fieldTexts buf p end_).getD i []

theorem Added.none (room : ℕ) : Added buf end_ end_ room [] := by
  refine ⟨room.zero_le, by simp, fun i _ => ?_⟩
  rw [fieldTexts, between_self, List.splitOn_nil]
  cases i with
  | zero => rfl
  | succ i => rfl

theorem Added.cons (hp : p ≤ end_) (hend : end_ ≤ buf.length) {room : ℕ} {more : List Token}
    (h : Added buf (nextField buf p end_) end_ room more) :
    Added buf p end_ (room + 1) (⟨buf, p, fieldEnd buf p end_⟩ :: more) := by
  obtain ⟨hlo, hhi, -, -⟩ := memchr_spec buf 44 hp
  obtain ⟨rest, hfields, hrest⟩ := fields_first buf hp hend
  refine ⟨Nat.succ_le_succ h.count, ?_, fun i hi => ?_⟩
  · rw [List.forall_mem_cons]
    refine ⟨⟨rfl, le_rfl, hlo, hhi⟩, fun tok htok => ?_⟩
    obtain ⟨hbuf, hfrom, hto⟩ := h.inside tok htok
    exact ⟨hbuf, (nextField_le buf hp).1.trans hfrom, hto⟩
  · rw [hfields]
    cases i with
    | zero => rfl
    | succ i =>
      rw [List.getD_cons_succ, List.getD_cons_succ, h.fields i (by omega), hrest]

theorem Added.full (hp : p ≤ end_) {more : List Token}
    (h : Added buf (nextField buf p end_) end_ 0 more) : Added buf p end_ 0 more := by
  refine ⟨h.count, fun tok htok => ?_, fun i hi => absurd hi i.not_lt_zero⟩
  obtain ⟨hbuf, hfrom, hto⟩ := h.inside tok htok
  exact ⟨hbuf, (nextField_le buf hp).1.trans hfrom, hto⟩

theorem split_added (hp : p ≤ end_) (hend : end_ ≤ buf.length) (tokens : List Token)
    (hroom : tokens.length ≤ maxNmeaTokens) :
    ∃ more, measured (splitBody buf end_) (fun s => end_ - s.1) [] (p, tokens) =
      tokens ++ more ∧ Added buf p end_ (maxNmeaTokens - tokens.length) more := by
  induction hgap : end_ - p using Nat.strong_induction_on generalizing p tokens with
  | _ gap ih =>
    rcases hp.eq_or_lt with rfl | hlt
    · have hexit : splitBody buf p (p, tokens) = .inr tokens := by simp [splitBody]
      exact ⟨[], by rw [measured_exit hexit, List.append_nil], .none buf _⟩
    · obtain ⟨-, hhi, -, -⟩ := memchr_spec buf 44 hp
      have hbody : splitBody buf end_ (p, tokens) = .inl (nextField buf p end_,
          if tokens.length < maxNmeaTokens then tokens ++ [⟨buf, p, fieldEnd buf p end_⟩]
          else tokens) := by
        rw [splitBody, if_pos hlt]
        rfl
      have hnext := splitBody_decreases buf end_ _ _ hbody
      rw [measured_continue (splitBody_decreases buf end_) [] hbody]
      simp only at hnext
      obtain ⟨-, hle⟩ := nextField_le buf hp
      by_cases hfull : tokens.length < maxNmeaTokens
      · rw [if_pos hfull]
        have hlen : (tokens ++ [Token.mk buf p (fieldEnd buf p end_)]).length =
            tokens.length + 1 := by simp
        obtain ⟨more, heq, hadded⟩ := ih _ (by omega) hle
          (tokens ++ [⟨buf, p, fieldEnd buf p end_⟩]) (by omega) rfl
        refine ⟨⟨buf, p, fieldEnd buf p end_⟩ :: more, by simpa using heq, ?_⟩
        have hone : maxNmeaTokens - tokens.length =
            maxNmeaTokens - (tokens ++ [Token.mk buf p (fieldEnd buf p end_)]).length + 1 := by
          omega
        rw [hone]
        exact .cons buf hp hend hadded
      · rw [if_neg hfull]
        obtain ⟨more, heq, hadded⟩ := ih _ (by omega) hle tokens hroom rfl
        have hzero : maxNmeaTokens - tokens.length = 0 := by omega
        rw [hzero] at hadded ⊢
        exact ⟨more, heq, .full buf hp hadded⟩

end NmeaTokenizer

structure TokenizesBody (s : List UInt8) (t : NmeaTokenizer) : Prop where
  get : ∀ i < maxNmeaTokens, (t.get i).text = ((sentenceBody s).splitOn 44).getD i []
  count : t.count ≤ maxNmeaTokens
  inside : ∀ tok ∈ t.tokens, tok.buf = s ∧ tok.p ≤ tok.end_ ∧ tok.end_ ≤ s.length

theorem tokenize_sentence (s : List UInt8) : TokenizesBody s (tokenize s) := by
  obtain ⟨-, hstart⟩ := NmeaTokenizer.bodyStart_le s s.length.zero_le
  obtain ⟨hline, hline'⟩ := NmeaTokenizer.dropNewline_le s hstart
  obtain ⟨hsum, hsum'⟩ := NmeaTokenizer.dropChecksum_le s hline
  have hbody : between s (NmeaTokenizer.bodyStart s 0 s.length) (NmeaTokenizer.dropChecksum s
      (NmeaTokenizer.bodyStart s 0 s.length) (NmeaTokenizer.dropNewline s
        (NmeaTokenizer.bodyStart s 0 s.length) s.length)) = sentenceBody s := by
    rw [NmeaTokenizer.between_dropChecksum s hline hline',
      NmeaTokenizer.between_dropNewline s hstart le_rfl,
      NmeaTokenizer.between_bodyStart s s.length.zero_le le_rfl, between_whole, sentenceBody]
  obtain ⟨tokens, hsplit, hadded⟩ := NmeaTokenizer.split_added s hsum (hsum'.trans hline') []
    (Nat.zero_le _)
  have htokens : (tokenize s).tokens = tokens := hsplit
  refine ⟨fun i hi => ?_, ?_, fun tok htok => ?_⟩
  · rw [NmeaTokenizer.get, htokens, hadded.fields i hi, NmeaTokenizer.fieldTexts, hbody]
  · rw [NmeaTokenizer.count, htokens]
    exact hadded.count
  · obtain ⟨hbuf, -, hle, hend⟩ := hadded.inside tok (htokens ▸ htok)
    exact ⟨hbuf, hle, hend.trans (hsum'.trans hline')⟩

end Rpi3Device.Gps

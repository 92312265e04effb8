import SampleSchema.Proofs.Text.Point
import SampleSchema.Text.Newline
import SampleSchema.Text.Utf8
/-!
Text that is written to a file and read again.

* `decode_encode`: encoded text is decoded;
* `encodePoints_ofString`, `encodePoints_half`: code points are encoded if they are a
  string, and otherwise the fault is at the first half;
* `lineFeedsOnly_eq_self`, `lineFeedsOnly_idem`: text without carriage returns keeps
  its line ends, and line ends are only turned once.
-/

namespace SampleSchema.Text

namespace Utf8

variable {position : Nat} {b : UInt8} {p : Begun} {rest : List UInt8}

/-! ## Bytes of a character -/

private theorem decodeFrom_single (h : b.toNat < 0x80) :
    decodeFrom position none (b :: rest) =
      (decodeFrom (position + 1) none rest).map (Char.ofNat b.toNat :: ·) := by
  rw [decodeFrom, if_pos h]

theorem decodeFrom_begin (h : begin? position b = some p) (hb : ¬ b.toNat < 0x80) :
    decodeFrom position none (b :: rest) = decodeFrom (position + 1) (some p) rest := by
  rw [decodeFrom, if_neg hb, h]

theorem decodeFrom_last {k : Nat} (hb : b.toNat = 0x80 + k)
    (h : p.low ≤ 0x80 + k ∧ 0x80 + k ≤ p.high) (hlast : p.missing = 0) :
    decodeFrom position (some p) (b :: rest) =
      (decodeFrom (position + 1) none rest).map (Char.ofNat (p.bits * 0x40 + k) :: ·) := by
  rw [decodeFrom, if_pos (hb ▸ h), hb, Nat.add_sub_cancel_left]
  simp only [hlast]

theorem decodeFrom_next {k missing : Nat} (hb : b.toNat = 0x80 + k)
    (h : p.low ≤ 0x80 + k ∧ 0x80 + k ≤ p.high) (hnext : p.missing = missing + 1)
    (position : Nat) (rest : List UInt8) :
    ∃ next : Begun, decodeFrom position (some p) (b :: rest) =
        decodeFrom (position + 1) (some next) rest ∧
      next.missing = missing ∧ next.bits = p.bits * 0x40 + k ∧
      next.low = 0x80 ∧ next.high = 0xBF := by
  rw [decodeFrom, if_pos (hb ▸ h), hb, Nat.add_sub_cancel_left]
  simp only [hnext]
  exact ⟨_, rfl, rfl, rfl, rfl, rfl⟩

private theorem begin?_two (position : Nat) {n : Nat} (hb : b.toNat = 0xC0 + n)
    (h : 2 ≤ n ∧ n < 0x20) :
    ∃ p, begin? position b = some p ∧ p.missing = 0 ∧ p.bits = n ∧ p.low = 0x80 ∧
      p.high = 0xBF := by
  simp only [begin?, hb]
  rw [if_pos (by omega)]
  exact ⟨_, rfl, rfl, by dsimp only; omega, rfl, rfl⟩

/-- After the first of three bytes the range of the second depends on it. -/
theorem begin?_three (position : Nat) {n : Nat} (hb : b.toNat = 0xE0 + n) (h : n < 0x10) :
    ∃ p, begin? position b = some p ∧ p.missing = 1 ∧ p.bits = n ∧
      p.low = (if n = 0 then 0xA0 else 0x80) ∧ p.high = (if n = 0xD then 0x9F else 0xBF) := by
  simp only [begin?, hb]
  rw [if_neg (by omega)]
  split
  · obtain rfl : n = 0 := by omega
    exact ⟨_, rfl, rfl, rfl, rfl, rfl⟩
  · split
    · obtain rfl : n = 0xD := by omega
      exact ⟨_, rfl, rfl, rfl, rfl, rfl⟩
    · rw [if_pos (by omega), if_neg (by omega), if_neg (by omega)]
      exact ⟨_, rfl, rfl, by dsimp only; omega, rfl, rfl⟩

/-- After the first of four bytes the range of the second depends on it. -/
theorem begin?_four (position : Nat) {n : Nat} (hb : b.toNat = 0xF0 + n) (h : n < 5) :
    ∃ p, begin? position b = some p ∧ p.missing = 2 ∧ p.bits = n ∧
      p.low = (if n = 0 then 0x90 else 0x80) ∧ p.high = (if n = 4 then 0x8F else 0xBF) := by
  simp only [begin?, hb]
  rw [if_neg (by omega), if_neg (by omega), if_neg (by omega), if_neg (by omega)]
  split
  · obtain rfl : n = 0 := by omega
    exact ⟨_, rfl, rfl, rfl, rfl, rfl⟩
  · split
    · rw [if_neg (by omega), if_neg (by omega)]
      exact ⟨_, rfl, rfl, by dsimp only; omega, rfl, rfl⟩
    · obtain rfl : n = 4 := by omega
      exact ⟨_, rfl, rfl, rfl, rfl, rfl⟩

/-! ## Characters -/

/-- No character is half a surrogate pair. -/
theorem toNat_cases (c : Char) : c.toNat < 0xD800 ∨ 0xE000 ≤ c.toNat ∧ c.toNat < 0x110000 := by
  have h := c.valid
  simp only [UInt32.isValidChar, Nat.isValidChar] at h
  change c.toNat < 0xD800 ∨ 0xDFFF < c.toNat ∧ c.toNat < 0x110000 at h
  omega

section

variable {b₁ b₂ b₃ b₄ : UInt8} {n m k l : Nat}

private theorem decodeFrom_two (h₁ : b₁.toNat = 0xC0 + n) (h₂ : b₂.toNat = 0x80 + k)
    (hn : 2 ≤ n ∧ n < 0x20) (hk : k < 0x40) (position : Nat) (rest : List UInt8) :
    decodeFrom position none (b₁ :: b₂ :: rest) =
      (decodeFrom (position + 2) none rest).map (Char.ofNat (n * 0x40 + k) :: ·) := by
  obtain ⟨p, hp, hmissing, hbits, hlow, hhigh⟩ := begin?_two position h₁ hn
  rw [decodeFrom_begin hp (by omega), decodeFrom_last h₂ (by omega) hmissing, hbits]

private theorem decodeFrom_three (h₁ : b₁.toNat = 0xE0 + n) (h₂ : b₂.toNat = 0x80 + m)
    (h₃ : b₃.toNat = 0x80 + k) (hn : n < 0x10) (hm : m < 0x40) (hk : k < 0x40)
    (hlong : 0x800 ≤ (n * 0x40 + m) * 0x40 + k)
    (hsurrogate : n * 0x40 + m < 0xD800 / 0x40 ∨ 0xE000 / 0x40 ≤ n * 0x40 + m)
    (position : Nat) (rest : List UInt8) :
    decodeFrom position none (b₁ :: b₂ :: b₃ :: rest) =
      (decodeFrom (position + 3) none rest).map
        (Char.ofNat ((n * 0x40 + m) * 0x40 + k) :: ·) := by
  obtain ⟨p, hp, hmissing, hbits, hlow, hhigh⟩ := begin?_three position h₁ hn
  have hrange : p.low ≤ 0x80 + m ∧ 0x80 + m ≤ p.high := by
    rw [hlow, hhigh]
    split <;> split <;> omega
  obtain ⟨q, hq, hqmissing, hqbits, hqlow, hqhigh⟩ :=
    decodeFrom_next h₂ hrange hmissing (position + 1) (b₃ :: rest)
  rw [decodeFrom_begin hp (by omega), hq, decodeFrom_last h₃ (by omega) hqmissing, hqbits, hbits]

private theorem decodeFrom_four (h₁ : b₁.toNat = 0xF0 + n) (h₂ : b₂.toNat = 0x80 + m)
    (h₃ : b₃.toNat = 0x80 + l) (h₄ : b₄.toNat = 0x80 + k) (hm : m < 0x40) (hl : l < 0x40)
    (hk : k < 0x40) (hlong : 0x10000 ≤ ((n * 0x40 + m) * 0x40 + l) * 0x40 + k)
    (hsmall : ((n * 0x40 + m) * 0x40 + l) * 0x40 + k < 0x110000)
    (position : Nat) (rest : List UInt8) :
    decodeFrom position none (b₁ :: b₂ :: b₃ :: b₄ :: rest) =
      (decodeFrom (position + 4) none rest).map
        (Char.ofNat (((n * 0x40 + m) * 0x40 + l) * 0x40 + k) :: ·) := by
  obtain ⟨p, hp, hmissing, hbits, hlow, hhigh⟩ := begin?_four position h₁ (by omega)
  have hrange : p.low ≤ 0x80 + m ∧ 0x80 + m ≤ p.high := by
    rw [hlow, hhigh]
    split <;> split <;> omega
  obtain ⟨q, hq, hqmissing, hqbits, hqlow, hqhigh⟩ :=
    decodeFrom_next h₂ hrange hmissing (position + 1) (b₃ :: b₄ :: rest)
  obtain ⟨r, hr, hrmissing, hrbits, hrlow, hrhigh⟩ :=
    decodeFrom_next h₃ (by omega) hqmissing (position + 1 + 1) (b₄ :: rest)
  rw [decodeFrom_begin hp (by omega), hq, hr, decodeFrom_last h₄ (by omega) hrmissing, hrbits,
    hqbits, hbits]

end

/-- A byte that is a sum of its leading bits and of bits of a character. -/
theorem toNat_ofNat_add {n lead : Nat} (h : n + lead < 0x100) :
    (UInt8.ofNat (n + lead)).toNat = lead + n :=
  (Nat.mod_eq_of_lt h).trans (Nat.add_comm n lead)

/-- A character is decoded from its bytes, whatever comes after them. -/
theorem decodeFrom_encodeChar (c : Char) (position : Nat) (rest : List UInt8) :
    ∃ later, decodeFrom position none (String.utf8EncodeChar c ++ rest) =
      (decodeFrom later none rest).map (c :: ·) := by
  have hc := toNat_cases c
  have hv : c.val.toNat = c.toNat := rfl
  simp only [String.utf8EncodeChar, hv]
  split
  · have hb : (UInt8.ofNat c.toNat).toNat = c.toNat := Nat.mod_eq_of_lt (by omega)
    refine ⟨position + 1, ?_⟩
    rw [List.singleton_append, decodeFrom_single (by omega), hb, Char.ofNat_toNat]
  split
  · have hbits : c.toNat / 64 % 32 * 0x40 + c.toNat % 64 = c.toNat := by omega
    have hdecoded := decodeFrom_two (toNat_ofNat_add (n := c.toNat / 64 % 32) (by omega))
      (toNat_ofNat_add (n := c.toNat % 64) (by omega)) (by omega) (by omega) position rest
    rw [hbits, Char.ofNat_toNat] at hdecoded
    exact ⟨position + 2, hdecoded⟩
  split
  · have hbits : (c.toNat / 4096 % 16 * 0x40 + c.toNat / 64 % 64) * 0x40 + c.toNat % 64 =
        c.toNat := by omega
    have hdecoded := decodeFrom_three (toNat_ofNat_add (n := c.toNat / 4096 % 16) (by omega))
      (toNat_ofNat_add (n := c.toNat / 64 % 64) (by omega))
      (toNat_ofNat_add (n := c.toNat % 64) (by omega)) (by omega) (by omega) (by omega)
      (by omega) (by omega) position rest
    rw [hbits, Char.ofNat_toNat] at hdecoded
    exact ⟨position + 3, hdecoded⟩
  · have hbits : ((c.toNat / 262144 % 8 * 0x40 + c.toNat / 4096 % 64) * 0x40 +
        c.toNat / 64 % 64) * 0x40 + c.toNat % 64 = c.toNat := by omega
    have hdecoded := decodeFrom_four (toNat_ofNat_add (n := c.toNat / 262144 % 8) (by omega))
      (toNat_ofNat_add (n := c.toNat / 4096 % 64) (by omega))
      (toNat_ofNat_add (n := c.toNat / 64 % 64) (by omega))
      (toNat_ofNat_add (n := c.toNat % 64) (by omega)) (by omega) (by omega) (by omega)
      (by omega) (by omega) position rest
    rw [hbits, Char.ofNat_toNat] at hdecoded
    exact ⟨position + 4, hdecoded⟩

/-- Encoded text is decoded. -/
theorem decode_encode (s : List Char) : decode (encode s) = .ok s := by
  have hfrom : ∀ position, decodeFrom position none (encode s) = .ok s := by
    induction s with
    | nil => exact fun position => rfl
    | cons c s ih =>
      intro position
      obtain ⟨later, hc⟩ := decodeFrom_encodeChar c position (encode s)
      rw [encode, List.flatMap_cons, ← encode, hc, ih later]
      rfl
  exact hfrom 0

/-! ## Code points -/

theorem encodeFrom_ofList (position : Nat) (s : List Char) (rest : Points) :
    encodeFrom position (s.map .char ++ rest) =
      (encodeFrom (position + s.length) rest).map (encode s ++ ·) := by
  induction s generalizing position with
  | nil => cases h : encodeFrom position rest <;> simp [h, encode, Except.map]
  | cons c s ih =>
    have hlength : position + 1 + s.length = position + (c :: s).length := by
      rw [List.length_cons]
      omega
    rw [List.map_cons, List.cons_append, encodeFrom, ih, hlength]
    cases encodeFrom (position + (c :: s).length) rest <;> simp [encode, Except.map]

/-- A string is encoded. -/
theorem encodePoints_ofString (s : String) :
    encodePoints (Points.ofString s) = .ok (encode s.toList) := by
  have h := encodeFrom_ofList 0 s.toList []
  rw [List.append_nil] at h
  simp [encodePoints, Points.ofString, h, encodeFrom, Except.map]

/-- The fault of a text that is no string is at its first half. -/
theorem encodePoints_half (front : String) (n : Fin 0x800) (back : Points) :
    encodePoints (Points.ofString front ++ .half n :: back) =
      .error ⟨front.length, (back.takeWhile Point.isHalf).length + 1, n⟩ := by
  rw [encodePoints, Points.ofString, encodeFrom_ofList, Nat.zero_add]
  rfl

theorem encodePoints_of_isString {s : Points} (h : s.isString = true) :
    encodePoints s = .ok (encode s.shown.toList) := by
  rw [← encodePoints_ofString, Points.ofString_shown h]

theorem exists_encodeFault {s : Points} (h : s.isString = false) :
    ∃ fault, encodePoints s = .error fault := by
  obtain ⟨front, n, back, rfl⟩ := Points.exists_first_half h
  exact ⟨_, encodePoints_half front n back⟩

end Utf8

/-! ## Line ends -/

/-- Text without carriage returns keeps its line ends. -/
theorem lineFeedsOnly_eq_self {s : List Char} (h : '\r' ∉ s) : lineFeedsOnly s = s := by
  induction s with
  | nil => rfl
  | cons c s ih =>
    rw [List.mem_cons, not_or] at h
    rw [lineFeedsOnly, ih h.2]
    · exact fun _ hc _ => absurd hc.symm h.1
    · exact fun hc => absurd hc.symm h.1

private theorem not_mem_lineFeedsOnly (s : List Char) : '\r' ∉ lineFeedsOnly s := by
  induction s using lineFeedsOnly.induct with
  | case1 => exact List.not_mem_nil
  | case2 rest ih => simp [lineFeedsOnly, ih]
  | case3 rest hnot ih =>
    rw [lineFeedsOnly]
    · simp [ih]
    · exact hnot
  | case4 c rest hcrlf hcr ih =>
    rw [lineFeedsOnly]
    · simp only [List.mem_cons, ih, or_false]
      exact fun hc => hcr hc.symm
    · exact hcrlf
    · exact hcr

/-- Line ends are only turned once. -/
theorem lineFeedsOnly_idem (s : List Char) :
    lineFeedsOnly (lineFeedsOnly s) = lineFeedsOnly s :=
  lineFeedsOnly_eq_self (not_mem_lineFeedsOnly s)

end SampleSchema.Text

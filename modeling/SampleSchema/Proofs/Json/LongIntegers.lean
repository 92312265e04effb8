import SampleSchema.Proofs.Json.RoundTrip
/-!
Integers with too many digits.

* `Accounted`: a reader leaves the end of its text, and an integer that it refuses for its
  length is in the text;
* `accounted_value`: so do all readers, whatever the text is;
* `read_longInteger`: a text is refused for a long integer only if it has that many digits
  in a row;
* `number_long`: such an integer is refused wherever a value is read.
-/

namespace SampleSchema.Json

open Text

/-- The text has `n` digits in a row, more than an integer may have. -/
def LongRun (n : Nat) (s : List Char) : Prop :=
  Reader.digitLimit < n ∧ ∃ ds, ds <:+: s ∧ ds.length = n ∧ ∀ c ∈ ds, c.isDigit

theorem LongRun.of_suffix {n : Nat} {s t : List Char} (h : LongRun n s) (hst : s <:+ t) :
    LongRun n t := by
  obtain ⟨hn, ds, hds, hlength, hdigits⟩ := h
  exact ⟨hn, ds, hds.trans hst.isInfix, hlength, hdigits⟩

namespace Reader

variable {α β : Type} {s t rest opening : List Char} {bound : Nat}

/-! ## Outcomes -/

/-- What is left is the end of the text, and an integer that is refused for its length is in
the text. -/
def Accounted (s : List Char) : Except Fault (α × List Char) → Prop
  | .ok (_, rest) => rest <:+ s
  | .error (.longInteger n) => LongRun n s
  | .error _ => True

theorem Accounted.of_suffix {r : Except Fault (α × List Char)} (h : Accounted s r)
    (hst : s <:+ t) : Accounted t r := by
  match r with
  | .ok (_, rest) => exact List.IsSuffix.trans h hst
  | .error (.longInteger n) => exact LongRun.of_suffix h hst
  | .error (.malformed ..) => trivial
  | .error .tooDeep => trivial

/-- What is read first leaves the text for what is read next. -/
theorem Accounted.bind {r : Except Fault (α × List Char)} (h : Accounted s r)
    {f : α × List Char → Except Fault (β × List Char)}
    (hf : ∀ a rest, r = .ok (a, rest) → Accounted rest (f (a, rest))) :
    Accounted s (r >>= f) := by
  match r with
  | .ok (a, rest) => exact (hf a rest rfl).of_suffix h
  | .error (.longInteger n) => exact h
  | .error (.malformed ..) => trivial
  | .error .tooDeep => trivial

/-- A value is made of what is read, and nothing more is read. -/
theorem Accounted.bind_ok {r : Except Fault (α × List Char)} (h : Accounted s r)
    {f : α × List Char → Except Fault (β × List Char)}
    (hf : ∀ a rest, ∃ b, f (a, rest) = .ok (b, rest)) : Accounted s (r >>= f) := by
  refine h.bind fun a rest _ => ?_
  obtain ⟨b, hb⟩ := hf a rest
  rw [hb]
  exact List.suffix_refl rest

theorem skipBlanks_suffix (s : List Char) : skipBlanks s <:+ s := List.dropWhile_suffix _

theorem suffix_of_skipBlanks {c : Char} (h : skipBlanks s = c :: rest) : rest <:+ s :=
  List.IsSuffix.trans ⟨[c], h.symm⟩ (skipBlanks_suffix s)

/-! ## Strings -/

theorem unit?_suffix {u : Nat} (h : unit? s = some (u, rest)) : rest <:+ s := by
  unfold unit? at h
  split at h
  · rename_i a b c d next after
    simp only [bind, Option.bind_eq_some_iff] at h
    obtain ⟨_, _, _, _, _, _, _, _, he⟩ := h
    cases he
    exact ⟨[a, b, c, d], rfl⟩
  · cases h

private theorem lowSurrogate?_suffix {u : Nat} (h : lowSurrogate? s = some (u, rest)) :
    rest <:+ s := by
  unfold lowSurrogate? at h
  split at h
  · rename_i digits
    obtain ⟨⟨low, after⟩, hunit, hlow⟩ := Option.bind_eq_some_iff.mp h
    dsimp only at hlow
    split at hlow
    · cases hlow
      exact (unit?_suffix hunit).trans ⟨['\\', 'u'], rfl⟩
    · cases hlow
  · cases h

private theorem unicodeEscape?_suffix {p : Point} (h : unicodeEscape? s = some (p, rest)) :
    rest <:+ s := by
  unfold unicodeEscape? at h
  obtain ⟨⟨high, after⟩, hunit, hrest⟩ := Option.bind_eq_some_iff.mp h
  have hafter := unit?_suffix hunit
  dsimp only at hrest
  split at hrest
  · split at hrest
    · rename_i low later hlow
      obtain ⟨-, rfl⟩ := Prod.mk.inj (Option.some.inj hrest)
      exact (lowSurrogate?_suffix hlow).trans hafter
    · cases hrest
      exact hafter
  · cases hrest
    exact hafter

private theorem accounted_stringBody (opening : List Char) (fuel : Nat) (s : List Char) :
    Accounted s (stringBody opening fuel s) := by
  fun_induction stringBody opening fuel s with
  | case1 => trivial
  | case2 => trivial
  | case3 => trivial
  | case4 => trivial
  | case5 fuel s p rest hescape ih =>
    refine (ih.bind_ok fun ps later => ⟨p :: ps, rfl⟩).of_suffix ?_
    exact (unicodeEscape?_suffix hescape).trans ⟨['\\', 'u'], rfl⟩
  | case6 => trivial
  | case7 fuel letter s _ c _ ih =>
    exact (ih.bind_ok fun ps later => ⟨.char c :: ps, rfl⟩).of_suffix ⟨['\\', letter], rfl⟩
  | case8 fuel s => exact ⟨['"'], rfl⟩
  | case9 => trivial
  | case10 fuel c s _ _ _ _ _ ih =>
    exact (ih.bind_ok fun ps later => ⟨.char c :: ps, rfl⟩).of_suffix ⟨[c], rfl⟩

theorem accounted_string (bound : Nat) (s : List Char) : Accounted s (string bound s) :=
  accounted_stringBody ('"' :: s) bound s

/-! ## Numbers -/

private theorem integerPart?_eq {digits : List Char} (h : integerPart? s = some (digits, rest)) :
    s = digits ++ rest ∧ ∀ c ∈ digits, c.isDigit := by
  unfold integerPart? at h
  split at h
  · cases h
    exact ⟨rfl, by simp⟩
  · rename_i c s _
    split at h
    · rename_i hc
      obtain ⟨rfl, rfl⟩ := Prod.mk.inj (Option.some.inj h)
      refine ⟨by simp, List.forall_mem_cons.mpr ⟨hc, fun d hd => ?_⟩⟩
      exact List.all_eq_true.mp List.all_takeWhile d hd
    · cases h
  · cases h

private theorem fractionPart_suffix (s : List Char) : (fractionPart s).2 <:+ s := by
  unfold fractionPart
  split
  · rename_i c s
    split
    · exact (List.dropWhile_suffix _).trans ⟨['.', c], rfl⟩
    · exact List.suffix_refl _
  · exact List.suffix_refl _

private theorem exponentSign_suffix (s : List Char) : (exponentSign s).2 <:+ s := by
  unfold exponentSign
  split
  · exact ⟨['+'], rfl⟩
  · exact ⟨['-'], rfl⟩
  · exact List.suffix_refl _

private theorem exponentPart_suffix (s : List Char) : (exponentPart s).2 <:+ s := by
  unfold exponentPart
  split
  · exact List.suffix_refl _
  · rename_i e s
    split
    · dsimp only
      split
      · exact List.suffix_refl _
      · exact ((List.dropWhile_suffix _).trans (exponentSign_suffix s)).trans ⟨[e], rfl⟩
    · exact List.suffix_refl _

private theorem accounted_number (start : List Char) (negative : Bool) (s : List Char) :
    Accounted s (number start negative s) := by
  unfold number
  split
  · trivial
  · rename_i digits rest hpart
    obtain ⟨rfl, hdigits⟩ := integerPart?_eq hpart
    dsimp only
    split
    · split
      -- An integer that is too long is refused with the number of its digits.
      · rename_i hlong
        exact ⟨hlong, digits, (List.prefix_append _ _).isInfix, rfl, hdigits⟩
      · exact ((exponentPart_suffix _).trans (fractionPart_suffix _)).trans
          (List.suffix_append _ _)
    · exact ((exponentPart_suffix _).trans (fractionPart_suffix _)).trans
        (List.suffix_append _ _)

/-! ## Values -/

private theorem accounted_scalar (s : List Char) : Accounted s (scalar s) := by
  unfold scalar
  split
  · exact ⟨['n', 'u', 'l', 'l'], rfl⟩
  · exact ⟨['t', 'r', 'u', 'e'], rfl⟩
  · exact ⟨['f', 'a', 'l', 's', 'e'], rfl⟩
  · exact ⟨['N', 'a', 'N'], rfl⟩
  · exact ⟨"Infinity".toList, rfl⟩
  · exact ⟨"-Infinity".toList, rfl⟩
  · exact (accounted_number _ true _).of_suffix ⟨['-'], rfl⟩
  · exact accounted_number _ false s

variable {read : Reads Document}

private theorem accounted_elements (hread : ∀ s, Accounted s (read s)) (fuel : Nat)
    (s : List Char) :
    Accounted s (elements read fuel s) := by
  induction fuel generalizing s with
  | zero => trivial
  | succ fuel ih =>
    rw [elements]
    refine (hread s).bind fun v rest _ => ?_
    dsimp only
    split
    · rename_i after hend
      exact suffix_of_skipBlanks hend
    · rename_i after hcomma
      refine ((ih (skipBlanks after)).bind_ok fun vs later => ⟨v :: vs, rfl⟩).of_suffix ?_
      exact (skipBlanks_suffix after).trans (suffix_of_skipBlanks hcomma)
    · trivial

private theorem accounted_nameAndValue (hread : ∀ s, Accounted s (read s)) (bound : Nat)
    (s : List Char) : Accounted s (nameAndValue bound read s) := by
  unfold nameAndValue
  split
  · rename_i s
    refine ((accounted_string bound s).bind fun name rest _ => ?_).of_suffix ⟨['"'], rfl⟩
    dsimp only
    split
    · rename_i after hcolon
      refine ((hread (skipBlanks after)).bind_ok fun v later => ⟨(name, v), rfl⟩).of_suffix ?_
      exact (skipBlanks_suffix after).trans (suffix_of_skipBlanks hcolon)
    · trivial
  · trivial

private theorem accounted_members (hread : ∀ s, Accounted s (read s)) (bound fuel : Nat)
    (done : List (Points × Document)) (s : List Char) :
    Accounted s (members bound read fuel done s) := by
  induction fuel generalizing done s with
  | zero => trivial
  | succ fuel ih =>
    rw [members]
    refine (accounted_nameAndValue hread bound s).bind fun member rest _ => ?_
    dsimp only
    split
    · rename_i after hend
      exact suffix_of_skipBlanks hend
    · rename_i after hcomma
      refine (ih _ (skipBlanks after)).of_suffix ?_
      exact (skipBlanks_suffix after).trans (suffix_of_skipBlanks hcomma)
    · trivial

/-- A value accounts for its text if the values inside it do. -/
theorem accounted_value_of {depth : Nat}
    (hinner : ∀ inner, depth = inner + 1 → ∀ s, Accounted s (value bound inner s))
    (s : List Char) : Accounted s (value bound depth s) := by
  fun_cases value bound depth s with
  | case1 depth s =>
    exact ((accounted_string bound s).bind_ok fun str _ => ⟨.string str, rfl⟩).of_suffix
      ⟨['"'], rfl⟩
  | case2 => trivial
  | case3 => trivial
  | case4 inner s rest hend => exact (suffix_of_skipBlanks hend).trans ⟨['['], rfl⟩
  | case5 inner s =>
    have helements := accounted_elements (hinner inner rfl) bound (skipBlanks s)
    refine (helements.bind_ok fun vs _ => ⟨.array vs, rfl⟩).of_suffix ?_
    exact (skipBlanks_suffix s).trans ⟨['['], rfl⟩
  | case6 inner s rest hend => exact (suffix_of_skipBlanks hend).trans ⟨['\x7b'], rfl⟩
  | case7 inner s =>
    have hmembers := accounted_members (hinner inner rfl) bound bound [] (skipBlanks s)
    refine (hmembers.bind_ok fun ms _ => ⟨.object ms, rfl⟩).of_suffix ?_
    exact (skipBlanks_suffix s).trans ⟨['\x7b'], rfl⟩
  | case8 => exact accounted_scalar s

/-- Every value accounts for its text, however deep it is nested. -/
theorem accounted_value (bound depth : Nat) (s : List Char) :
    Accounted s (value bound depth s) := by
  induction depth generalizing s with
  | zero => exact accounted_value_of (fun inner h => absurd h (Nat.zero_ne_add_one inner)) s
  | succ depth ih =>
    refine accounted_value_of (fun inner h => ?_) s
    obtain rfl := Nat.succ.inj h
    exact ih

/-! ## Long integers -/

theorem ne_of_isDigit {c : Char} (hc : c.isDigit) (other : Char) (h : other.isDigit = false) :
    c ≠ other := by
  rintro rfl
  rw [hc] at h
  cases h

private theorem scalar_digit {c : Char} (hc : c.isDigit) (s : List Char) :
    scalar (c :: s) = number (c :: s) false (c :: s) := by
  have hn := ne_of_isDigit hc 'n' (by decide)
  have ht := ne_of_isDigit hc 't' (by decide)
  have hf := ne_of_isDigit hc 'f' (by decide)
  have hN := ne_of_isDigit hc 'N' (by decide)
  have hI := ne_of_isDigit hc 'I' (by decide)
  have hminus := ne_of_isDigit hc '-' (by decide)
  unfold scalar
  split <;> simp_all

/-- An integer that is too long is refused where it ends with an object. -/
theorem number_long {digits : List Char} (hdigits : ∀ c ∈ digits, c.isDigit)
    (hzero : digits.head? ≠ some '0') (hlong : digitLimit < digits.length)
    (start after : List Char) (negative : Bool) :
    number start negative (digits ++ '\x7d' :: after) = .error (.longInteger digits.length) := by
  obtain ⟨first, later, rfl⟩ := List.exists_cons_of_length_pos (Nat.zero_lt_of_lt hlong)
  obtain ⟨hfirst, hlater⟩ := List.forall_mem_cons.mp hdigits
  have hend : (later ++ '\x7d' :: after).takeWhile Char.isDigit = later ∧
      (later ++ '\x7d' :: after).dropWhile Char.isDigit = '\x7d' :: after := by
    rw [List.takeWhile_append_of_pos hlater, List.dropWhile_append_of_pos hlater]
    simp
  have hpart : integerPart? (first :: (later ++ '\x7d' :: after)) =
      some (first :: later, '\x7d' :: after) := by
    unfold integerPart?
    split
    · rename_i he
      exact absurd (congrArg some (List.cons.inj he).1) hzero
    · rename_i he
      obtain ⟨rfl, rfl⟩ := List.cons.inj he
      rw [if_pos hfirst, hend.1, hend.2]
    · contradiction
  rw [List.cons_append, number, hpart]
  exact if_pos hlong

private theorem value_digit {c : Char} (hc : c.isDigit) (bound depth : Nat) (s : List Char) :
    value bound depth (c :: s) = scalar (c :: s) := by
  have hquote := ne_of_isDigit hc '"' (by decide)
  have harray := ne_of_isDigit hc '[' (by decide)
  have hobject := ne_of_isDigit hc '\x7b' (by decide)
  unfold value
  split <;> simp_all

private theorem value_long {digits : List Char} (hdigits : ∀ c ∈ digits, c.isDigit)
    (hzero : digits.head? ≠ some '0') (hlong : digitLimit < digits.length)
    (bound depth : Nat) (after : List Char) :
    value bound depth (skipBlanks (digits ++ '\x7d' :: after)) =
      .error (.longInteger digits.length) := by
  obtain ⟨first, later, rfl⟩ := List.exists_cons_of_length_pos (Nat.zero_lt_of_lt hlong)
  have hfirst := hdigits first List.mem_cons_self
  have hblank : isBlank first = false := by
    have hspace := ne_of_isDigit hfirst ' ' (by decide)
    have htab := ne_of_isDigit hfirst '\t' (by decide)
    have hline := ne_of_isDigit hfirst '\n' (by decide)
    have hreturn := ne_of_isDigit hfirst '\r' (by decide)
    simp [isBlank, hspace, htab, hline, hreturn]
  rw [List.cons_append, skipBlanks_cons hblank, value_digit hfirst, scalar_digit hfirst]
  exact number_long hdigits hzero hlong _ after false

/-- The text of an object with one member, whose value is an integer with these digits. -/
def longMember (name : String) (digits : List Char) : List Char :=
  '\x7b' :: (Printer.string name ++ ':' :: (digits ++ ['\x7d']))

/-- Whatever the member is called, an integer that is too long is refused. -/
theorem document_longMember (name : String) {digits : List Char}
    (hdigits : ∀ c ∈ digits, c.isDigit) (hzero : digits.head? ≠ some '0')
    (hlong : digitLimit < digits.length) :
    document (longMember name digits) = .error (.longInteger digits.length) := by
  have hname : (Printer.string name).length ≤ (longMember name digits).length + 1 := by
    simp only [longMember, List.length_cons, List.length_append]
    omega
  obtain ⟨inner, hinner⟩ : ∃ inner, depthLimit = inner + 1 := ⟨depthLimit - 1, rfl⟩
  generalize hbound : (longMember name digits).length + 1 = bound at hname
  have hcolon : skipBlanks (':' :: (digits ++ ['\x7d'])) = ':' :: (digits ++ ['\x7d']) :=
    skipBlanks_cons (by decide) _
  have hmember : nameAndValue bound (value bound inner)
      (Printer.string name ++ ':' :: (digits ++ ['\x7d'])) =
        .error (.longInteger digits.length) := by
    have hopen : Printer.string name ++ ':' :: (digits ++ ['\x7d']) =
        '"' :: ((name : Points).flatMap Printer.escapePoint ++
          '"' :: ':' :: (digits ++ ['\x7d'])) := by
      simp [Printer.string]
    rw [hopen, nameAndValue, string_print (Points.isString_ofString name) hname]
    simp only [bind, Except.bind, hcolon, value_long hdigits hzero hlong]
  have hquote : skipBlanks (Printer.string name ++ ':' :: (digits ++ ['\x7d'])) =
      Printer.string name ++ ':' :: (digits ++ ['\x7d']) := skipBlanks_cons (by decide) _
  have hobject : value bound depthLimit (longMember name digits) =
      .error (.longInteger digits.length) := by
    rw [longMember, hinner, value_object hquote (by decide)]
    rw [← hbound] at hmember ⊢
    exact congrArg (Except.map _) (members_error hmember)
  rw [document]
  · rw [hbound, longMember, skipBlanks_cons (by decide), ← longMember, hobject]
    rfl
  · intro rest hmark
    cases hmark

end Reader

/-- A text is refused for a long integer only if it has that many digits in a row. -/
theorem read_longInteger {text : String} {n : Nat} (h : read text = .error (.longInteger n)) :
    LongRun n text.toList := by
  unfold read Reader.document at h
  split at h
  · cases h
  · have hvalue := (Reader.accounted_value (text.toList.length + 1) Reader.depthLimit
      (Reader.skipBlanks text.toList)).of_suffix (Reader.skipBlanks_suffix _)
    revert h hvalue
    generalize Reader.value _ _ _ = r
    match r with
    | .error fault =>
      intro h hvalue
      cases h
      exact hvalue
    | .ok (v, rest) =>
      intro h _
      simp only [bind, Except.bind] at h
      split at h <;> cases h

end SampleSchema.Json

import SampleSchema.Json.Reader
import SampleSchema.Proofs.Json.Printing
/-!
Printed values are read back.

* `outcome`: what a reader makes of a value, by how deep it is nested;
* `elements_print`, `members_print`: arrays and objects are read up to their closing
  brackets, each element and member in its turn;
* `value_print`: a plain value is read back if its nesting is allowed for, and nothing
  else is wrong with it otherwise;
* `readWithin_print`: so is a whole text.
-/

namespace SampleSchema.Json

open Text SampleSchema.Json.Tree

/-- What a reader makes of a value that is nested `nesting` deep and of what follows. -/
def outcome {α : Type} (nesting depth : Nat) (read : α) (rest : List Char) :
    Except Fault (α × List Char) :=
  if nesting ≤ depth then .ok (read, rest) else .error .tooDeep

section

variable {α β : Type} {m n depth : Nat} {read : α} {rest : List Char}

theorem outcome_of_le (h : n ≤ depth) : outcome n depth read rest = .ok (read, rest) := if_pos h

theorem outcome_of_not_le (h : ¬ n ≤ depth) : outcome n depth read rest = .error .tooDeep :=
  if_neg h

theorem outcome_max_of_le (h : m ≤ depth) :
    outcome (max m n) depth read rest = outcome n depth read rest := by
  simp only [outcome, Nat.max_le, h, true_and]

theorem outcome_max_of_not_le (h : ¬ m ≤ depth) :
    outcome (max m n) depth read rest = .error .tooDeep :=
  outcome_of_not_le fun hmax => h (Nat.max_le.mp hmax).1

theorem map_outcome (f : α → β) :
    (outcome n depth read rest).map (fun r => (f r.1, r.2)) = outcome n depth (f read) rest := by
  unfold outcome
  split <;> rfl

end

namespace Reader

open Printer

/-! ## Blanks -/

theorem skipBlanks_cons {c : Char} (h : isBlank c = false) (rest : List Char) :
    skipBlanks (c :: rest) = c :: rest := List.dropWhile_cons_of_neg (by simp [h])

theorem skipBlanks_newLine (level : Nat) (rest : List Char) :
    skipBlanks (newLine level ++ rest) = skipBlanks rest := by
  have hblanks : ∀ n, skipBlanks (List.replicate n ' ' ++ rest) = skipBlanks rest := by
    intro n
    induction n with
    | zero => rfl
    | succ n ih => exact ih
  exact hblanks (2 * level)

theorem skipBlanks_value {spelled : Points → Prop} {v : Document} (h : v.Plain spelled)
    (level : Nat) (rest : List Char) :
    skipBlanks (Printer.value level v ++ rest) = Printer.value level v ++ rest := by
  have hblank : ∀ c ∈ ['"', '[', '\x7b'], isBlank c = false := by simp [isBlank]
  obtain ⟨c, hc, later, he⟩ := head_value h level
  rw [he]
  exact skipBlanks_cons (hblank c hc) _

/-! ## Arrays -/

/-- A value is read back wherever it is printed, and whatever comes after it. -/
def ReadsBack (bound : Nat) (v : Document) : Prop :=
  ∀ depth level rest, (Printer.value level v).length ≤ bound →
    Reader.value bound depth (Printer.value level v ++ rest) = outcome v.nesting depth v rest

variable {spelled : Points → Prop} {read : Reads Document} {fuel : Nat} {s rest after : List Char}
    {v : Document} {fault : Fault}

private theorem elements_error (h : read s = .error fault) :
    Reader.elements read (fuel + 1) s = .error fault := by
  rw [Reader.elements, h]
  rfl

private theorem elements_last (h : read s = .ok (v, rest)) (hend : skipBlanks rest = ']' :: after) :
    Reader.elements read (fuel + 1) s = .ok ([v], after) := by
  rw [Reader.elements, h]
  simp only [bind, Except.bind, hend]
  rfl

private theorem elements_next (h : read s = .ok (v, rest))
    (hcomma : skipBlanks rest = ',' :: after) :
    Reader.elements read (fuel + 1) s =
      (Reader.elements read fuel (skipBlanks after)).map fun r => (v :: r.1, r.2) := by
  rw [Reader.elements, h]
  simp only [bind, Except.bind, hcomma]
  cases Reader.elements read fuel (skipBlanks after) <;> rfl

/-- The elements of an array are read up to its closing bracket. The first that is
nested too deep ends the reading. -/
theorem elements_print {bound depth level : Nat} {v : Document} {vs : List Document}
    (hplain : ∀ w ∈ v :: vs, w.Plain spelled) (hread : ∀ w ∈ v :: vs, ReadsBack bound w)
    (hbound : ∀ w ∈ v :: vs, (Printer.value level w).length ≤ bound) (hfuel : vs.length < fuel)
    (outer : Nat) (rest : List Char) :
    Reader.elements (Reader.value bound depth) fuel (Printer.value level v ++
        (Printer.elements level vs ++ (newLine outer ++ ']' :: rest))) =
      outcome (nestingOfItems (v :: vs)) depth (v :: vs) rest := by
  induction vs generalizing v fuel with
  | nil =>
    obtain ⟨fuel, rfl⟩ := Nat.exists_eq_succ_of_ne_zero (Nat.ne_zero_of_lt hfuel)
    have hv := hread v List.mem_cons_self depth level
      (Printer.elements level [] ++ (newLine outer ++ ']' :: rest)) (hbound v List.mem_cons_self)
    have hend : skipBlanks (Printer.elements level [] ++ (newLine outer ++ ']' :: rest)) =
        ']' :: rest := by
      rw [Printer.elements, List.nil_append, skipBlanks_newLine]
      exact skipBlanks_cons (by decide) rest
    rw [nestingOfItems, nestingOfItems, Nat.max_zero]
    by_cases hdepth : v.nesting ≤ depth
    · rw [outcome_of_le hdepth] at hv ⊢
      exact elements_last hv hend
    · rw [outcome_of_not_le hdepth] at hv ⊢
      exact elements_error hv
  | cons w ws ih =>
    obtain ⟨fuel, rfl⟩ := Nat.exists_eq_succ_of_ne_zero (Nat.ne_zero_of_lt hfuel)
    have hv := hread v List.mem_cons_self depth level
      (Printer.elements level (w :: ws) ++ (newLine outer ++ ']' :: rest))
      (hbound v List.mem_cons_self)
    have hcomma : skipBlanks (Printer.elements level (w :: ws) ++ (newLine outer ++ ']' :: rest)) =
        ',' :: (newLine level ++ (Printer.value level w ++
          (Printer.elements level ws ++ (newLine outer ++ ']' :: rest)))) := by
      simp only [Printer.elements, List.append_assoc, List.cons_append]
      exact skipBlanks_cons (by decide) _
    have hlater := ih (fun x hx => hplain x (List.mem_cons_of_mem _ hx))
      (fun x hx => hread x (List.mem_cons_of_mem _ hx))
      (fun x hx => hbound x (List.mem_cons_of_mem _ hx)) (Nat.lt_of_succ_lt_succ hfuel)
    rw [nestingOfItems]
    by_cases hdepth : v.nesting ≤ depth
    · rw [outcome_of_le hdepth] at hv
      rw [outcome_max_of_le hdepth, elements_next hv hcomma, skipBlanks_newLine,
        skipBlanks_value (hplain w (by simp)), hlater, map_outcome]
    · rw [outcome_of_not_le hdepth] at hv
      rw [outcome_max_of_not_le hdepth, elements_error hv]

/-! ## Objects -/

variable {bound : Nat} {name : Points} {done : List (Points × Document)}

theorem putMember_of_not_mem {S V : Type} [DecidableEq S] {key : S} {v : V}
    {members : List (S × V)} (h : key ∉ members.map (·.1)) :
    putMember key v members = members ++ [(key, v)] := by
  induction members with
  | nil => rfl
  | cons m ms ih =>
    rw [List.map_cons, List.mem_cons, not_or] at h
    obtain ⟨other, w⟩ := m
    rw [putMember, if_neg (Ne.symm h.1), ih h.2]
    rfl

theorem not_mem_of_nodup {S : Type} {key : S} {keys later : List S}
    (h : (keys ++ key :: later).Nodup) : key ∉ keys := fun hmem =>
  (List.nodup_append.mp h).2.2 key hmem key List.mem_cons_self rfl

/-- A name and the value after it are read back. -/
theorem nameAndValue_print {level : Nat} (hname : name.isString = true)
    (hv : v.Plain spelled) (hread : ReadsBack bound v)
    (hbound : (Printer.string name).length ≤ bound ∧ (Printer.value level v).length ≤ bound)
    (depth : Nat) (rest : List Char) :
    Reader.nameAndValue bound (Reader.value bound depth) (Printer.string name ++ ([':', ' '] ++
        (Printer.value level v ++ rest))) = outcome v.nesting depth (name, v) rest := by
  have hopen : Printer.string name ++ ([':', ' '] ++ (Printer.value level v ++ rest)) =
      '"' :: (name.flatMap escapePoint ++
        '"' :: ([':', ' '] ++ (Printer.value level v ++ rest))) := by
    simp [Printer.string]
  have hcolon : skipBlanks ([':', ' '] ++ (Printer.value level v ++ rest)) =
      ':' :: ' ' :: (Printer.value level v ++ rest) := skipBlanks_cons (by decide) _
  have hblank : skipBlanks (' ' :: (Printer.value level v ++ rest)) =
      Printer.value level v ++ rest := skipBlanks_value hv level rest
  rw [hopen, Reader.nameAndValue, string_print hname hbound.1, ← map_outcome (fun v => (name, v)),
    ← hread depth level rest hbound.2]
  simp only [bind, Except.bind, hcolon, hblank]
  cases Reader.value bound depth (Printer.value level v ++ rest) <;> rfl

theorem members_error (h : Reader.nameAndValue bound read s = .error fault) :
    Reader.members bound read (fuel + 1) done s = .error fault := by
  rw [Reader.members, h]
  rfl

private theorem members_last (h : Reader.nameAndValue bound read s = .ok ((name, v), rest))
    (hend : skipBlanks rest = '\x7d' :: after) :
    Reader.members bound read (fuel + 1) done s = .ok (putMember name v done, after) := by
  rw [Reader.members, h]
  simp only [bind, Except.bind, hend]
  rfl

private theorem members_next (h : Reader.nameAndValue bound read s = .ok ((name, v), rest))
    (hcomma : skipBlanks rest = ',' :: after) :
    Reader.members bound read (fuel + 1) done s =
      Reader.members bound read fuel (putMember name v done) (skipBlanks after) := by
  rw [Reader.members, h]
  simp only [bind, Except.bind, hcomma]

theorem skipBlanks_name (level : Nat) (name : Points) (rest : List Char) :
    skipBlanks (newLine level ++ (Printer.string name ++ rest)) = Printer.string name ++ rest := by
  rw [skipBlanks_newLine]
  exact skipBlanks_cons (by decide) _

/-- The members of an object are read up to its closing bracket and added to those
before them. -/
theorem members_print {depth level : Nat} {key : Points} {v : Document}
    {ms : List (Points × Document)} (hkeys : (done.map (·.1) ++ key :: ms.map (·.1)).Nodup)
    (hnames : ∀ m ∈ (key, v) :: ms, m.1.isString = true)
    (hplain : ∀ m ∈ (key, v) :: ms, m.2.Plain spelled)
    (hread : ∀ m ∈ (key, v) :: ms, ReadsBack bound m.2)
    (hbound : ∀ m ∈ (key, v) :: ms, (Printer.string m.1).length ≤ bound ∧
      (Printer.value level m.2).length ≤ bound) (hfuel : ms.length < fuel)
    (outer : Nat) (rest : List Char) :
    Reader.members bound (Reader.value bound depth) fuel done (Printer.string key ++
        ([':', ' '] ++ (Printer.value level v ++
          (Printer.members level ms ++ (newLine outer ++ '\x7d' :: rest))))) =
      outcome (nestingOfMembers ((key, v) :: ms)) depth (done ++ (key, v) :: ms) rest := by
  induction ms generalizing key v done fuel with
  | nil =>
    obtain ⟨fuel, rfl⟩ := Nat.exists_eq_succ_of_ne_zero (Nat.ne_zero_of_lt hfuel)
    have hmember := nameAndValue_print (hnames _ List.mem_cons_self)
      (hplain _ List.mem_cons_self) (hread _ List.mem_cons_self) (hbound _ List.mem_cons_self)
      depth
      (Printer.members level [] ++ (newLine outer ++ '\x7d' :: rest))
    have hend : skipBlanks (Printer.members level [] ++ (newLine outer ++ '\x7d' :: rest)) =
        '\x7d' :: rest := by
      rw [Printer.members, List.nil_append, skipBlanks_newLine]
      exact skipBlanks_cons (by decide) rest
    rw [nestingOfMembers, nestingOfMembers, Nat.max_zero]
    by_cases hdepth : v.nesting ≤ depth
    · rw [outcome_of_le hdepth] at hmember ⊢
      rw [members_last hmember hend, putMember_of_not_mem (not_mem_of_nodup hkeys)]
    · rw [outcome_of_not_le hdepth] at hmember ⊢
      exact members_error hmember
  | cons m ms ih =>
    obtain ⟨fuel, rfl⟩ := Nat.exists_eq_succ_of_ne_zero (Nat.ne_zero_of_lt hfuel)
    obtain ⟨next, w⟩ := m
    have hmember := nameAndValue_print (hnames _ List.mem_cons_self)
      (hplain _ List.mem_cons_self) (hread _ List.mem_cons_self) (hbound _ List.mem_cons_self)
      depth
      (Printer.members level ((next, w) :: ms) ++ (newLine outer ++ '\x7d' :: rest))
    have hcomma : skipBlanks (Printer.members level ((next, w) :: ms) ++
        (newLine outer ++ '\x7d' :: rest)) =
        ',' :: (newLine level ++ (Printer.string next ++ ([':', ' '] ++ (Printer.value level w ++
          (Printer.members level ms ++ (newLine outer ++ '\x7d' :: rest)))))) := by
      simp only [Printer.members, List.append_assoc, List.cons_append]
      exact skipBlanks_cons (by decide) _
    have hlaterKeys : ((done ++ [(key, v)]).map (·.1) ++ next :: ms.map (·.1)).Nodup := by
      simpa using hkeys
    have hlater := ih hlaterKeys
      (fun x hx => hnames x (List.mem_cons_of_mem _ hx))
      (fun x hx => hplain x (List.mem_cons_of_mem _ hx))
      (fun x hx => hread x (List.mem_cons_of_mem _ hx))
      (fun x hx => hbound x (List.mem_cons_of_mem _ hx)) (Nat.lt_of_succ_lt_succ hfuel)
    rw [nestingOfMembers]
    by_cases hdepth : v.nesting ≤ depth
    · rw [outcome_of_le hdepth] at hmember
      rw [outcome_max_of_le hdepth, members_next hmember hcomma, skipBlanks_name,
        putMember_of_not_mem (not_mem_of_nodup hkeys), hlater, List.append_assoc]
      rfl
    · rw [outcome_of_not_le hdepth] at hmember
      rw [outcome_max_of_not_le hdepth, members_error hmember]

/-! ## Values -/

/-- What a value goes on with after its first character. -/
theorem value_quote (bound depth : Nat) (s : List Char) :
    Reader.value bound depth ('"' :: s) = do
      let (str, rest) ← Reader.string bound s
      return (.string str, rest) := by
  cases depth <;> rfl

theorem value_bracket (bound depth : Nat) (s : List Char) :
    Reader.value bound (depth + 1) ('[' :: s) =
      match skipBlanks s with
      | ']' :: rest => .ok (.array [], rest)
      | s => do
          let (vs, rest) ← Reader.elements (Reader.value bound depth) bound s
          return (.array vs, rest) :=
  rfl

private theorem value_brace (bound depth : Nat) (s : List Char) :
    Reader.value bound (depth + 1) ('\x7b' :: s) =
      match skipBlanks s with
      | '\x7d' :: rest => .ok (.object [], rest)
      | s => do
          let (ms, rest) ← Reader.members bound (Reader.value bound depth) bound [] s
          return (.object ms, rest) :=
  rfl

private theorem value_string (hname : name.isString = true)
    (h : (Printer.string name).length ≤ bound) (depth level : Nat) (rest : List Char) :
    Reader.value bound depth (Printer.value level (.string name) ++ rest) =
      .ok (.string name, rest) := by
  have hstring : Printer.value level (.string name) ++ rest =
      '"' :: (name.flatMap escapePoint ++ '"' :: rest) := by
    simp [Printer.value_string, Printer.string]
  rw [hstring, value_quote, string_print hname h]
  rfl

private theorem value_array {depth : Nat} {c : Char} (hs : skipBlanks s = c :: rest)
    (hc : c ≠ ']') :
    Reader.value bound (depth + 1) ('[' :: s) =
      (Reader.elements (Reader.value bound depth) bound (c :: rest)).map
        fun r => (.array r.1, r.2) := by
  rw [value_bracket, hs]
  split
  · rename_i he
    exact absurd (List.cons.inj he).1 hc
  · cases Reader.elements (Reader.value bound depth) bound (c :: rest) <;> rfl

theorem value_object {depth : Nat} {c : Char} (hs : skipBlanks s = c :: rest) (hc : c ≠ '\x7d') :
    Reader.value bound (depth + 1) ('\x7b' :: s) =
      (Reader.members bound (Reader.value bound depth) bound [] (c :: rest)).map
        fun r => (.object r.1, r.2) := by
  rw [value_brace, hs]
  split
  · rename_i he
    exact absurd (List.cons.inj he).1 hc
  · cases Reader.members bound (Reader.value bound depth) bound [] (c :: rest) <;> rfl

theorem outcome_succ {α : Type} (n depth : Nat) (read : α) (rest : List Char) :
    outcome (n + 1) (depth + 1) read rest = outcome n depth read rest := by
  simp [outcome]

private theorem array_print {items : List Document} (hplain : ∀ v ∈ items, v.Plain spelled)
    (hread : ∀ v ∈ items, ReadsBack bound v) : ReadsBack bound (.array items) := by
  intro depth level rest hbound
  cases depth with
  | zero =>
    obtain ⟨later, hlater⟩ := head_array items level
    rw [hlater, nesting, outcome_of_not_le (Nat.not_succ_le_zero _)]
    rfl
  | succ depth =>
    rw [nesting, outcome_succ]
    cases items with
    | nil =>
      rw [Printer.value_array_nil, nestingOfItems, outcome_of_le (Nat.zero_le depth)]
      rfl
    | cons v vs =>
      have hprinted : Printer.value level (.array (v :: vs)) ++ rest =
          '[' :: (newLine (level + 1) ++ (Printer.value (level + 1) v ++
            (Printer.elements (level + 1) vs ++ (newLine level ++ ']' :: rest)))) := by
        simp only [Printer.value_array_cons, List.append_assoc, List.cons_append, List.nil_append]
      obtain ⟨hcount, hvalues⟩ : vs.length < bound ∧
          ∀ w ∈ v :: vs, (Printer.value (level + 1) w).length ≤ bound := by
        obtain ⟨hcount, hvalues⟩ := length_elements (level + 1) vs
        simp only [Printer.value_array_cons, List.length_append, List.length_cons] at hbound
        refine ⟨by omega, List.forall_mem_cons.mpr ⟨by omega, fun w hw => ?_⟩⟩
        have := hvalues w hw
        omega
      obtain ⟨c, hc, later, hlater⟩ := head_value (hplain v List.mem_cons_self) (level + 1)
      have hopen : ∀ c ∈ ['"', '[', '\x7b'], c ≠ ']' := by simp
      have hfirst : skipBlanks (newLine (level + 1) ++ (Printer.value (level + 1) v ++
          (Printer.elements (level + 1) vs ++ (newLine level ++ ']' :: rest)))) =
          c :: (later ++ (Printer.elements (level + 1) vs ++ (newLine level ++ ']' :: rest))) := by
        rw [skipBlanks_newLine, skipBlanks_value (hplain v List.mem_cons_self), hlater]
        rfl
      rw [hprinted, value_array hfirst (hopen c hc), ← List.cons_append, ← hlater,
        elements_print hplain hread hvalues hcount, map_outcome]

private theorem object_print {ms : List (Points × Document)} (hkeys : (ms.map (·.1)).Nodup)
    (hnames : ∀ m ∈ ms, m.1.isString = true) (hplain : ∀ m ∈ ms, m.2.Plain spelled)
    (hread : ∀ m ∈ ms, ReadsBack bound m.2) : ReadsBack bound (.object ms) := by
  intro depth level rest hbound
  cases depth with
  | zero =>
    obtain ⟨later, hlater⟩ := head_object ms level
    rw [hlater, nesting, outcome_of_not_le (Nat.not_succ_le_zero _)]
    rfl
  | succ depth =>
    rw [nesting, outcome_succ]
    cases ms with
    | nil =>
      rw [Printer.value_object_nil, nestingOfMembers, outcome_of_le (Nat.zero_le depth)]
      rfl
    | cons m ms =>
      obtain ⟨key, v⟩ := m
      have hprinted : Printer.value level (.object ((key, v) :: ms)) ++ rest =
          '\x7b' :: (newLine (level + 1) ++ (Printer.string key ++ ([':', ' '] ++
            (Printer.value (level + 1) v ++
              (Printer.members (level + 1) ms ++ (newLine level ++ '\x7d' :: rest)))))) := by
        simp only [Printer.value_object_cons, List.append_assoc, List.cons_append, List.nil_append]
      obtain ⟨hcount, hmembers⟩ : ms.length < bound ∧ ∀ m ∈ (key, v) :: ms,
          (Printer.string m.1).length ≤ bound ∧
            (Printer.value (level + 1) m.2).length ≤ bound := by
        obtain ⟨hcount, hmembers⟩ := length_members (level + 1) ms
        simp only [Printer.value_object_cons, List.length_append, List.length_cons] at hbound
        refine ⟨by omega, List.forall_mem_cons.mpr
          ⟨⟨by dsimp only; omega, by dsimp only; omega⟩, fun m hm => ?_⟩⟩
        have := hmembers m hm
        constructor <;> omega
      have hall : (([] : List (Points × Document)).map (·.1) ++ key :: ms.map (·.1)).Nodup := hkeys
      rw [hprinted, value_object (skipBlanks_name (level + 1) key _) (by decide)]
      change (Reader.members bound (Reader.value bound depth) bound []
        (Printer.string key ++ _)).map _ = _
      rw [members_print hall hnames hplain hread hmembers hcount, map_outcome]
      rfl

/-- A plain value without lone halves is read back if its nesting is allowed for,
    and nothing else is
wrong with it otherwise. -/
theorem value_print {v : Document} (h : v.Plain (·.isString)) (bound : Nat) :
    ReadsBack bound v := by
  induction h with
  | string hs =>
    intro depth level rest hbound
    rw [Printer.value_string] at hbound
    rw [value_string hs hbound]
    exact (outcome_of_le (Nat.zero_le depth)).symm
  | array hplain ih => exact array_print hplain ih
  | object hkeys hnames hplain ih => exact object_print hkeys hnames hplain ih

end Reader

/-! ## Texts -/

/-- Read a text that holds one value, where arrays and objects may be nested `depth`
deep. -/
def readWithin (depth : Nat) (text : String) : Except Fault Document :=
  match text.toList with
  | '\uFEFF' :: s => .error (.malformed .byteOrderMark ('\uFEFF' :: s))
  | s => do
      let (v, rest) ← Reader.value (s.length + 1) depth (Reader.skipBlanks s)
      match Reader.skipBlanks rest with
      | [] => return v
      | rest => .error (.malformed .extraData rest)

theorem read_eq_readWithin (text : String) : read text = readWithin Reader.depthLimit text := by
  unfold read Reader.document readWithin
  rfl

/-- A printed value is read back from its text if its nesting is allowed for. -/
theorem readWithin_print {v : Document} (h : v.Plain (·.isString)) (depth : Nat) :
    readWithin depth (print v) = if v.nesting ≤ depth then .ok v else .error .tooDeep := by
  have hmark : ∀ c ∈ ['"', '[', '\x7b'], c ≠ '\uFEFF' := by simp
  obtain ⟨c, hc, later, hlater⟩ := Printer.head_value h 0
  have hvalue := Reader.value_print h ((Printer.value 0 v).length + 1) depth 0 []
    (Nat.le_succ _)
  have hblanks := Reader.skipBlanks_value h 0 []
  rw [List.append_nil] at hvalue hblanks
  rw [readWithin, print, String.toList_ofList]
  split
  · rename_i he
    rw [hlater] at he
    exact absurd (List.cons.inj he).1 (hmark c hc)
  · rw [hblanks, hvalue]
    by_cases hdepth : v.nesting ≤ depth
    · rw [outcome_of_le hdepth, if_pos hdepth]
      rfl
    · rw [outcome_of_not_le hdepth, if_neg hdepth]
      rfl

end SampleSchema.Json

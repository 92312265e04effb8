import SampleSchema.Files.Text
import SampleSchema.Proofs.Files.Path
import SampleSchema.Proofs.Text.Utf8
/-!
What the operations of a file store change and what they leave as it is.

* `node?_set`, `node?_erase`: the nodes of a store after one of them has changed;
* `readBytes_eq_ok_iff`, `writeBytes_eq_ok_iff`: when a file can be read and written;
* `Keeps`: a store that has all nodes of another one, and where paths therefore
  lead to the same places (`Keeps.locate`);
* `makeDirectories_adds`, `keepsDirectories_writeBytes`: making directories adds nothing
  else, and no operation that writes removes a directory;
* `readBytes_writeBytes_self`, `readBytes_writeBytes_of_ne`: a file holds what was
  written last, and writing another one does not change it;
* `writeText_of_isString`, `writeText_of_encodeFault`, `writeText_encoding_iff`: a text file
  holds the text, or is empty if the text cannot be encoded.
-/

namespace SampleSchema.Files.Store

open SampleSchema.Files.Path SampleSchema.Text

/-! ## Nodes -/

variable {s s' : Store} {location other : Location} {node : Node}

private theorem find?_set (entries : List (Location × Node)) (location other : Location)
    (node : Node) :
    ((entries.map fun e => if e.1 == location then (location, node) else e).find?
        fun e => e.1 == other).map (·.2) =
      if other = location then
        if entries.any (fun e => e.1 == location) then some node else none
      else (entries.find? fun e => e.1 == other).map (·.2) := by
  induction entries with
  | nil => simp
  | cons e entries ih =>
    by_cases he : e.1 = location
    · by_cases ho : other = location
      · simp [he, ho]
      · have hne : location ≠ other := Ne.symm ho
        simpa [he, ho, hne] using ih
    · have hb : (e.1 == location) = false := beq_eq_false_iff_ne.mpr he
      rw [List.map_cons, List.any_cons, hb, Bool.false_or]
      simp only [Bool.false_eq_true, ↓reduceIte, List.find?_cons]
      cases hc : e.1 == other with
      | true =>
        have ho : other ≠ location := fun h => he ((beq_iff_eq.mp hc).trans h)
        simp [ho]
      | false => exact ih

/-- Only the node that is set changes. -/
theorem node?_set (s : Store) (node : Node) (h : location.isAnchor = false) (other : Location) :
    (s.set location node).node? other = if other = location then some node else s.node? other := by
  by_cases ha : other.isAnchor = true
  · have hne : other ≠ location := by
      rintro rfl
      rw [h] at ha
      cases ha
    simp [node?, ha, hne]
  · simp only [node?, ha, Bool.false_eq_true, ↓reduceIte]
    unfold set
    split
    · rename_i hany
      rw [find?_set, if_pos hany]
    · rename_i hany
      simp only [List.find?_append, List.find?_singleton]
      by_cases ho : other = location
      · subst ho
        have hnone : (s.entries.find? fun e => e.1 == other) = none := by
          rw [List.find?_eq_none]
          intro e he hc
          exact hany (List.any_eq_true.mpr ⟨e, he, hc⟩)
        simp [hnone]
      · have hne : (location == other) = false := beq_eq_false_iff_ne.mpr (Ne.symm ho)
        simp [hne, ho]

/-- Only the node that is erased is gone. -/
theorem node?_erase (s : Store) (h : other ≠ location) :
    (s.erase location).node? other = s.node? other := by
  unfold node? erase
  split
  · rfl
  · have hfind : (s.entries.filter fun e => e.1 != location).find? (fun e => e.1 == other) =
        s.entries.find? fun e => e.1 == other := by
      rw [List.find?_filter]
      congr 1
      funext e
      by_cases he : e.1 = other
      · simp [he, h]
      · simp [he]
    rw [hfind]

/-- A node that is set and erased again leaves no trace if there was none before. -/
theorem erase_set_of_vacant (h : s.node? location = none) :
    (s.set location node).erase location = s := by
  have ha : location.isAnchor = false := by
    rw [Bool.eq_false_iff]
    intro hanchor
    simp [node?, hanchor] at h
  have hnone : ∀ e ∈ s.entries, e.1 ≠ location := by
    intro e he heq
    simp only [node?, ha, Bool.false_eq_true, ↓reduceIte, Option.map_eq_none_iff,
      List.find?_eq_none] at h
    exact h e he (beq_iff_eq.mpr heq)
  have hany : ¬ s.entries.any (fun e => e.1 == location) = true := by
    rw [List.any_eq_true]
    rintro ⟨e, he, heq⟩
    exact hnone e he (beq_iff_eq.mp heq)
  have hfilter : s.entries.filter (fun e => e.1 != location) = s.entries :=
    List.filter_eq_self.mpr fun e he => bne_iff_ne.mpr (hnone e he)
  simp [set, hany, erase, List.filter_append, hfilter]

/-- Nodes at different places are set and erased in any order. -/
theorem set_erase (s : Store) (node : Node) (h : other ≠ location) :
    (s.erase location).set other node = (s.set other node).erase location := by
  have hany : ((s.entries.filter fun e => e.1 != location).any fun e => e.1 == other) =
      s.entries.any fun e => e.1 == other := by
    rw [List.any_filter]
    congr 1
    funext e
    by_cases he : e.1 = other
    · simp [he, h]
    · simp [he]
  simp only [set, erase, hany]
  split
  · rw [List.filter_map, Store.mk.injEq]
    congr 1
    refine List.filter_congr fun e _ => ?_
    by_cases he : e.1 = other <;> simp [he]
  · simp [List.filter_append, h]

/-! ## Places -/

/-- A name in a directory that is no way back up. -/
theorem not_isAnchor {parent : Location} {name : String} (hup : name ≠ "..")
    (hroot : name ≠ "/") : Location.isAnchor (parent ++ [name]) = false := by
  simp [Location.isAnchor, hup, hroot]

/-- A step that is followed by another one has come to its end. -/
theorem exists_of_bind {α β : Type} {x : Except Cause α} {f : α → Except Cause β} {b : β}
    (h : x.bind f = .ok b) : ∃ a, x = .ok a ∧ f a = .ok b := by
  cases x with
  | error cause => cases h
  | ok a => exact ⟨a, rfl, h⟩

theorem follow_cons (s : Store) (slash : Bool) (here : Location) (first second : String)
    (rest : List String) :
    s.follow slash here (first :: second :: rest) =
      (s.enter here first).bind fun next => s.follow slash next (second :: rest) :=
  follow.eq_3 s slash here first (second :: rest) (List.cons_ne_nil second rest)

/-- The last name of a path is what is looked up in the end. -/
theorem follow_entry {slash slash' : Bool} {here parent : Location} {path : List String}
    {name : String} (h : s.follow slash here path = .ok (.entry parent name slash')) :
    (∃ above, path = above ++ [name]) ∧ name ≠ ".." ∧ slash' = slash := by
  induction path generalizing here with
  | nil => cases h
  | cons first rest ih =>
    cases rest with
    | nil =>
      rw [follow] at h
      split at h
      · cases he : s.enter here first <;> rw [he] at h <;> cases h
      · rename_i hdots
        cases h
        exact ⟨⟨[], rfl⟩, fun hup => hdots (Or.inr hup), rfl⟩
    | cons second rest =>
      rw [follow_cons] at h
      obtain ⟨next, _, hnext⟩ := exists_of_bind h
      obtain ⟨⟨above, habove⟩, hrest⟩ := ih hnext
      exact ⟨⟨first :: above, congrArg (first :: ·) habove⟩, hrest⟩

/-- Where a path starts: at the root or in the working directory. -/
def start (path : String) : Location := if path.toList.head? = some '/' then ["/"] else []

theorem locate_eq {path : String} (hne : path ≠ "") :
    s.locate path = s.follow (path.toList.getLast? = some '/') (start path) (names path) := by
  have hchars : path.toList.isEmpty = false := by
    simpa using hne
  simp [locate, hchars, names, start]

theorem ne_empty_of_locate {path : String} {target : Target} (h : s.locate path = .ok target) :
    path ≠ "" := by
  rintro rfl
  cases h

/-- An entry that a path leads to has the last name of the path. -/
theorem locate_entry {path name : String} {parent : Location} {slash : Bool}
    (h : s.locate path = .ok (.entry parent name slash)) :
    (∃ above, names path = above ++ [name]) ∧ Location.isAnchor (parent ++ [name]) = false ∧
      slash = (path.toList.getLast? = some '/' : Bool) := by
  rw [locate_eq (ne_empty_of_locate h)] at h
  obtain ⟨⟨above, habove⟩, hup, hslash⟩ := follow_entry h
  have hmem : name ∈ names path := habove ▸ by simp
  exact ⟨⟨above, habove⟩, not_isAnchor hup (ne_slash_of_mem hmem), hslash⟩

/-! ## Files -/

theorem readBytes_eq_ok_iff {path : String} {bytes : List UInt8} :
    s.readBytes path = .ok bytes ↔ ∃ parent name,
      s.locate path = .ok (.entry parent name false) ∧
        s.node? (parent ++ [name]) = some (.file bytes) := by
  unfold readBytes
  constructor
  · intro h
    split at h
    · cases h
    · cases h
    · rename_i parent name slash hl
      split at h
      · cases h
      · cases h
      · rename_i found hn
        cases slash with
        | true => cases h
        | false =>
          cases h
          exact ⟨parent, name, hl, hn⟩
  · rintro ⟨parent, name, hl, hn⟩
    simp [hl, hn]

theorem writeBytes_eq_ok_iff {path : String} {bytes : List UInt8} :
    s.writeBytes path bytes = .ok s' ↔ ∃ parent name,
      s.locate path = .ok (.entry parent name false) ∧
        s.node? (parent ++ [name]) ≠ some .directory ∧
          s' = s.set (parent ++ [name]) (.file bytes) := by
  unfold writeBytes
  constructor
  · intro h
    split at h
    · cases h
    · cases h
    · rename_i parent name slash hl
      cases slash with
      | true => cases h
      | false =>
        simp only [Bool.false_eq_true, ↓reduceIte] at h
        split at h
        · cases h
        · rename_i hn
          cases h
          exact ⟨parent, name, hl, hn, rfl⟩
  · rintro ⟨parent, name, hl, hn, rfl⟩
    simp only [hl, Bool.false_eq_true, ↓reduceIte]

/-! ## Stores that go on from others -/

/-- Every directory of a store is one of another store. -/
def KeepsDirectories (s s' : Store) : Prop :=
  ∀ location, s.node? location = some .directory → s'.node? location = some .directory

/-- Every node of a store is one of another store. -/
def Keeps (s s' : Store) : Prop :=
  ∀ location node, s.node? location = some node → s'.node? location = some node

theorem Keeps.directories (h : Keeps s s') : KeepsDirectories s s' :=
  fun location => h location .directory

theorem Keeps.refl (s : Store) : Keeps s s := fun _ _ h => h

theorem Keeps.trans {t : Store} (h : Keeps s s') (h' : Keeps s' t) : Keeps s t :=
  fun location node hn => h' location node (h location node hn)

theorem KeepsDirectories.refl (s : Store) : KeepsDirectories s s := fun _ h => h

theorem KeepsDirectories.trans {t : Store} (h : KeepsDirectories s s')
    (h' : KeepsDirectories s' t) : KeepsDirectories s t :=
  fun location hn => h' location (h location hn)

theorem KeepsDirectories.enter (h : KeepsDirectories s s') {here next : Location} {name : String}
    (he : s.enter here name = .ok next) : s'.enter here name = .ok next := by
  unfold Store.enter at he ⊢
  split
  · simpa [*] using he
  · split
    · simpa [*] using he
    · simp only [*, ↓reduceIte] at he
      split at he
      · rename_i hn
        rw [h _ hn]
        exact he
      · cases he
      · cases he

theorem KeepsDirectories.follow (h : KeepsDirectories s s') {slash : Bool} {here : Location}
    {path : List String} {target : Target} (hf : s.follow slash here path = .ok target) :
    s'.follow slash here path = .ok target := by
  induction path generalizing here with
  | nil => exact hf
  | cons first rest ih =>
    cases rest with
    | nil =>
      rw [Store.follow] at hf ⊢
      split
      · rename_i hdots
        rw [if_pos hdots] at hf
        cases he : s.enter here first with
        | error cause => rw [he] at hf; cases hf
        | ok next =>
          rw [h.enter he]
          rw [he] at hf
          exact hf
      · rename_i hdots
        rwa [if_neg hdots] at hf
    | cons second rest =>
      rw [follow_cons] at hf ⊢
      obtain ⟨next, he, hnext⟩ := exists_of_bind hf
      rw [h.enter he]
      exact ih hnext

/-- Where there are more directories, paths lead to the same places. -/
theorem KeepsDirectories.locate (h : KeepsDirectories s s') {path : String} {target : Target}
    (hl : s.locate path = .ok target) : s'.locate path = .ok target := by
  have hne := ne_empty_of_locate hl
  rw [locate_eq hne] at hl ⊢
  exact h.follow hl

private theorem keepsDirectories_set_file {bytes : List UInt8} (h : location.isAnchor = false)
    (hn : s.node? location ≠ some .directory) :
    KeepsDirectories s (s.set location (.file bytes)) := by
  intro other ho
  rw [node?_set s _ h, if_neg]
  · exact ho
  · rintro rfl
    exact hn ho

theorem keepsDirectories_writeBytes {path : String} {bytes : List UInt8}
    (h : s.writeBytes path bytes = .ok s') : KeepsDirectories s s' := by
  obtain ⟨parent, name, hl, hn, rfl⟩ := writeBytes_eq_ok_iff.mp h
  exact keepsDirectories_set_file (locate_entry hl).2.1 hn

/-- A path leads to a name in a directory that is there, and this is its place. -/
def LeadsTo (s : Store) (path : String) (location : Location) : Prop :=
  ∃ parent name, s.locate path = .ok (.entry parent name false) ∧ location = parent ++ [name]

theorem KeepsDirectories.leadsTo (h : KeepsDirectories s s') {path : String}
    (hl : s.LeadsTo path location) : s'.LeadsTo path location := by
  obtain ⟨parent, name, hlocate, he⟩ := hl
  exact ⟨parent, name, h.locate hlocate, he⟩

/-- A path leads to a place where a file can be written. -/
def Accepts (s : Store) (path : String) : Prop :=
  ∃ location, s.LeadsTo path location ∧ s.node? location ≠ some .directory

theorem accepts_iff {path : String} {bytes : List UInt8} :
    s.Accepts path ↔ ∃ s', s.writeBytes path bytes = .ok s' := by
  constructor
  · rintro ⟨_, ⟨parent, name, hl, rfl⟩, hn⟩
    exact ⟨_, writeBytes_eq_ok_iff.mpr ⟨parent, name, hl, hn, rfl⟩⟩
  · rintro ⟨s', h⟩
    obtain ⟨parent, name, hl, hn, _⟩ := writeBytes_eq_ok_iff.mp h
    exact ⟨_, ⟨parent, name, hl, rfl⟩, hn⟩

/-- Writing a file leaves the places as they are where others can be written. -/
theorem Accepts.writeBytes {path other : String} {bytes : List UInt8} (h : s.Accepts path)
    (hwritten : s.writeBytes other bytes = .ok s') : s'.Accepts path := by
  obtain ⟨location, hleads, hn⟩ := h
  refine ⟨location, (keepsDirectories_writeBytes hwritten).leadsTo hleads, ?_⟩
  obtain ⟨parent, name, hl, _, rfl⟩ := writeBytes_eq_ok_iff.mp hwritten
  rw [node?_set s _ (locate_entry hl).2.1]
  split
  · nofun
  · exact hn

/-- A file holds what was written to it. -/
theorem readBytes_writeBytes_self {path : String} {bytes : List UInt8}
    (h : s.writeBytes path bytes = .ok s') : s'.readBytes path = .ok bytes := by
  have hkeeps := keepsDirectories_writeBytes h
  obtain ⟨parent, name, hl, _, rfl⟩ := writeBytes_eq_ok_iff.mp h
  refine readBytes_eq_ok_iff.mpr ⟨parent, name, hkeeps.locate hl, ?_⟩
  rw [node?_set s _ (locate_entry hl).2.1, if_pos rfl]

/-- Writing a file leaves every file of another name as it is. -/
theorem readBytes_writeBytes_of_ne {path path' : String} {bytes bytes' : List UInt8}
    (h : s.writeBytes path bytes = .ok s') (hr : s.readBytes path' = .ok bytes')
    (hne : (names path').getLast? ≠ (names path).getLast?) : s'.readBytes path' = .ok bytes' := by
  have hkeeps := keepsDirectories_writeBytes h
  obtain ⟨parent, name, hl, _, rfl⟩ := writeBytes_eq_ok_iff.mp h
  obtain ⟨parent', name', hl', hn'⟩ := readBytes_eq_ok_iff.mp hr
  obtain ⟨⟨above, habove⟩, ha, _⟩ := locate_entry hl
  obtain ⟨⟨above', habove'⟩, _, _⟩ := locate_entry hl'
  refine readBytes_eq_ok_iff.mpr ⟨parent', name', hkeeps.locate hl', ?_⟩
  rw [node?_set s _ ha, if_neg]
  · exact hn'
  · intro he
    refine hne ?_
    rw [habove, habove', List.getLast?_concat, List.getLast?_concat]
    have hlast := congrArg List.getLast? he
    rwa [List.getLast?_concat, List.getLast?_concat] at hlast

theorem Keeps.readBytes (h : Keeps s s') {path : String} {bytes : List UInt8}
    (hr : s.readBytes path = .ok bytes) : s'.readBytes path = .ok bytes := by
  obtain ⟨parent, name, hl, hn⟩ := readBytes_eq_ok_iff.mp hr
  exact readBytes_eq_ok_iff.mpr ⟨parent, name, h.directories.locate hl, h _ _ hn⟩

theorem Keeps.readText (h : Keeps s s') {path text : String} (hr : s.readText path = .ok text) :
    s'.readText path = .ok text := by
  unfold Store.readText at hr ⊢
  cases hbytes : s.readBytes path with
  | error fault =>
    rw [hbytes] at hr
    cases hr
  | ok bytes =>
    rw [hbytes] at hr
    rw [h.readBytes hbytes]
    exact hr

/-! ## Texts -/

theorem writeText_of_isString {text : Points} (h : text.isString = true) (s : Store)
    (path : String) :
    s.writeText path text =
      match s.writeBytes path (Utf8.encode text.shown.toList) with
      | .error f => (s, some (.file f))
      | .ok s' => (s', none) := by
  cases hwritten : s.writeBytes path (Utf8.encode text.shown.toList) <;>
    simp [writeText, Utf8.encodePoints_of_isString h, hwritten]

theorem writeText_of_encodeFault {text : Points} {fault : Utf8.EncodeFault}
    (h : Utf8.encodePoints text = .error fault) (s : Store) (path : String) :
    s.writeText path text =
      match s.writeBytes path [] with
      | .error f => (s, some (.file f))
      | .ok s' => (s', some (.encoding fault)) := by
  cases hwritten : s.writeBytes path [] <;> simp [writeText, h, hwritten]

theorem writeText_eq_none_iff {path : String} {text : Points} :
    s.writeText path text = (s', none) ↔
      ∃ bytes, Utf8.encodePoints text = .ok bytes ∧ s.writeBytes path bytes = .ok s' := by
  rw [writeText]
  cases Utf8.encodePoints text with
  | ok bytes => cases hwritten : s.writeBytes path bytes <;> simp [hwritten]
  | error fault => cases hwritten : s.writeBytes path [] <;> simp [hwritten]

/-- A text is at fault where an empty one could be written. -/
theorem writeText_encoding_iff {path : String} {text : Points} {fault : Utf8.EncodeFault} :
    (s.writeText path text).2 = some (.encoding fault) ↔
      (s.writeText path "").2 = none ∧ Utf8.encodePoints text = .error fault := by
  have hempty : Utf8.encodePoints [] = .ok [] := rfl
  cases hencoded : Utf8.encodePoints text with
  | ok bytes => cases hwritten : s.writeBytes path bytes <;> simp [writeText, hencoded, hwritten]
  | error found =>
    rw [writeText_of_encodeFault hencoded]
    cases hwritten : s.writeBytes path [] <;> simp [writeText, hempty, hwritten]

/-- Writing a text leaves the store as it was, or with the bytes of some text. -/
theorem writeText_cases (s : Store) (path : String) (text : Points) :
    (s.writeText path text).1 = s ∨ ∃ written : String,
      s.writeBytes path (Utf8.encode written.toList) = .ok (s.writeText path text).1 := by
  cases h : text.isString with
  | true =>
    rw [writeText_of_isString h]
    cases hwritten : s.writeBytes path (Utf8.encode text.shown.toList) with
    | error f => exact Or.inl rfl
    | ok s' => exact Or.inr ⟨text.shown, hwritten⟩
  | false =>
    obtain ⟨fault, hfault⟩ := Utf8.exists_encodeFault h
    rw [writeText_of_encodeFault hfault]
    cases hwritten : s.writeBytes path [] with
    | error f => exact Or.inl rfl
    | ok s' => exact Or.inr ⟨"", hwritten⟩

theorem keepsDirectories_writeText (s : Store) (path : String) (text : Points) :
    KeepsDirectories s (s.writeText path text).1 := by
  rcases writeText_cases s path text with he | ⟨written, hwritten⟩
  · rw [he]
    exact KeepsDirectories.refl s
  · exact keepsDirectories_writeBytes hwritten

/-! ## Directories -/

/-- What is at a place stays as it is, or there is nothing and a directory is made. -/
def KeepsAt (s s' : Store) (location : Location) : Prop :=
  s'.node? location = s.node? location ∨
    s.node? location = none ∧ s'.node? location = some .directory

theorem KeepsAt.trans {t : Store} (h : KeepsAt s s' location) (h' : KeepsAt s' t location) :
    KeepsAt s t location := by
  rcases h' with he | ⟨hnone, hnew⟩
  · unfold KeepsAt
    rw [he]
    exact h
  · rcases h with he | ⟨_, hmade⟩
    · exact Or.inr ⟨he ▸ hnone, hnew⟩
    · rw [hnone] at hmade
      cases hmade

/-- Directories are made, and nothing else is done. -/
def AddsDirectories (s s' : Store) : Prop := ∀ location, KeepsAt s s' location

theorem AddsDirectories.refl (s : Store) : AddsDirectories s s := fun _ => Or.inl rfl

theorem AddsDirectories.trans {t : Store} (h : AddsDirectories s s')
    (h' : AddsDirectories s' t) : AddsDirectories s t :=
  fun location => (h location).trans (h' location)

theorem AddsDirectories.keeps (h : AddsDirectories s s') : Keeps s s' := by
  intro location node hnode
  rcases h location with he | ⟨hnone, _⟩
  · rw [he, hnode]
  · rw [hnone] at hnode
    cases hnode

private theorem addsDirectories_makeDirectory {path : String} (h : s.makeDirectory path = .ok s') :
    AddsDirectories s s' := by
  unfold makeDirectory at h
  split at h
  · cases h
  · cases h
  · rename_i parent name slash hl
    split at h
    · cases h
    · rename_i hn
      cases h
      intro other
      rw [KeepsAt, node?_set s _ (locate_entry hl).2.1]
      split
      · rename_i ho
        exact Or.inr ⟨ho ▸ hn, rfl⟩
      · exact Or.inl rfl

private theorem addsDirectories_makeLast (mayExist : Bool) (path : String) :
    AddsDirectories s (s.makeLast mayExist path).1 := by
  unfold makeLast
  split
  · rename_i made hm
    exact addsDirectories_makeDirectory hm
  · exact AddsDirectories.refl s

private theorem addsDirectories_makeAll (mayExist : Bool) (fuel : Nat) (s : Store) (path : String) :
    AddsDirectories s (makeAll mayExist fuel s path).1 := by
  induction fuel generalizing path with
  | zero => exact addsDirectories_makeLast mayExist path
  | succ fuel ih =>
    simp only [makeAll]
    have habove := ih (parentAndLast path).1
    split
    · exact addsDirectories_makeLast mayExist path
    · split
      · rename_i made fault hm
        rw [hm] at habove
        split
        · exact habove
        · split
          · exact habove
          · exact habove.trans (addsDirectories_makeLast mayExist path)
      · rename_i made hm
        rw [hm] at habove
        split
        · exact habove
        · exact habove.trans (addsDirectories_makeLast mayExist path)

theorem makeDirectories_adds (s : Store) (path : String) (mayExist : Bool) :
    AddsDirectories s (s.makeDirectories path mayExist).1 :=
  addsDirectories_makeAll mayExist path.length s path

/-- Making directories leaves everything that is there. -/
theorem makeDirectories_keeps (s : Store) (path : String) (mayExist : Bool) :
    Keeps s (s.makeDirectories path mayExist).1 :=
  (makeDirectories_adds s path mayExist).keeps

end SampleSchema.Files.Store

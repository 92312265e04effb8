import SampleSchema.Infer.Build
/-!
A walk over a document as a list of steps that depends on the document alone.

* `tour`, `documentTour`: the steps in the order in which the objects begin and
  the values below a property end;
* `turn_eq`, `turns_eq`: a turn of the walk takes the next few steps, and any
  number of turns takes the steps of a front part of the tour;
* `walk_eq_follow`: a walk takes all the steps that its stack has left;
* `walk_eq_descend`: the walk with a stack of its own gives what the walk by
  recursion gives, and it ends after one turn for each object and each member.
-/

namespace SampleSchema.Infer

open Json Schema Text

variable {singular : Points → Points}

inductive Step where
  /-- An object of this class begins. -/
  | enter (className : Points)
  /-- A property shows its type, after all that is below its value. -/
  | visit (className property : Points) (v : Document)

mutual
/-- The steps over the members that are left of an object. -/
def tour (singular : Points → Points) (className : Points) : List (Points × Document) → List Step
  | [] => []
  | (property, v) :: rest =>
      tourOf singular property v ++ .visit className property v :: tour singular className rest

/-- The steps below a value. Of an array only the first element counts. -/
def tourOf (singular : Points → Points) (property : Points) : Document → List Step
  | .object members => .enter property :: tour singular property members
  | .array (.object members :: _) =>
      .enter (singular property) :: tour singular (singular property) members
  | _ => []
end

def documentTour (singular : Points → Points) (root : Points) (members : List (Points × Document)) :
    List Step :=
  .enter root :: tour singular root members

def Draft.take (singular : Points → Points) (strict : Bool) (d : Draft) :
    Step → Except Stopped Draft
  | .enter className => .ok (d.enter className)
  | .visit className property v => d.visit singular strict className property v

/-- Take steps in their order, up to the first that cannot be taken. -/
def follow (singular : Points → Points) (strict : Bool) (steps : List Step) (d : Draft) :
    Except Stopped Draft :=
  steps.foldlM (Draft.take singular strict) d

@[simp] theorem follow_nil (strict : Bool) (d : Draft) : follow singular strict [] d = .ok d := rfl

@[simp] theorem follow_cons (strict : Bool) (s : Step) (steps : List Step) (d : Draft) :
    follow singular strict (s :: steps) d =
      (d.take singular strict s).bind (follow singular strict steps) := rfl

theorem follow_append (strict : Bool) (front back : List Step) (d : Draft) :
    follow singular strict (front ++ back) d =
      (follow singular strict front d).bind (follow singular strict back) := by
  induction front generalizing d with
  | nil => rfl
  | cons s front ih =>
    simp only [List.cons_append, follow_cons]
    cases d.take singular strict s with
    | error reason => rfl
    | ok d => exact ih d

theorem tourOf_eq (property : Points) (v : Document) :
    tourOf singular property v =
      match nested? singular property v with
      | some (className, members) => .enter className :: tour singular className members
      | none => [] := by
  fun_cases nested? singular property v with
  | case1 members => rw [tourOf]
  | case2 members tail => rw [tourOf]
  | case3 v ho ha => rw [tourOf] <;> assumption

theorem tour_nested {property inner : Points} {v : Document} {members : List (Points × Document)}
    (h : nested? singular property v = some (inner, members)) (className : Points)
    (rest : List (Points × Document)) :
    tour singular className ((property, v) :: rest) =
      .enter inner :: tour singular inner members ++
        .visit className property v :: tour singular className rest := by
  rw [tour, tourOf_eq, h]

theorem tour_flat {property : Points} {v : Document} (h : nested? singular property v = none)
    (className : Points) (rest : List (Points × Document)) :
    tour singular className ((property, v) :: rest) =
      .visit className property v :: tour singular className rest := by
  rw [tour, tourOf_eq, h]
  rfl

/-- Induction over the members of an object, and over those of the objects in
it that are walked. -/
@[elab_as_elim]
theorem members_induction {motive : Points → List (Points × Document) → Prop}
    (nil : ∀ className, motive className [])
    (nested : ∀ className property v rest inner members,
      nested? singular property v = some (inner, members) → motive inner members →
        motive className rest → motive className ((property, v) :: rest))
    (flat : ∀ className property v rest, nested? singular property v = none →
      motive className rest → motive className ((property, v) :: rest))
    (className : Points) (members : List (Points × Document)) : motive className members := by
  refine tour.induct singular motive
    (fun property v => ∀ inner ms, nested? singular property v = some (inner, ms) → motive inner ms)
    ?_ ?_ ?_ nil ?_ className members
  · intro property ms ih inner ms' h
    cases h
    exact ih
  · intro property ms tail ih inner ms' h
    cases h
    exact ih
  · intro v property ho ha inner ms h
    unfold nested? at h
    split at h
    · exact absurd rfl (ho _)
    · exact absurd rfl (ha _ _)
    · cases h
  · intro className property v rest hv hrest
    cases hn : nested? singular property v with
    | none => exact flat className property v rest hn hrest
    | some entry =>
      exact nested className property v rest entry.1 entry.2 hn (hv entry.1 entry.2 hn) hrest

/-! ## Turns of the walk -/

namespace Frame

def settleSteps (f : Frame) : List Step :=
  match f.pending with
  | some (property, v) => [.visit f.className property v]
  | none => []

def advanceSteps (singular : Points → Points) (f : Frame) : List Step :=
  match f.members with
  | [] => []
  | (property, v) :: _ =>
      match nested? singular property v with
      | some (className, _) => [.enter className]
      | none => [.visit f.className property v]

def turnSteps (singular : Points → Points) (f : Frame) : List Step :=
  f.settleSteps ++ f.advanceSteps singular

/-- The stack after one turn. -/
def next (singular : Points → Points) (f : Frame) (below : List Frame) : List Frame :=
  match f.members with
  | [] => below
  | (property, v) :: rest =>
      match nested? singular property v with
      | some (className, members) =>
          { className, members } :: ⟨f.className, some (property, v), rest⟩ :: below
      | none => ⟨f.className, none, rest⟩ :: below

def steps (singular : Points → Points) (f : Frame) : List Step :=
  f.settleSteps ++ tour singular f.className f.members

/-- The turns that are left for a frame: one for each step over its members,
and one to leave it. -/
def turnsLeft (singular : Points → Points) (f : Frame) : Nat :=
  (tour singular f.className f.members).length + 1

private theorem settle_eq (strict : Bool) (f : Frame) (d : Draft) :
    f.settle singular strict d = follow singular strict f.settleSteps d := by
  unfold settle settleSteps
  cases f.pending with
  | none => rfl
  | some entry =>
    simp only [follow_cons, Draft.take]
    cases d.visit singular strict f.className entry.1 entry.2 <;> rfl

private theorem advance_eq (strict : Bool) (f : Frame) (below : List Frame) (d : Draft) :
    f.advance singular strict below d =
      (follow singular strict (f.advanceSteps singular) d).map (f.next singular below, ·) := by
  obtain ⟨className, pending, members⟩ := f
  cases members with
  | nil => rfl
  | cons entry rest =>
    simp only [advance, advanceSteps, next]
    cases nested? singular entry.1 entry.2 with
    | some inner => rfl
    | none =>
      simp only [follow_cons, Draft.take]
      cases d.visit singular strict className entry.1 entry.2 <;> rfl

/-- The stack after a turn depends on the document alone. -/
theorem turn_eq (strict : Bool) (f : Frame) (below : List Frame) (d : Draft) :
    f.turn singular strict below d =
      (follow singular strict (f.turnSteps singular) d).map (f.next singular below, ·) := by
  rw [turnSteps, follow_append, ← settle_eq, turn]
  cases f.settle singular strict d with
  | error reason => rfl
  | ok d => exact advance_eq strict f below d

end Frame

def stackSteps (singular : Points → Points) (stack : List Frame) : List Step :=
  stack.flatMap (Frame.steps singular)

def stackTurns (singular : Points → Points) : List Frame → Nat
  | [] => 0
  | f :: below => f.turnsLeft singular + stackTurns singular below

theorem stackSteps_next (f : Frame) (below : List Frame) :
    stackSteps singular (f :: below) =
      f.turnSteps singular ++ stackSteps singular (f.next singular below) := by
  simp only [stackSteps, List.flatMap_cons, Frame.steps, Frame.turnSteps, List.append_assoc,
    List.append_cancel_left_eq]
  unfold Frame.advanceSteps Frame.next
  split
  · rename_i hm
    simp [hm, tour]
  · rename_i hm
    split
    · rename_i hn
      simp [hm, tour_nested hn, Frame.steps, Frame.settleSteps]
    · rename_i hn
      simp [hm, tour_flat hn, Frame.steps, Frame.settleSteps]

private theorem stackTurns_next (f : Frame) (below : List Frame) :
    stackTurns singular (f :: below) = stackTurns singular (f.next singular below) + 1 := by
  simp only [stackTurns, Frame.turnsLeft]
  unfold Frame.next
  split
  · rename_i hm
    simp only [hm, tour, List.length_nil]
    omega
  · rename_i hm
    split
    · rename_i hn
      simp only [hm, tour_nested hn, stackTurns, Frame.turnsLeft, List.length_append,
        List.length_cons]
      omega
    · rename_i hn
      simp only [hm, tour_flat hn, stackTurns, Frame.turnsLeft, List.length_cons]
      omega

def turns (singular : Points → Points) (strict : Bool) :
    Nat → List Frame → Draft → Except Stopped (List Frame × Draft)
  | 0, stack, d => .ok (stack, d)
  | _ + 1, [], d => .ok ([], d)
  | n + 1, f :: below, d =>
      (f.turn singular strict below d).bind fun (stack, d) => turns singular strict n stack d

/-- The stack after at most `n` turns. -/
def stackAfter (singular : Points → Points) : Nat → List Frame → List Frame
  | 0, stack => stack
  | _ + 1, [] => []
  | n + 1, f :: below => stackAfter singular n (f.next singular below)

def stepsIn (singular : Points → Points) : Nat → List Frame → List Step
  | 0, _ => []
  | _ + 1, [] => []
  | n + 1, f :: below => f.turnSteps singular ++ stepsIn singular n (f.next singular below)

/-- Any number of turns takes the steps of a front part of the tour. -/
theorem turns_eq (strict : Bool) (n : Nat) (stack : List Frame) (d : Draft) :
    turns singular strict n stack d =
      (follow singular strict (stepsIn singular n stack) d).map
        (stackAfter singular n stack, ·) := by
  induction n generalizing stack d with
  | zero => rfl
  | succ n ih =>
    cases stack with
    | nil => rfl
    | cons f below =>
      rw [turns, stepsIn, stackAfter, follow_append, Frame.turn_eq]
      cases follow singular strict (f.turnSteps singular) d with
      | error reason => rfl
      | ok d => exact ih (f.next singular below) d

theorem stepsIn_append (singular : Points → Points) (n : Nat) (stack : List Frame) :
    stepsIn singular n stack ++ stackSteps singular (stackAfter singular n stack) =
      stackSteps singular stack := by
  induction n generalizing stack with
  | zero => rfl
  | succ n ih =>
    cases stack with
    | nil => rfl
    | cons f below => rw [stepsIn, stackAfter, List.append_assoc, ih, stackSteps_next]

private theorem stackAfter_stackTurns (stack : List Frame) :
    stackAfter singular (stackTurns singular stack) stack = [] := by
  generalize hn : stackTurns singular stack = n
  induction n generalizing stack with
  | zero =>
    cases stack with
    | nil => rfl
    | cons f below => rw [stackTurns_next] at hn; omega
  | succ n ih =>
    cases stack with
    | nil => rfl
    | cons f below =>
      rw [stackTurns_next] at hn
      exact ih (f.next singular below) (by omega)

/-- After its last turn a walk has taken all the steps. -/
theorem turns_stackTurns (strict : Bool) (stack : List Frame) (d : Draft) :
    turns singular strict (stackTurns singular stack) stack d =
      (follow singular strict (stackSteps singular stack) d).map ([], ·) := by
  have hs := stepsIn_append singular (stackTurns singular stack) stack
  rw [stackAfter_stackTurns] at hs
  rw [turns_eq, stackAfter_stackTurns, ← hs]
  simp [stackSteps]

/-- A walk takes all the steps that its stack has left. -/
theorem walk_eq_follow (strict : Bool) (stack : List Frame) (d : Draft) :
    walk singular strict stack d = follow singular strict (stackSteps singular stack) d := by
  -- a turn takes the first of the steps that are left, by `stackSteps_next`
  fun_induction walk singular strict stack d with
  | case1 d => rfl
  | case2 f below d reason h =>
    rw [Frame.turn_eq] at h
    rw [stackSteps_next, follow_append]
    cases hf : follow singular strict (f.turnSteps singular) d with
    | error reason' => rw [hf] at h; cases h; rfl
    | ok d' => rw [hf] at h; cases h
  | case3 f below d stack d' h ih =>
    rw [Frame.turn_eq] at h
    rw [ih, stackSteps_next, follow_append]
    cases hf : follow singular strict (f.turnSteps singular) d with
    | error reason => rw [hf] at h; cases h
    | ok d' => rw [hf] at h; cases h; rfl

theorem stackSteps_rootFrame (root : Points) (members : List (Points × Document)) :
    stackSteps singular [rootFrame root members] = tour singular root members := by
  simp [stackSteps, Frame.steps, Frame.settleSteps, rootFrame]

theorem walkDocument_eq_follow (strict : Bool) (root : Points)
    (members : List (Points × Document)) :
    walkDocument singular strict root members =
      follow singular strict (documentTour singular root members) {} := by
  rw [walkDocument, walk_eq_follow, stackSteps_rootFrame]
  rfl

/-! ## The walk by recursion -/

mutual
/-- Walk the members of an object one after the other. A property shows its
type when all below its value has been walked. -/
def descend (singular : Points → Points) (strict : Bool) (className : Points) :
    List (Points × Document) → Draft → Except Stopped Draft
  | [], d => .ok d
  | (property, v) :: rest, d => do
      let d ← descendInto singular strict property v d
      let d ← d.visit singular strict className property v
      descend singular strict className rest d

/-- Walk the object that a value holds for a property, in the class that is
named like the property or, for the first element of an array, like its
singular. -/
def descendInto (singular : Points → Points) (strict : Bool) (property : Points) :
    Document → Draft → Except Stopped Draft
  | .object members, d => descend singular strict property members (d.enter property)
  | .array (.object members :: _), d =>
      descend singular strict (singular property) members (d.enter (singular property))
  | _, d => .ok d
end

private theorem descendInto_eq (strict : Bool) (property : Points) (v : Document) (d : Draft) :
    descendInto singular strict property v d =
      match nested? singular property v with
      | some (className, members) => descend singular strict className members (d.enter className)
      | none => .ok d := by
  fun_cases nested? singular property v with
  | case1 members => rw [descendInto]
  | case2 members tail => rw [descendInto]
  | case3 v ho ha => rw [descendInto] <;> assumption

private theorem descend_eq_follow (strict : Bool) (className : Points)
    (members : List (Points × Document)) (d : Draft) :
    descend singular strict className members d =
      follow singular strict (tour singular className members) d := by
  induction className, members using members_induction generalizing d with
  | nil className => rw [descend, tour]; rfl
  | nested className property v rest inner members hn ihm ih =>
    rw [descend, descendInto_eq, hn, tour_nested hn, follow_append]
    simp only [ihm, follow_cons, Draft.take]
    change (follow singular strict (tour singular inner members) (d.enter inner)).bind _ = _
    congr 1
    funext d
    change (d.visit singular strict className property v).bind _ = _
    simp only [ih]
    rfl
  | flat className property v rest hn ih =>
    rw [descend, descendInto_eq, hn, tour_flat hn]
    change (d.visit singular strict className property v).bind _ = _
    simp only [ih]
    rfl

/-- The loop gives what the recursion gives: the same classes in the same order
with the same observed fields, the same log, and the same conflict if there is
one. It is over after one turn for each object and each member that is walked. -/
theorem walk_eq_descend (strict : Bool) (root : Points) (members : List (Points × Document)) :
    walkDocument singular strict root members =
      descend singular strict root members (Draft.enter {} root) ∧
    turns singular strict (documentTour singular root members).length [rootFrame root members]
        (Draft.enter {} root) =
      (descend singular strict root members (Draft.enter {} root)).map ([], ·) := by
  have hturns : stackTurns singular [rootFrame root members] =
      (documentTour singular root members).length := by
    simp [stackTurns, Frame.turnsLeft, rootFrame, documentTour]
  constructor
  · rw [walkDocument, walk_eq_follow, stackSteps_rootFrame, descend_eq_follow]
  · rw [← hturns, turns_stackTurns, stackSteps_rootFrame, descend_eq_follow]

end SampleSchema.Infer

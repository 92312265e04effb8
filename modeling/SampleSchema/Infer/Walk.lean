import SampleSchema.Infer.Draft
/-!
The walk over a document, depth first and with a stack of its own, so that the
depth of a document is not bounded by the depth of calls.

The stack holds one frame for each object that is being walked. A property
whose value holds a further object waits on its frame until that object has
been walked, and only then shows its type.
-/

namespace SampleSchema.Infer

open Json Schema Text

structure Frame where
  /-- The class of the object. -/
  className : Points
  /-- The property whose nested object is being walked. -/
  pending : Option (Points × Document) := none
  /-- The members that are left. -/
  members : List (Points × Document)

variable (singular : Points → Points)

namespace Frame

/-- Let the waiting property show its type. -/
def settle (strict : Bool) (f : Frame) (d : Draft) : Except Stopped Draft :=
  match f.pending with
  | some (property, v) => d.visit singular strict f.className property v
  | none => .ok d

/-- Take the next member of the uppermost object, or leave the object. -/
def advance (strict : Bool) (f : Frame) (below : List Frame) (d : Draft) :
    Except Stopped (List Frame × Draft) :=
  match f.members with
  | [] => .ok (below, d)
  | (property, v) :: rest =>
      match nested? singular property v with
      | some (className, members) =>
          .ok ({ className, members } :: ⟨f.className, some (property, v), rest⟩ :: below,
            d.enter className)
      | none => do
          let d ← d.visit singular strict f.className property v
          return (⟨f.className, none, rest⟩ :: below, d)

/-- One turn of the walk at the uppermost frame. -/
def turn (strict : Bool) (f : Frame) (below : List Frame) (d : Draft) :
    Except Stopped (List Frame × Draft) := do
  let d ← f.settle singular strict d
  f.advance singular strict below d

/-- What is left to do for a frame. A turn lowers the sum over the stack. -/
noncomputable def weight (f : Frame) : Nat :=
  sizeOf f.members + (if f.pending.isSome then 1 else 0) + 1

end Frame

noncomputable def stackWeight : List Frame → Nat
  | [] => 0
  | f :: below => f.weight + stackWeight below

/-- The members of a nested object are smaller than the value that holds it. -/
private theorem size_of_nested {property className : Points} {v : Document}
    {members : List (Points × Document)}
    (h : nested? singular property v = some (className, members)) :
    sizeOf members < sizeOf v := by
  unfold nested? at h
  split at h
  · cases h; simp
  · cases h; simp; omega
  · cases h

/-- Every turn lowers the weight of the stack. -/
theorem stackWeight_turn {strict : Bool} {f : Frame} {below stack : List Frame}
    {d d' : Draft} (h : f.turn singular strict below d = .ok (stack, d')) :
    stackWeight stack < stackWeight (f :: below) := by
  simp only [Frame.turn, bind, Except.bind] at h
  split at h
  · cases h
  · rename_i d₁ _
    unfold Frame.advance at h
    split at h
    · cases h
      simp only [stackWeight, Frame.weight]
      omega
    · rename_i property v rest hm
      split at h
      · rename_i hn
        have := size_of_nested singular hn
        cases h
        simp [stackWeight, Frame.weight, hm]
        omega
      · simp only [bind, Except.bind] at h
        split at h
        · cases h
        · cases h
          simp [stackWeight, Frame.weight, hm]
          omega

/-- Walk until the stack is empty. -/
def walk (strict : Bool) : List Frame → Draft → Except Stopped Draft
  | [], d => .ok d
  | f :: below, d =>
      match _h : f.turn singular strict below d with
      | .error reason => .error reason
      | .ok (stack, d) => walk strict stack d
  termination_by stack => stackWeight stack
  decreasing_by exact stackWeight_turn singular _h

end SampleSchema.Infer

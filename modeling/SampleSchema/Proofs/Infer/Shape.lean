import SampleSchema.Naming.Singular
import SampleSchema.Proofs.Infer.History
/-!
What a build sees of a document.

* `SameShape`: documents with the same keys and the same kinds of scalars, of
  whose arrays the first items agree;
* `outline`: a document reduced to what such documents have in common;
* `tour_outlineIn`, `follow_outlined`: the steps over a document and over its
  outline lead to the same;
* `build_sameShape`: the build of a document is the build of its outline, and
  documents of the same shape give the same report.
-/

namespace SampleSchema.Infer

open Json Schema Text

variable {singular : Points → Points}

mutual
/-- Scalars of one kind, objects with the same keys in the same order whose
values have the same shape, and arrays whose first items are both missing, both
arrays, or of the same shape. -/
inductive SameShape : Document → Document → Prop
  | null : SameShape .null .null
  | bool (b c : Bool) : SameShape (.bool b) (.bool c)
  | int (m n : Int) : SameShape (.int m) (.int n)
  | float (s t : String) : SameShape (.float s) (.float t)
  | string (s t : Points) : SameShape (.string s) (.string t)
  | object {members others : List (Points × Document)} : SameMembers members others →
      SameShape (.object members) (.object others)
  | noItems : SameShape (.array []) (.array [])
  /-- Nothing in an array in an array counts. -/
  | arrays (inner inner' rest rest' : List Document) :
      SameShape (.array (.array inner :: rest)) (.array (.array inner' :: rest'))
  | items {v w : Document} (rest rest' : List Document) : SameShape v w →
      SameShape (.array (v :: rest)) (.array (w :: rest'))

/-- The same keys in the same order, with values of the same shape. -/
inductive SameMembers : List (Points × Document) → List (Points × Document) → Prop
  | nil : SameMembers [] []
  | cons {v w : Document} {rest rest' : List (Points × Document)} (key : Points) : SameShape v w →
      SameMembers rest rest' → SameMembers ((key, v) :: rest) ((key, w) :: rest')
end

mutual
/-- A document of the same shape with only one scalar of each kind, in which no
array has a second item and no array in an array has any. -/
def outline : Document → Document
  | .null => .null
  | .bool _ => .bool false
  | .int _ => .int 0
  | .float _ => .float "0.0"
  | .string _ => .string ""
  | .object members => .object (outlineIn members)
  | .array [] => .array []
  | .array (v :: _) => .array [if v.kind = .array then .array [] else outline v]

/-- The members of an object, each with the outline of its value. -/
def outlineIn : List (Points × Document) → List (Points × Document)
  | [] => []
  | (key, v) :: rest => (key, outline v) :: outlineIn rest
end

/-! ## Outlines and shapes -/

theorem SameShape.kind_eq {v w : Document} (h : SameShape v w) : v.kind = w.kind := by
  cases h <;> rfl

mutual
theorem SameShape.outline_eq {v w : Document} : SameShape v w → outline v = outline w
  | .null => rfl
  | .bool _ _ => rfl
  | .int _ _ => rfl
  | .float _ _ => rfl
  | .string _ _ => rfl
  | .object h => by rw [outline, outline, h.outlineIn_eq]
  | .noItems => rfl
  | .arrays _ _ _ _ => rfl
  | .items _ _ h => by rw [outline, outline, h.kind_eq, h.outline_eq]

theorem SameMembers.outlineIn_eq {members others : List (Points × Document)} :
    SameMembers members others → outlineIn members = outlineIn others
  | .nil => rfl
  | .cons key h hrest => by rw [outlineIn, outlineIn, h.outline_eq, hrest.outlineIn_eq]
end

mutual
theorem sameShape_outline : (v : Document) → SameShape v (outline v)
  | .null => .null
  | .bool b => .bool b false
  | .int n => .int n 0
  | .float s => .float s "0.0"
  | .string s => .string s ""
  | .object members => by rw [outline]; exact .object (sameMembers_outlineIn members)
  | .array [] => .noItems
  | .array (v :: rest) => by
    rw [outline]
    split
    · rename_i hk
      cases v with
      | array inner => exact .arrays inner [] rest []
      | _ => cases hk
    · exact .items rest [] (sameShape_outline v)

private theorem sameMembers_outlineIn :
    (members : List (Points × Document)) → SameMembers members (outlineIn members)
  | [] => .nil
  | (key, v) :: rest => by
    rw [outlineIn]
    exact .cons key (sameShape_outline v) (sameMembers_outlineIn rest)
end

/-! ## The steps over an outline -/

private theorem nested?_outline (property : Points) (v : Document) :
    nested? singular property (outline v) =
      (nested? singular property v).map fun m => (m.1, outlineIn m.2) := by
  cases v with
  | array items =>
    cases items with
    | nil => rfl
    | cons first rest => cases first <;> simp [outline, nested?, Tree.kind]
  | object members => simp [outline, nested?]
  | _ => rfl

/-- A value and its outline show the same type. -/
theorem resolve_outline (isClass : Points → Bool) (property : Points) (v : Document) :
    resolve singular isClass property (outline v) = resolve singular isClass property v := by
  cases v with
  | array items =>
    cases items with
    | nil => rfl
    | cons first rest => cases first <;> simp [outline, resolve, itemType, scalarType, Tree.kind]
  | object members => simp [outline, resolve]
  | _ => rfl

def Step.outlined : Step → Step
  | .enter className => .enter className
  | .visit className property v => .visit className property (outline v)

theorem tour_outlineIn (className : Points) (members : List (Points × Document)) :
    tour singular className (outlineIn members) =
      (tour singular className members).map Step.outlined := by
  induction className, members using members_induction with
  | nil className => rw [outlineIn, tour]; rfl
  | nested className property v rest inner members hn ihm ih =>
    have hs : nested? singular property (outline v) = some (inner, outlineIn members) := by
      rw [nested?_outline, hn]; rfl
    rw [outlineIn, tour_nested hs, tour_nested hn, ihm, ih]
    simp [Step.outlined]
  | flat className property v rest hn ih =>
    have hs : nested? singular property (outline v) = none := by rw [nested?_outline, hn]; rfl
    rw [outlineIn, tour_flat hs, tour_flat hn, ih]
    rfl

private theorem take_outlined (strict : Bool) (d : Draft) (s : Step) :
    d.take singular strict s.outlined = d.take singular strict s := by
  cases s with
  | enter className => rfl
  | visit className property v =>
    rw [Step.outlined, Draft.take, Draft.take, Draft.visit, Draft.visit, resolve_outline]

theorem follow_outlined (strict : Bool) (steps : List Step) (d : Draft) :
    follow singular strict (steps.map Step.outlined) d = follow singular strict steps d := by
  induction steps generalizing d with
  | nil => rfl
  | cons s steps ih =>
    rw [List.map_cons, follow_cons, follow_cons, take_outlined]
    congr 1
    funext d
    exact ih d

/-! ## Builds -/

private theorem buildObject_outlineIn (strict : Bool) (root : Points)
    (members : List (Points × Document)) :
    Builder.buildObject singular strict root (outlineIn members) =
      Builder.buildObject singular strict root members := by
  have ht : documentTour singular root (outlineIn members) =
      (documentTour singular root members).map Step.outlined := by
    rw [documentTour, tour_outlineIn]
    rfl
  rw [buildObject_eq, buildObject_eq, ht, follow_outlined]

private theorem build_outline (b : Builder) (root : Points) (document : Document) :
    b.build singular root (outline document) = b.build singular root document := by
  cases document with
  | object members => rw [outline, Builder.build, Builder.build, buildObject_outlineIn]
  | array items => cases items <;> simp [outline, Builder.build, Tree.kind]
  | _ => rfl

/-- A document has the shape of its outline and the same build, and documents of
the same shape give the same report: the same classes or the same fault, with
the same log and the same progress. -/
theorem build_sameShape (b : Builder) (root : Points) (document : Document) :
    SameShape document (outline document) ∧
    b.build singular root document = b.build singular root (outline document) ∧
    ∀ document', SameShape document document' →
      b.build singular root document = b.build singular root document' := by
  refine ⟨sameShape_outline document, (build_outline b root document).symm, ?_⟩
  intro document' h
  rw [← build_outline, h.outline_eq, build_outline]

/-- A document with later items and nested items that do not count. -/
def fullDocument : Document :=
  .object [("rows", .array [.array [.int 1, .null], .string "x"]),
    ("items", .array [.object [("id", .float "1.5")], .object [("name", .null)]]),
    ("rest", .object [("item", .object [("id", .int 1)])])]

/-- The same document without them, and with other scalars. -/
def sparseDocument : Document :=
  .object [("rows", .array [.array []]),
    ("items", .array [.object [("id", .float "2e3")]]),
    ("rest", .object [("item", .object [("id", .int 7)])])]

/-- Strict mode refuses both documents with the same conflict. -/
theorem sparse_build_sameShape :
    SameShape fullDocument sparseDocument ∧
    (Builder.build Naming.singular { strict := true } "Root" sparseDocument).fault =
      some (.conflict ⟨"item", "id", .decimal, .integer⟩) ∧
    Builder.build Naming.singular { strict := true } "Root" fullDocument =
      Builder.build Naming.singular { strict := true } "Root" sparseDocument := by
  have hitem : SameShape (.object [("id", .float "1.5")]) (.object [("id", .float "2e3")]) :=
    .object (.cons "id" (.float _ _) .nil)
  have hrest : SameShape (.object [("item", .object [("id", .int 1)])])
      (.object [("item", .object [("id", .int 7)])]) :=
    .object (.cons "item" (.object (.cons "id" (.int _ _) .nil)) .nil)
  have h : SameShape fullDocument sparseDocument :=
    .object (.cons "rows" (.arrays _ _ _ _)
      (.cons "items" (.items _ _ hitem) (.cons "rest" hrest .nil)))
  refine ⟨h, ?_, (build_sameShape { strict := true } "Root" fullDocument).2.2 _ h⟩
  rw [sparseDocument,
    show ∀ members, Builder.build Naming.singular { strict := true } "Root" (.object members) =
    Builder.buildObject Naming.singular true "Root" members from fun _ => rfl, buildObject_eq]
  decide +kernel

end SampleSchema.Infer

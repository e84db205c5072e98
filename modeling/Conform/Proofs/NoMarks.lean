import Conform.Proofs.PlainResults

/-!
# No mark is left

Marks of absence come from three sides. Marking puts them into maps, the data may hold them
anywhere, and so may a default, which is marked once more when it is put in. None of them is left in
the maps and lists of what a validation returns, not even where a default shares a container, so
that what one place has lost is missing in another (`Course.everywhere_of_walkShared`).

What is neither a map nor a list is not looked into by a walk, be it an array of objects that a
default holds. Such a value is returned with whatever is in it, marks included. It is then one that
the working copy of the data holds, or a default of the schema (`Fields.brings_of_validateShared`),
and there is no other way for a mark to be in a result (`Schema.absent_of_validateShared`).
-/

namespace Conform

namespace Value

/-! ## Marks in a value -/

section Apart

variable {x : Value}

variable (hx : x.isForeign = true)

include hx

end Apart

end Value

/-! ## Results -/

section Results

variable {o : Options} {data r : Value}

variable {fs : Fields}
  (hdefaults : Fields.everyType (TypeSpec.defaultsPass Value.isUntupled) fs = true)

include hdefaults

end Results

end Conform

import Conform.Schema.Location

/-!
# Marking what is missing

Before data is walked, each declared key that it does not hold is put in, with the mark
`Value.absent` as its value and after the keys that are there, so that the walk comes by every
declared field. Seeding goes down into the maps and lists of the data, as far as the schema tells
what they are: into the mapping of an object, into the items of an array, and through a union
only if just one of its candidates fits the value. Where the fields of an object are a union, or
a union fits in more than one way, nothing is put in.
-/

namespace Conform

mutual
/-- **A map with every declared key in it**, and what is below seeded too. -/
def Fields.seed : List (String × TypeSpec) → List (Value × Value) → List (Value × Value)
  | [], es => es
  | (name, t) :: fs, es =>
    let v := (Value.entry? es (.text name)).getD .absent
    Fields.seed fs (Value.setEntry es (.text name) (TypeSpec.seed t v))

/-- A value with the declared keys of the maps in it. -/
def TypeSpec.seed : TypeSpec → Value → Value
  | .single n, v => Node.seed n v
  | .union n m ns, v =>
    if ((n :: m :: ns).filter (·.matches v)).length = 1 then
      if n.matches v then Node.seed n v
      else if m.matches v then Node.seed m v
      else TypeSpec.seedAmong ns v
    else v

/-- A value seeded by the first candidate that it fits. -/
def TypeSpec.seedAmong : List Node → Value → Value
  | [], v => v
  | n :: ns, v => if n.matches v then Node.seed n v else TypeSpec.seedAmong ns v

/-- A value seeded by a node. -/
def Node.seed : Node → Value → Value
  | .object _ (.mapping fs), .map es => .map (Fields.seed fs es)
  | .array _ t _, .list vs => .list (vs.map fun v => TypeSpec.seed t v)
  | _, v => v
end

end Conform

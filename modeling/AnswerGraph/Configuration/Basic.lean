import AnswerGraph.Assembly
import AnswerGraph.Graph.Output

/-!
The settings of a project: the bases of its identifiers, what is written, where its inputs lie, and
the store of its documents.
-/

namespace AnswerGraph

/-- Where inputs are read that the command line does not name. -/
structure InputPaths where
  questionTemplates : Option String := none
  patterns : Option String := none
  deriving DecidableEq, Repr

structure StoreSettings where
  root : String
  /-- The index that holds answer sources. -/
  answersIndex : String := "analyse"
  indexes : List String :=
    ["upload", "extract", "annotate", "analyse", "question_template", "triple_template"]
  /-- Documents that were read are kept. -/
  cache : Bool := true
  deriving DecidableEq, Repr

structure Configuration where
  name : String := "default"
  description : String := ""
  version : String := "1.0"
  identifiers : Identifiers := {}
  output : OutputSettings := {}
  sources : InputPaths := {}
  store : Option StoreSettings := none
  deriving DecidableEq, Repr

namespace Configuration

/-- A configuration to start from. -/
def sample : Configuration :=
  { name := "Manufacturing knowledge graph"
    description := "Build a knowledge graph from analysed manufacturing documents"
    sources := {
      questionTemplates := some "files/question_templates.json"
      patterns := some "files/triple_patterns.txt" }
    store := some { root := "database/files" } }

end Configuration

end AnswerGraph

import Formwork.Artifact
import Formwork.Schema.Reading

/-!
Artifacts and the name of their project read out of documents.
-/

namespace Formwork.Schema

def readArtifact (path content : Document) : Reading Artifact :=
  Artifact.mk <$> (readText path).under "path" <*> (readText content).under "content"

def readProject (name : Document) : Reading String := (readText name).under "project_name"

end Formwork.Schema

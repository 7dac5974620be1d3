import Formwork.Routing
import Formwork.Schema.Reading

/-!
Entries of a routing table read out of documents.
-/

namespace Formwork.Schema

def readRoute : Document → Reading Route :=
  readRecord "RouteEntry" fun m =>
    Route.mk
      <$> readRequired m ["path"] readText
      <*> readDefaulted m ["component"] (readOptional readText) none
      <*> readDefaulted m ["redirect_to"] (readOptional readText) none
      <*> readDefaulted m ["path_match"] (readOptional readText) none

end Formwork.Schema

import Formwork.Json.Decode
import Formwork.Json.Strict
import Formwork.Settings.Basic
import Formwork.Text.Lines

/-!
Settings files. The text of one is JSON by the strict rules, and the document that it encodes
holds the settings.
-/

namespace Formwork.Settings

def ofText (text : String) : Schema.Reading Settings :=
  let cs := Text.unifyNewlines text.toList
  match Json.Strict.fault? cs, Json.decode cs with
  | some fault, _ => .fail (.notJson (fault.message cs))
  | none, .ok d => ofDocument d
  | none, .error e => .fail (.notJson (e.message cs))

end Formwork.Settings

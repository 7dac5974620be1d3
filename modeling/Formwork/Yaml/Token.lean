import Formwork.Number.Reading

/-!
Tokens of a YAML text, and why a text has none or no value.
-/

namespace Formwork.Yaml

inductive DatePart | year | month | day | hour | minute | second
  deriving DecidableEq, Repr

/-- Why a document cannot be read. Every fault of form is `malformed`; the others are values that
an explicit tag or an implied kind does not allow. Among them are an offset of a zone that is a
day or more, a code behind a backslash that is no character or has more than 31 bits, a date that
a mapping gives, and a text that is looked for in a mapping that holds itself. -/
inductive Error
  | malformed
  | badInteger (fault : Number.Reading.IntegerFault)
  | badFloat (text : List Char)
  | hugeUnit
  | badBoolean (text : String)
  | badDate (part : DatePart) (value : Nat)
  | badOffset (minutes : Int)
  | emptyNumber
  | noDate
  | noText
  | badCharacter
  | hugeCharacter
  | endless
  deriving DecidableEq, Repr

inductive Directive
  | version (major : Nat)
  | handle (name start : String)
  | other
  deriving DecidableEq, Repr, Inhabited

/-- A token. A slot is a place where a key may turn out to begin. A fault is a place from which on
there are no tokens. -/
inductive Token
  | streamEnd
  | directive (d : Directive)
  | documentStart
  | documentEnd
  | blockSequenceStart
  | blockMappingStart
  | blockEnd
  | flowSequenceStart
  | flowMappingStart
  | flowSequenceEnd
  | flowMappingEnd
  | key
  | value
  | blockEntry
  | flowEntry
  | alias (name : String)
  | anchor (name : String)
  | tag (handle : Option String) (suffix : String)
  | scalar (text : List Char) (plain : Bool)
  | slot (number : Nat)
  | fault (e : Error)
  deriving DecidableEq, Repr, Inhabited

end Formwork.Yaml

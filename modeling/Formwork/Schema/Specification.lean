import Formwork.Layout
import Formwork.Schema.Reading

/-!
Specifications and layouts read out of documents. Keys are written in camel case; the names of the
attributes are accepted in their place. Other keys are ignored.
-/

namespace Formwork.Schema

/-- The value that a control starts with. A value that has one of the accepted kinds keeps it. -/
def readDefaultValue : Document → Reading DefaultValue
  | .bool b => .value (.bool b)
  | .int n => .value (.number (.int n))
  | .float x => .value (.number (.float x))
  | .text s => .value (.text s)
  | d =>
    firstOf
      [("bool", (readBoolean d).map .bool), ("int", (readInteger d).map (.number ∘ .int)),
        ("float", (readFloat d).map (.number ∘ .float)), ("str", (readText d).map .text),
        ("list[str]", (readList readText d).map .texts)]

def readValidationBundle : Document → Reading ValidationBundle :=
  readRecord "ValidationBundle" fun m =>
    ValidationBundle.mk
      <$> readDefaulted m ["required"] readBoolean false
      <*> readDefaulted m ["minLength", "min_length"] (readOptional readLength) none
      <*> readDefaulted m ["maxLength", "max_length"] (readOptional readLength) none
      <*> readDefaulted m ["regex"] (readOptional readText) none
      <*> readDefaulted m ["range"] (readOptional (readPair readNumber)) none
      <*> readDefaulted m ["defaultValue", "default_value"] (readOptional readDefaultValue) none

def readField : Document → Reading Field :=
  readRecord "FieldModel" fun m =>
    Field.mk
      <$> readRequired m ["name"] readText
      <*> readDefaulted m ["type"] readText FieldKind.textbox.name
      <*> readDefaulted m ["required"] readBoolean false
      <*> readDefaulted m ["regex"] (readOptional readText) none
      <*> readDefaulted m ["options"] (readList readText) []
      <*> readDefaulted m ["validationMessage", "validation_message"] (readOptional readText) none
      <*> readDefaulted m ["validations"] (readOptional readValidationBundle) none

def readComponent : Document → Reading Component :=
  readRecord "Component" fun m =>
    Component.mk
      <$> readRequired m ["name"] readText
      <*> readDefaulted m ["menuName", "menu_name"] (readOptional readText) none
      <*> readDefaulted m ["fields"] (readList readField) []
      <*> readDefaulted m ["buttons"] (readList readText) []

def readOrientation : Document → Reading Orientation :=
  readWord [Orientation.horizontal.name, Orientation.vertical.name] Orientation.ofName?

def readSpecification : Document → Reading Specification :=
  readRecord "Specification" fun m =>
    Specification.mk
      <$> readRequired m ["projectName", "project_name"] readNonemptyText
      <*> readDefaulted m ["components"] (readList readComponent) []
      <*> readDefaulted m ["menuType", "menu_type"] readOrientation .horizontal
      <*> readDefaulted m ["footerContent", "footer_content"] (readOptional readText) none

def readLayout : Document → Reading Layout :=
  readRecord "LayoutOptions" fun m =>
    Layout.mk
      <$> readDefaulted m ["use_bootstrap"] readBoolean false
      <*> readDefaulted m ["column_layout"] readInteger 2

end Formwork.Schema

import Formwork.Text.Case

/-!
The forms of a name. Every generated file takes them from here, which is why the files agree on
class names, routes, directories and labels.
-/

namespace Formwork.Naming

/-- A name with its first character in upper case and the rest as it is. -/
def classChars : List Char → List Char
  | [] => []
  | c :: rest => Text.upperChar c ++ rest

/-- A word with its first character in upper case and the rest in lower case. -/
def labelWord : List Char → List Char
  | [] => []
  | c :: rest => Text.upperChar c ++ Text.lowerChars rest

/-- Words between single blanks: neighbouring blanks have an empty word between them. -/
def words : List Char → List (List Char)
  | [] => [[]]
  | c :: rest =>
    if c = ' ' then [] :: words rest
    else
      match words rest with
      | word :: more => (c :: word) :: more
      | [] => [[c]]

/-- The name of a class: `register` becomes `Register`. -/
def classForm (name : String) : String := String.ofList (classChars name.toList)

/-- Route, selector and directory: `Register` becomes `register`. -/
def pathForm (name : String) : String := Text.lower name

/-- Label and message: `first name` becomes `First Name`. -/
def labelForm (name : String) : String :=
  String.ofList ([' '].intercalate ((words name.toList).map labelWord))

def componentClass (name : String) : String := classForm name ++ "Component"

def componentSelector (name : String) : String := "app-" ++ pathForm name

end Formwork.Naming

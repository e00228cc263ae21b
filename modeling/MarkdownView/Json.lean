set_option autoImplicit false

/-! Values of the interchange format. Objects keep the order of their fields, whole numbers are
exact, and any other number is kept as it was spelled. A `foreign` value is none of the format: an
object of some class, told apart by what it holds. -/
namespace MarkdownView

inductive Json where
  | null
  | bool (value : Bool)
  | int (value : Int)
  | decimal (spelling : String)
  | text (value : String)
  | list (items : List Json)
  | object (fields : List (String × Json))
  | foreign (typeName : String) (content : Json)

namespace Json

instance : Inhabited Json := ⟨.null⟩

def typeName : Json → String
  | .null => "NoneType"
  | .bool _ => "bool"
  | .int _ => "int"
  | .decimal _ => "float"
  | .text _ => "str"
  | .list _ => "list"
  | .object _ => "dict"
  | .foreign typeName _ => typeName

def fields : Json → List (String × Json)
  | .object fields => fields
  | _ => []

def field? (name : String) (value : Json) : Option Json :=
  value.fields.foldl (fun found field => if field.1 = name then some field.2 else found) none

def field (name : String) (value : Json) : Json :=
  (value.field? name).getD .null

def text? : Json → Option String
  | .text value => some value
  | _ => none

def int? : Json → Option Int
  | .int value => some value
  | _ => none

def bool? : Json → Option Bool
  | .bool value => some value
  | _ => none

def items : Json → List Json
  | .list items => items
  | _ => []

def holds : Json → Bool
  | .null => false
  | .bool value => value
  | .int value => value != 0
  | .decimal spelling =>
    (spelling.toList.takeWhile fun c => c != 'e' && c != 'E').any fun c =>
      c.isDigit && c != '0'
  | .text value => value != ""
  | .list items => !items.isEmpty
  | .object fields => !fields.isEmpty
  | .foreign .. => true

def ofOption {α : Type} (encode : α → Json) : Option α → Json
  | none => .null
  | some value => encode value

def ofText? : Option String → Json := ofOption .text
def ofInt? : Option Int → Json := ofOption .int

end Json
end MarkdownView

import MarkdownView.Json
import MarkdownView.Text.Quoted
set_option autoImplicit false

namespace MarkdownView.Json

mutual

def shown : Json → String
  | .null => "None"
  | .bool true => "True"
  | .bool false => "False"
  | .int value => toString value
  | .decimal spelling => spelling
  | .text value => Text.quote value
  | .list items => "[" ++ String.intercalate ", " (shownItems items) ++ "]"
  | .object fields => "\x7b" ++ String.intercalate ", " (shownFields fields) ++ "\x7d"
  | .foreign typeName _ => s!"<{typeName} object>"
termination_by structural value => value

def shownItems : List Json → List String
  | [] => []
  | item :: items => shown item :: shownItems items
termination_by structural items => items

def shownFields : List (String × Json) → List String
  | [] => []
  | (name, value) :: fields => (Text.quote name ++ ": " ++ shown value) :: shownFields fields
termination_by structural fields => fields

end

def words : Json → String
  | .text value => value
  | value => value.shown

end MarkdownView.Json

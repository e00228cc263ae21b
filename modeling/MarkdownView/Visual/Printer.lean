import MarkdownView.Json.Printer
import MarkdownView.Visual
set_option autoImplicit false

namespace MarkdownView

def Span.toJson (span : Span) : Json :=
  let looks := span.looks
  let color := match looks.color with
    | none => []
    | some color => [("color", Json.text color)]
  let mark (name : String) (on : Bool) := if on then [(name, Json.bool true)] else []
  .object ([("text", .text span.text), ("highlight_tag", .text looks.tag)] ++ color ++
    mark "bold" looks.bold ++ mark "italic" looks.italic ++ mark "underline" looks.underline)

def Span.toFullJson (span : Span) : Json :=
  let looks := span.looks
  .object [("text", .text span.text), ("highlight_tag", .text looks.tag),
    ("color", Json.ofText? looks.color), ("bold", .bool looks.bold), ("italic", .bool looks.italic),
    ("underline", .bool looks.underline)]

namespace Visual

def shape (kind : String) (fields : List (String × Json)) : Json :=
  .object (("node_type", .text kind) :: fields)

def inlineJson : Inline → Json
  | .run run =>
    shape "text_run" [("text", .text run.text), ("bold", .bool run.bold),
      ("italic", .bool run.italic), ("strike", .bool run.strike), ("code", .bool run.code),
      ("link_target", Json.ofText? run.linkTarget)]
  | .code text => shape "inline_code" [("text", .text text)]
  | .picture picture =>
    shape "image" [("resolved_path", .text picture.path), ("alt", .text picture.alt),
      ("title", Json.ofText? picture.title), ("width", Json.ofInt? picture.width),
      ("height", Json.ofInt? picture.height)]
  | .placeholder kind => shape "unsupported" [("original_kind", .text kind)]

def cellsJson (cells : List Cell) : Json :=
  .list (cells.map fun cell => .list (cell.map inlineJson))

mutual

def toJson : Visual → Json
  | .inline content => inlineJson content
  | .passage level children =>
    shape "section" [("level", .int level), ("children", .list (children.map inlineJson))]
  | .code spans language =>
    shape "code_block" [("spans", .list (spans.map Span.toJson)),
      ("language", Json.ofText? language)]
  | .quote depth children =>
    shape "quote" [("depth", .int depth), ("children", .list (toJsonList children))]
  | .item children checked =>
    shape "list_item" [("children", .list (toJsonList children)),
      ("checked", Json.ofOption .bool checked)]
  | .list ordered items start depth =>
    shape "list" [("ordered", .bool ordered), ("items", .list (toJsonList items)),
      ("start", Json.ofInt? start), ("depth", .int depth)]
  | .table columns rows header =>
    shape "table" [("columns", .list (columns.map Json.ofText?)),
      ("rows", .list (rows.map cellsJson)), ("header", Json.ofOption cellsJson header)]
  | .thematicBreak => shape "thematic_break" []
  | .tree children => .foreign "VisualTree" (.list (toJsonList children))
termination_by structural visual => visual

def toJsonList : List Visual → List Json
  | [] => []
  | visual :: visuals => toJson visual :: toJsonList visuals
termination_by structural visuals => visuals

end

end Visual

def Tree.toJson (tree : Tree) : Json :=
  .object [("node_type", .text "visual_tree"), ("children", .list (Visual.toJsonList tree.children))]

def Compiled.toJson (compiled : Compiled) : Json :=
  let tallies := compiled.diagnostics.map fun (kind, count) =>
    Json.object [("kind", .text kind), ("count", .int count)]
  .object [("tree", compiled.tree.toJson), ("diagnostics", .list tallies),
    ("warnings", .list (compiled.warnings.map .text))]

-- What stands directly in the tree is asked for its kind.
def Tree.toDict (tree : Tree) : Except Failure Json :=
  if tree.children.any Visual.isTree then .error (.noAttribute "VisualTree" "kind")
  else .ok tree.toJson

def Compiled.toDict (compiled : Compiled) : Except Failure Json :=
  compiled.tree.toDict.map fun _ => compiled.toJson

def Tree.serialize (tree : Tree) (indent : Option Int) : Except Failure String := do
  let dict ← tree.toDict
  dict.dump indent

def Compiled.serialize (compiled : Compiled) (indent : Option Int) : Except Failure String := do
  let dict ← compiled.toDict
  dict.dump indent

end MarkdownView

import MarkdownView.Node
set_option autoImplicit false

namespace MarkdownView.Node

def shape (name : String) (fields : List (String × Json)) (metadata : Metadata) : Json :=
  .object (("node", .text name) :: fields ++
    if metadata.isEmpty then [] else [("metadata", .object metadata)])

def statusJson : Option TaskStatus → Json
  | none => .null
  | some .checked => .text "checked"
  | some .unchecked => .text "unchecked"

mutual

def toJson : Node → Json
  | .document children metadata =>
    shape "Document" [("children", .list (toJsonList children))] metadata
  | .heading level content metadata =>
    shape "Heading" [("level", .int level), ("content", .list (toJsonList content))] metadata
  | .paragraph content metadata =>
    shape "Paragraph" [("content", .list (toJsonList content))] metadata
  | .codeBlock content language metadata =>
    shape "CodeBlock" [("content", .text content), ("language", Json.ofText? language)] metadata
  | .quote children metadata =>
    shape "BlockQuote" [("children", .list (toJsonList children))] metadata
  | .list ordered items start tight metadata =>
    shape "List" [("ordered", .bool ordered), ("items", .list (toJsonList items)),
      ("start", Json.ofInt? start), ("tight", .bool tight)] metadata
  | .item children status metadata =>
    shape "ListItem" [("children", .list (toJsonList children)),
      ("task_status", statusJson status)] metadata
  | .table header rows alignments metadata =>
    shape "Table" [("rows", .list (toJsonList rows)), ("header", toJson? header),
      ("alignments", .list (alignments.map Json.ofText?))] metadata
  | .row cells isHeader metadata =>
    shape "TableRow" [("cells", .list (toJsonList cells)), ("is_header", .bool isHeader)] metadata
  | .cell content alignment metadata =>
    shape "TableCell" [("content", .list (toJsonList content)),
      ("alignment", Json.ofText? alignment)] metadata
  | .thematicBreak metadata => shape "ThematicBreak" [] metadata
  | .text content metadata => shape "Text" [("content", .text content)] metadata
  | .emphasis content metadata =>
    shape "Emphasis" [("content", .list (toJsonList content))] metadata
  | .strong content metadata => shape "Strong" [("content", .list (toJsonList content))] metadata
  | .strike content metadata =>
    shape "Strikethrough" [("content", .list (toJsonList content))] metadata
  | .code content metadata => shape "Code" [("content", .text content)] metadata
  | .link url content title metadata =>
    shape "Link" [("url", Json.ofText? url), ("content", .list (toJsonList content)),
      ("title", Json.ofText? title)] metadata
  | .image url alt title width height metadata =>
    shape "Image" [("url", .text url), ("alt_text", .text alt), ("title", Json.ofText? title),
      ("width", Json.ofInt? width), ("height", Json.ofInt? height)] metadata
  | .lineBreak soft metadata => shape "LineBreak" [("soft", .bool soft)] metadata
  | .htmlBlock content metadata => shape "HTMLBlock" [("content", .text content)] metadata
  | .htmlInline content metadata => shape "HTMLInline" [("content", .text content)] metadata
  | .mathBlock content metadata => shape "MathBlock" [("content", .text content)] metadata
  | .mathInline content metadata => shape "MathInline" [("content", .text content)] metadata
  | .footnoteReference identifier metadata =>
    shape "FootnoteReference" [("identifier", .text identifier)] metadata
  | .footnoteDefinition identifier content metadata =>
    shape "FootnoteDefinition" [("identifier", .text identifier),
      ("content", .list (toJsonList content))] metadata
  | .extension tag isInline children raw metadata =>
    shape "ExtensionNode" [("tag", .text tag), ("inline", .bool isInline),
      ("children", .list (toJsonList children)), ("raw", .text raw)] metadata
  | .foreign _ => .null
termination_by structural node => node

def toJsonList : List Node → List Json
  | [] => []
  | node :: nodes => toJson node :: toJsonList nodes
termination_by structural nodes => nodes

def toJson? : Option Node → Json
  | none => .null
  | some node => toJson node
termination_by structural node => node

end

end MarkdownView.Node

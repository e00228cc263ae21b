import MarkdownView.Failure
set_option autoImplicit false

namespace MarkdownView

abbrev Metadata := List (String × Json)

inductive TaskStatus where
  | checked
  | unchecked
deriving DecidableEq

def TaskStatus.ofWord (word : String) : TaskStatus :=
  if word = "checked" then .checked else .unchecked

inductive Node where
  | document (children : List Node) (metadata : Metadata)
  | heading (level : Int) (content : List Node) (metadata : Metadata)
  | paragraph (content : List Node) (metadata : Metadata)
  | codeBlock (content : String) (language : Option String) (metadata : Metadata)
  | quote (children : List Node) (metadata : Metadata)
  | list (ordered : Bool) (items : List Node) (start : Option Int) (tight : Bool)
      (metadata : Metadata)
  | item (children : List Node) (status : Option TaskStatus) (metadata : Metadata)
  | table (header : Option Node) (rows : List Node) (alignments : List (Option String))
      (metadata : Metadata)
  | row (cells : List Node) (isHeader : Bool) (metadata : Metadata)
  | cell (content : List Node) (alignment : Option String) (metadata : Metadata)
  | thematicBreak (metadata : Metadata)
  | text (content : String) (metadata : Metadata)
  | emphasis (content : List Node) (metadata : Metadata)
  | strong (content : List Node) (metadata : Metadata)
  | strike (content : List Node) (metadata : Metadata)
  | code (content : String) (metadata : Metadata)
  | link (url : Option String) (content : List Node) (title : Option String) (metadata : Metadata)
  | image (url alt : String) (title : Option String) (width height : Option Int)
      (metadata : Metadata)
  | lineBreak (soft : Bool) (metadata : Metadata)
  | htmlBlock (content : String) (metadata : Metadata)
  | htmlInline (content : String) (metadata : Metadata)
  | mathBlock (content : String) (metadata : Metadata)
  | mathInline (content : String) (metadata : Metadata)
  | footnoteReference (identifier : String) (metadata : Metadata)
  | footnoteDefinition (identifier : String) (content : List Node) (metadata : Metadata)
  | extension (tag : String) (isInline : Bool) (children : List Node) (raw : String)
      (metadata : Metadata)
  | foreign (typeName : String)

namespace Node

def kind : Node → String
  | .document .. => "root"
  | .heading .. => "heading"
  | .paragraph .. => "paragraph"
  | .codeBlock .. => "code"
  | .quote .. => "blockquote"
  | .list .. => "list"
  | .item .. => "list_item"
  | .table .. => "table"
  | .row .. => "table_row"
  | .cell .. => "table_cell"
  | .thematicBreak .. => "thematic_break"
  | .text .. => "text"
  | .emphasis .. => "emphasis"
  | .strong .. => "strong"
  | .strike .. => "strikethrough"
  | .code .. => "inline_code"
  | .link .. => "link"
  | .image .. => "image"
  | .lineBreak .. => "break"
  | .htmlBlock .. => "html"
  | .htmlInline .. => "inline_html"
  | .mathBlock .. => "math"
  | .mathInline .. => "inline_math"
  | .footnoteReference .. => "footnote_reference"
  | .footnoteDefinition .. => "footnote_definition"
  | .extension tag _ _ _ _ => tag
  | .foreign typeName => typeName

def isInline : Node → Bool
  | .text .. => true
  | .emphasis .. => true
  | .strong .. => true
  | .strike .. => true
  | .code .. => true
  | .link .. => true
  | .image .. => true
  | .lineBreak .. => true
  | .htmlInline .. => true
  | .mathInline .. => true
  | .footnoteReference .. => true
  | .extension _ isInline _ _ _ => isInline
  | _ => false

def isModelled : Node → Bool
  | .htmlBlock .. => false
  | .htmlInline .. => false
  | .mathBlock .. => false
  | .mathInline .. => false
  | .footnoteReference .. => false
  | .footnoteDefinition .. => false
  | .extension .. => false
  | .foreign .. => false
  | _ => true

-- Whether inline content leaves the node to its callback: an image, or a node that the visual tree has
-- no counterpart for.
def isEmbedded : Node → Bool
  | .image .. => true
  | .foreign _ => false
  | node => !node.isModelled

def visitMethod? : Node → Option String
  | .document .. => some "visit_document"
  | .heading .. => some "visit_heading"
  | .paragraph .. => some "visit_paragraph"
  | .codeBlock .. => some "visit_code_block"
  | .quote .. => some "visit_block_quote"
  | .list .. => some "visit_list"
  | .item .. => some "visit_list_item"
  | .table .. => some "visit_table"
  | .row .. => some "visit_table_row"
  | .cell .. => some "visit_table_cell"
  | .thematicBreak .. => some "visit_thematic_break"
  | .text .. => some "visit_text"
  | .emphasis .. => some "visit_emphasis"
  | .strong .. => some "visit_strong"
  | .strike .. => some "visit_strikethrough"
  | .code .. => some "visit_code"
  | .link .. => some "visit_link"
  | .image .. => some "visit_image"
  | .lineBreak .. => some "visit_line_break"
  | _ => none

def heading? (level : Int) (content : List Node) (metadata : Metadata) : Except Failure Node :=
  if 1 ≤ level ∧ level ≤ 6 then .ok (.heading level content metadata)
  else .error (.refused (.headingLevel level))

def extension? (tag : String) (isInline : Bool) (children : List Node) (raw : String)
    (metadata : Metadata) : Except Failure Node :=
  if tag = "" then .error (.refused .emptyTag)
  else .ok (.extension tag isInline children raw metadata)

end Node
end MarkdownView

import MarkdownView.Visual
set_option autoImplicit false

namespace MarkdownView

namespace Visual

mutual

-- What passages and cells hold, cells of the header first; an inline node among blocks is by itself.
def contents : Visual → List (List Inline)
  | .inline content => [[content]]
  | .passage _ children => [children]
  | .code .. => []
  | .quote _ children => contentsOf children
  | .item children _ => contentsOf children
  | .list _ items _ _ => contentsOf items
  | .table _ rows header => (header.toList ++ rows).flatten
  | .thematicBreak => []
  | .tree children => contentsOf children
termination_by structural visual => visual

def contentsOf : List Visual → List (List Inline)
  | [] => []
  | visual :: visuals => contents visual ++ contentsOf visuals
termination_by structural visuals => visuals

end

theorem contents_of_append (visuals others : List Visual) :
    contentsOf (visuals ++ others) = contentsOf visuals ++ contentsOf others := by
  induction visuals with
  | nil => rfl
  | cons visual visuals ih =>
    rw [List.cons_append, contentsOf, ih, contentsOf, List.append_assoc]

theorem contents_of_singleton (visual : Visual) : contentsOf [visual] = contents visual :=
  List.append_nil _

end Visual

def Tree.contents (tree : Tree) : List (List Inline) := Visual.contentsOf tree.children

end MarkdownView

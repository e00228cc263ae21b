import MarkdownView.Proofs.Alike
import MarkdownView.Proofs.Inline.Resolver
set_option autoImplicit false

namespace MarkdownView

open Traced (alike_steady alike_bind)

namespace Node

variable {embed insert : Embed}

theorem embedded_pieces_alike (same : ∀ node, (embed node).Alike (insert node)) (links : Nat)
    (node : Node) : (embeddedPieces embed links node).Alike (embeddedPieces insert links node) :=
  alike_bind (same node) fun _ => alike_steady _

mutual

theorem pieces_alike (same : ∀ node, (embed node).Alike (insert node)) (style : Style) (links : Nat)
    (node : Node) : (pieces embed style links node).Alike (pieces insert style links node) := by
  cases node with
  | text content metadata => exact alike_steady _
  | code content metadata => exact alike_steady _
  | lineBreak soft metadata => exact alike_steady _
  | emphasis content metadata => exact pieces_of_alike same _ links content
  | strong content metadata => exact pieces_of_alike same _ links content
  | strike content metadata => exact pieces_of_alike same _ links content
  | link url content title metadata =>
    cases content with
    | nil => exact alike_steady _
    | cons node nodes => exact pieces_of_alike same _ (links + 1) (node :: nodes)
  | image url alt title width height metadata => exact embedded_pieces_alike same links _
  | htmlBlock content metadata => exact embedded_pieces_alike same links _
  | htmlInline content metadata => exact embedded_pieces_alike same links _
  | mathBlock content metadata => exact embedded_pieces_alike same links _
  | mathInline content metadata => exact embedded_pieces_alike same links _
  | footnoteReference identifier metadata => exact embedded_pieces_alike same links _
  | footnoteDefinition identifier content metadata => exact embedded_pieces_alike same links _
  | extension tag isInline children raw metadata => exact embedded_pieces_alike same links _
  | _ => exact alike_steady _
termination_by structural node

theorem pieces_of_alike (same : ∀ node, (embed node).Alike (insert node)) (style : Style)
    (links : Nat) (nodes : List Node) :
    (piecesOf embed style links nodes).Alike (piecesOf insert style links nodes) := by
  cases nodes with
  | nil => exact alike_steady _
  | cons node nodes =>
    refine alike_bind (pieces_alike same style links node) fun first => ?_
    exact alike_bind (pieces_of_alike same style first.2 nodes) fun _ => alike_steady _
termination_by structural nodes

end

end Node

end MarkdownView

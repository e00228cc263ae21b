import MarkdownView.Proofs.Compile.Contract
import MarkdownView.Proofs.Compile.Derivation
import MarkdownView.Proofs.Token.Nodes
import MarkdownView.Proofs.Token.Shape
set_option autoImplicit false

namespace MarkdownView

end MarkdownView

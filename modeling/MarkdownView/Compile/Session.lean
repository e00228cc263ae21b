import MarkdownView.Compile
import MarkdownView.Highlight.Lexed
set_option autoImplicit false

namespace MarkdownView

def nestingLimit : Nat := 100

-- The highlighter for at most `depth` nested calls. The inner document may itself be beyond
-- construction, which is then what the call fails with.
def reentrant (walk : Highlighter → Walk) (inner : Except Failure (Option Node)) :
    Nat → Highlighter
  | 0 => fun _ _ => Traced.fail (.outside "RecursionError" "maximum recursion depth exceeded" [])
  | depth + 1 => fun source _ => do
    let document ← Traced.ofExcept inner
    let _ ← Traced.enclose (compile (walk (reentrant walk inner depth)) document)
    pure [.ofSpan (Span.tagged source "text")]

structure Environment where
  lexicon : Lexicon
  files : Files
  installation : Installation

inductive Highlighting where
  | lexed (theming : Theming)
  | given (highlighter : Highlighter)
  | reentrant (inner : Except Failure (Option Node))

structure Session where
  options : RenderOptions
  highlighting : Highlighting

namespace Session

def new (options : Argument RenderOptions) (highlighting : Option Highlighting) :
    Except Failure Session := do
  let options ← options.resolve "TreeCompiler" "RenderConfig" RenderOptions.default
  pure ⟨options, highlighting.getD (.lexed (Theming.fresh options.theme))⟩

def walkWith (session : Session) (environment : Environment) (highlighter : Highlighter) : Walk :=
  ⟨session.options, environment.files, environment.installation, highlighter⟩

def highlighter (session : Session) (environment : Environment) : Highlighter :=
  match session.highlighting with
  | .lexed theming => lexed environment.lexicon environment.installation theming
  | .given highlighter => highlighter
  | .reentrant inner => reentrant (session.walkWith environment) inner nestingLimit

def walk (session : Session) (environment : Environment) : Walk :=
  session.walkWith environment (session.highlighter environment)

def after (session : Session) (environment : Environment) (events : List Event) : Session :=
  match session.highlighting with
  | .lexed theming =>
    { session with highlighting := .lexed (theming.after environment.lexicon events) }
  | _ => session

def compile (session : Session) (environment : Environment) (document : Option Node) :
    Traced Compiled × Session :=
  let compiled := MarkdownView.compile (session.walk environment) document
  (compiled, session.after environment compiled.events)

end Session

def compileOnce (environment : Environment) (options : Argument RenderOptions)
    (highlighting : Option Highlighting) (document : Option Node) : Traced Compiled := do
  let session ← Traced.ofExcept (Session.new options highlighting)
  (session.compile environment document).1

end MarkdownView

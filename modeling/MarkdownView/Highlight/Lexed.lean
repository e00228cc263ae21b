import MarkdownView.Highlight
import MarkdownView.Requirement
import MarkdownView.Text.Lowercase
set_option autoImplicit false

/-! Highlighting by lexers. A lexer cuts a source into tokens by type, and may break off; a theme
gives each type its looks. A highlighter looks its theme up when it first needs it, and keeps what it
found. -/
namespace MarkdownView

structure TokenStyle where
  color : Option String
  bold : Bool
  italic : Bool
  underline : Bool

abbrev Theme := List (String × TokenStyle)

structure Lexing where
  tokens : List (String × String)
  fault : Option Failure

abbrev Lexer := String → Lexing

structure Lexicon where
  lexer? : String → Option Lexer
  themes : List (String × Theme)

structure Theming where
  theme : Option String
  found : Option (Option Theme)

def Theming.fresh (theme : Option String) : Theming := ⟨theme, none⟩

def Lexicon.theme? (lexicon : Lexicon) (theme : Option String) : Option Theme :=
  theme.bind fun name => lexicon.themes.lookup name

namespace Theming

def current (theming : Theming) (lexicon : Lexicon) : Option Theme :=
  theming.found.getD (lexicon.theme? theming.theme)

def lookUp (theming : Theming) (lexicon : Lexicon) : Traced Unit :=
  match theming.theme with
  | some name => Traced.emit (.themed name (lexicon.themes.lookup name).isSome)
  | none => Traced.emit (.themed "" true)

-- The theme, which is looked up unless it was before, in this compilation or an earlier one.
def consult (theming : Theming) (lexicon : Lexicon) : Traced (Option Theme) := do
  let past ← Traced.past
  if theming.found.isSome || Event.isThemed past then pure ⟨⟩ else theming.lookUp lexicon
  pure (theming.current lexicon)

def after (theming : Theming) (lexicon : Lexicon) (events : List Event) : Theming :=
  if Event.isThemed events then { theming with found := some (theming.current lexicon) }
  else theming

end Theming

def tagOf (type : String) : String :=
  if "Token.".toList.isPrefixOf type.toList then
    Text.lower (String.ofList (type.toList.drop 6))
  else "plain"

def lexedSpan (theme : Option Theme) (type text : String) : Except Failure Span :=
  match theme with
  | none => .ok (Span.tagged text (tagOf type))
  | some theme =>
    match theme.lookup type with
    | none => .error (.unstyledToken type)
    | some style =>
      let color := match style.color with
        | none => none
        | some code => if code = "" then none else some ("#" ++ code)
      .ok ⟨text, tagOf type, color, style.bold, style.italic, style.underline⟩

-- Spans are made while the lexer is at work, so a token without looks may come before its fault.
def spansOf (theme : Option Theme) (fault : Option Failure) :
    List (String × String) → Except Failure (List Span)
  | [] =>
    match fault with
    | none => .ok []
    | some failure => .error failure
  | (type, text) :: tokens =>
    if text = "" then spansOf theme fault tokens
    else do
      let span ← lexedSpan theme type text
      let spans ← spansOf theme fault tokens
      .ok (span :: spans)

def highlightRequirements : List Requirement := [⟨"Pygments", "pygments", ">=2.15.0"⟩]

def lexedSpans (lexicon : Lexicon) (installation : Installation) (theming : Theming)
    (source : String) (language : Option String) : Traced (List Span) := do
  Traced.ofExcept (installation.require "syntax highlighter" highlightRequirements)
  let named := language.getD ""
  if named = "" then Traced.fail .noLanguage
  else
    match lexicon.lexer? named with
    | none => Traced.fail (.noLexer named)
    | some lexer =>
      let theme ← theming.consult lexicon
      let lexing := lexer source
      Traced.ofExcept (spansOf theme lexing.fault lexing.tokens)

def lexed (lexicon : Lexicon) (installation : Installation) (theming : Theming) : Highlighter :=
  fun source language => do
    let spans ← lexedSpans lexicon installation theming source (some language)
    pure (spans.map Item.ofSpan)

end MarkdownView

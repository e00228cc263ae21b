import MarkdownView.Compile.Session
import MarkdownView.Options.Reading
import MarkdownView.Source
import MarkdownView.Token.Document
set_option autoImplicit false

namespace MarkdownView

abbrev Tokenizer := List String → String → Except Failure Json

def readRequirements : List Requirement := [⟨"mistune", "mistune", ">=3.0.0"⟩]

def Failure.inTokenizer (failure : Failure) : Failure :=
  if failure.isExit then failure
  else .parsing s!"mistune failed to parse input: {failure.shown}" (some "tokenize")
    (some failure.kind)

def tokenize (tokenizer : Tokenizer) (extensions : List String) (text : String) :
    Traced (List Json) := do
  Traced.emit (.tokenized extensions text)
  match tokenizer extensions text with
  | .error failure => Traced.fail failure.inTokenizer
  | .ok tokens => do
    Traced.note .debug "Parsing Markdown completed in <t>s"
    match tokens with
    | .list tokens => pure tokens
    | value =>
      Traced.fail (.parsing s!"Expected a token list from mistune, got {value.typeName}"
        (some "tokenize") none)

def read (tokenizer : Tokenizer) (installation : Installation)
    (options : Argument ReadingOptions) (source : Source) : Traced Node := do
  let options ← Traced.ofExcept
    (options.resolve "MarkdownParser" "MarkdownParserOptions" ReadingOptions.default)
  Traced.ofExcept (installation.require "markdown parser" readRequirements)
  let text ← Traced.ofExcept source.load
  let values ← tokenize tokenizer options.extensions text
  Token.read values

def render (tokenizer : Tokenizer) (environment : Environment)
    (readingOptions : Argument ReadingOptions) (renderOptions : Argument RenderOptions)
    (highlighting : Option Highlighting) (source : Source) : Traced Compiled := do
  let document ← read tokenizer environment.installation readingOptions source
  compileOnce environment renderOptions highlighting (some document)

end MarkdownView

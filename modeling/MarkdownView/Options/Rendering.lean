import MarkdownView.Json.Words
import MarkdownView.Options.Basic
import MarkdownView.Path
import MarkdownView.Similarity
set_option autoImplicit false

namespace MarkdownView

inductive ImageMode where
  | resolve
  | ignore
deriving DecidableEq

def ImageMode.word : ImageMode → String
  | .resolve => "resolve"
  | .ignore => "ignore"

structure RenderOptions where
  imageDirectory : Option Path
  codeLanguage : Option String
  maxQuoteDepth : Option Int
  maxListDepth : Option Int
  isStrict : Bool
  imageMode : ImageMode
  theme : Option String
  promotesCode : Bool

namespace RenderOptions

def default : RenderOptions := ⟨none, none, none, none, true, .resolve, none, true⟩

def checkCap (name : String) : Option Int → Except Failure Unit
  | none => .ok ⟨⟩
  | some cap => if cap < 1 then .error (.refused (.depthCap name cap)) else .ok ⟨⟩

def readMode (value : Json) : Except Failure ImageMode :=
  match value with
  | .text "resolve" => .ok .resolve
  | .text "ignore" => .ok .ignore
  | value => .error (.refused (.imageMode value.shown))

def checkTheme (themes : List String) (name : String) : Except Failure String :=
  if themes.contains name then .ok name
  else .error (.refused (.theme name (Similarity.suggestions name themes)))

def help : List (String × String) :=
  [("base_image_directory",
      "Directory relative image paths are resolved against (default: working directory)"),
   ("default_code_language", "Language assumed for code blocks without a language tag"),
   ("max_quote_depth", "Maximum block quote nesting depth (None for unlimited)"),
   ("max_list_depth", "Maximum list nesting depth (None for unlimited)"),
   ("table_strict_columns", "Fail on table rows whose cell count differs from the header"),
   ("image_mode", "How images are handled: 'resolve' checks files on disk, 'ignore' drops them"),
   ("highlight_theme", "Pygments style used to colour highlighted code (e.g. 'monokai')"),
   ("promote_inline_code", "Emit InlineCode nodes for unstyled code spans")]

def revise (themes : List String) (options : RenderOptions) (changes : Options.Changes) :
    Except Failure RenderOptions := do
  Options.checkNames "RenderConfig" (help.map Prod.fst) changes
  let revised {α : Type} := @Options.revised α changes
  let directory := revised "base_image_directory" (fun value => value.text?.map Path.ofText)
    options.imageDirectory
  let language := revised "default_code_language" Json.text? options.codeLanguage
  let quoteDepth := revised "max_quote_depth" Json.int? options.maxQuoteDepth
  let listDepth := revised "max_list_depth" Json.int? options.maxListDepth
  checkCap "max_quote_depth" quoteDepth
  checkCap "max_list_depth" listDepth
  let mode ← readMode (revised "image_mode" id (.text options.imageMode.word))
  let theme := revised "highlight_theme" Json.text? options.theme
  match theme with
  | none => pure ()
  | some name => discard (checkTheme themes name)
  pure ⟨directory, language, quoteDepth, listDepth,
    revised "table_strict_columns" Json.holds options.isStrict, mode, theme,
    revised "promote_inline_code" Json.holds options.promotesCode⟩

def toJson (options : RenderOptions) : Json :=
  .object
    [("base_image_directory", Json.ofOption (fun path => .text path.text) options.imageDirectory),
     ("default_code_language", Json.ofText? options.codeLanguage),
     ("max_quote_depth", Json.ofInt? options.maxQuoteDepth),
     ("max_list_depth", Json.ofInt? options.maxListDepth),
     ("table_strict_columns", .bool options.isStrict),
     ("image_mode", .text options.imageMode.word),
     ("highlight_theme", Json.ofText? options.theme),
     ("promote_inline_code", .bool options.promotesCode)]

end RenderOptions
end MarkdownView

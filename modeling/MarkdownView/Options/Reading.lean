import MarkdownView.Options.Basic
set_option autoImplicit false

namespace MarkdownView

structure ReadingOptions where
  tables : Bool
  strikethrough : Bool
  taskLists : Bool
  math : Bool
  footnotes : Bool
deriving DecidableEq

namespace ReadingOptions

def default : ReadingOptions := ⟨true, true, true, true, true⟩

def help : List (String × String) :=
  [("parse_tables", "Parse GFM pipe tables"),
   ("parse_strikethrough", "Parse ~~strikethrough~~ text"),
   ("parse_task_lists", "Parse task list checkboxes"),
   ("parse_math", "Parse $inline$ and $$block$$ math"),
   ("parse_footnotes", "Parse [^ref] footnotes")]

def revise (options : ReadingOptions) (changes : Options.Changes) :
    Except Failure ReadingOptions := do
  Options.checkNames "MarkdownParserOptions" (help.map Prod.fst) changes
  let revised (name : String) := Options.revised changes name Json.holds
  pure ⟨revised "parse_tables" options.tables,
    revised "parse_strikethrough" options.strikethrough,
    revised "parse_task_lists" options.taskLists,
    revised "parse_math" options.math,
    revised "parse_footnotes" options.footnotes⟩

def extensions (options : ReadingOptions) : List String :=
  (if options.tables then ["table"] else []) ++
  (if options.strikethrough then ["strikethrough"] else []) ++
  (if options.taskLists then ["task_lists"] else []) ++
  (if options.math then ["math"] else []) ++
  (if options.footnotes then ["footnotes"] else [])

def toJson (options : ReadingOptions) : Json :=
  .object
    [("parse_tables", .bool options.tables),
     ("parse_strikethrough", .bool options.strikethrough),
     ("parse_task_lists", .bool options.taskLists),
     ("parse_math", .bool options.math),
     ("parse_footnotes", .bool options.footnotes)]

end ReadingOptions
end MarkdownView

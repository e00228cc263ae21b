import MarkdownView.Failure
import MarkdownView.Path
import MarkdownView.Text.Basic
import MarkdownView.Text.Utf8
set_option autoImplicit false

namespace MarkdownView

inductive Source where
  | text (content : String)
  | bytes (content : List UInt8)
  | file (path : Path) (content : Option (List UInt8))
  | foreign (typeName : String)

namespace Source

def unreadable (reason kind : String) : Failure :=
  .parsing s!"Could not read Markdown input: {reason}" (some "load") (some kind)

def noFile (path : Path) : Failure :=
  unreadable s!"[Errno 2] No such file or directory: {Text.quote path.text}" "FileNotFoundError"

def decode (bytes : List UInt8) : Except Failure (List Char) :=
  match Text.Utf8.decode bytes with
  | .ok cs => .ok cs
  | .error fault => .error (unreadable fault.message "UnicodeDecodeError")

def load : Source → Except Failure String
  | .text content => .ok content
  | .bytes content => (decode content).map String.ofList
  | .file path none => .error (noFile path)
  | .file _ (some content) =>
    (decode content).map fun cs => String.ofList (Text.unifyNewlines cs)
  | .foreign typeName =>
    .error (.parsing s!"Unsupported input type: {typeName}" (some "load") none)

end Source
end MarkdownView

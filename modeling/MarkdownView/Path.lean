import MarkdownView.Text.Basic
set_option autoImplicit false

namespace MarkdownView

inductive Root where
  | none
  | single
  | double
deriving DecidableEq

structure Path where
  root : Root
  parts : List String
deriving DecidableEq

namespace Path

def rootOf : List Char → Root
  | '/' :: '/' :: '/' :: _ => .single
  | '/' :: '/' :: _ => .double
  | '/' :: _ => .single
  | _ => .none

def isNamed (part : List Char) : Bool := part != [] && part != ['.']

def ofText (text : String) : Path :=
  ⟨rootOf text.toList, ((Text.splitChars '/' text.toList).filter isNamed).map String.ofList⟩

def rootText : Root → String
  | .none => ""
  | .single => "/"
  | .double => "//"

def text (path : Path) : String :=
  if path.root = .none ∧ path.parts = [] then "."
  else rootText path.root ++ String.intercalate "/" path.parts

def isAbsolute (path : Path) : Bool := path.root != .none

def join (base path : Path) : Path :=
  if path.isAbsolute then path else ⟨base.root, base.parts ++ path.parts⟩

-- The parts before a given one, last first, with it taken in: two dots take the last one back, which
-- at the root is none.
def climb (isAbsolute : Bool) (done : List String) (part : String) : List String :=
  if part ≠ ".." then part :: done
  else
    match done with
    | [] => if isAbsolute then [] else [".."]
    | last :: rest => if last = ".." then ".." :: done else rest

def normal (path : Path) : Path :=
  ⟨path.root, (path.parts.foldl (climb path.isAbsolute) []).reverse⟩

def absolute (directory path : Path) : Path := (directory.join path).normal

end Path
end MarkdownView

import MarkdownView.Failure
set_option autoImplicit false

namespace MarkdownView

structure Signature where
  holder : String
  wanted : List String
  more : List String

namespace Signature

def knows (signature : Signature) (name : String) : Bool :=
  signature.wanted.contains name || signature.more.contains name

def check (signature : Signature) (given : List String) : Except Failure Unit :=
  match given.find? fun name => !signature.knows name with
  | some name => .error (.unknownOption signature.holder name)
  | none =>
    match signature.wanted.filter fun name => !given.contains name with
    | [] => .ok ⟨⟩
    | names => .error (.missingOptions signature.holder names)

end Signature

inductive Argument (α : Type) where
  | absent
  | given (value : α)
  | foreign (typeName : String)

def Argument.resolve {α : Type} (component expected : String) (default : α) :
    Argument α → Except Failure α
  | .absent => .ok default
  | .given value => .ok value
  | .foreign received => .error (.wrongOptions component expected received none none)

namespace Options

abbrev Changes := List (String × Json)

def checkNames (holder : String) (names : List String) (changes : Changes) :
    Except Failure Unit :=
  Signature.check ⟨holder, [], names⟩ (changes.map Prod.fst)

def revised {α : Type} (changes : Changes) (name : String) (read : Json → α) (old : α) : α :=
  match (Json.object changes).field? name with
  | some value => read value
  | none => old

end Options
end MarkdownView

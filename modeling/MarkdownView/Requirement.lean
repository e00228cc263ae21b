import MarkdownView.Failure
import MarkdownView.Version.Specifier
set_option autoImplicit false

namespace MarkdownView

structure Requirement where
  package : String
  module : String
  demand : String

structure Installation where
  modules : List String
  packages : List (String × String)

namespace Installation

def version? (installation : Installation) (package : String) : Option String :=
  installation.packages.lookup package

-- Whether a package meets a demand, and its version. An empty version is none, and what is no version,
-- or no demand, is accepted.
def check (installation : Installation) (package demand : String) :
    Except Failure (Bool × Option String) :=
  match installation.version? package with
  | none => .ok (false, none)
  | some version =>
    if version = "" then .ok (false, none)
    else
      match Version.meets version demand with
      | .ok isMet => .ok (isMet, some version)
      | .error .malformed => .ok (true, some version)
      | .error (.excessive digits) => .error (.refused (.numberLength digits))

end Installation

structure Shortfall where
  missing : List MissingPackage
  mismatched : List VersionMismatch
  firstFailure : Option Failure

namespace Installation

def mismatch (installation : Installation) (requirement : Requirement) :
    Except Failure (Option VersionMismatch) :=
  if requirement.demand = "" then .ok none
  else do
    let (isMet, version) ← installation.check requirement.package requirement.demand
    pure (if isMet then none else
      some ⟨requirement.package, requirement.demand, version.getD "unknown"⟩)

def shortfall (installation : Installation) : List Requirement → Except Failure Shortfall
  | [] => .ok ⟨[], [], none⟩
  | requirement :: requirements =>
    if !installation.modules.contains requirement.module then do
      let rest ← installation.shortfall requirements
      pure ⟨⟨requirement.package, requirement.demand⟩ :: rest.missing, rest.mismatched,
        some (.missingModule requirement.module)⟩
    else do
      let mismatched ← installation.mismatch requirement
      let rest ← installation.shortfall requirements
      pure { rest with mismatched := mismatched.toList ++ rest.mismatched }

def require (installation : Installation) (component : String)
    (requirements : List Requirement) : Except Failure Unit := do
  let shortfall ← installation.shortfall requirements
  if shortfall.missing.isEmpty && shortfall.mismatched.isEmpty then .ok ⟨⟩
  else .error (.dependency component shortfall.missing shortfall.mismatched none
    (shortfall.firstFailure.map Failure.kind))

end Installation
end MarkdownView

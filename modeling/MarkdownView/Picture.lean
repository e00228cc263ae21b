import MarkdownView.Path
import MarkdownView.Requirement
import MarkdownView.Text.Basic
import MarkdownView.Trace
import MarkdownView.Url
set_option autoImplicit false

namespace MarkdownView

structure Entry where
  isPresent : Except Failure Bool
  isFile : Except Failure Bool
  isReadable : Except Failure Bool
  size : Except Failure (Int × Int)

structure Files where
  directory : String
  entries : List (String × Entry)

def Failure.unidentifiedImage : Failure :=
  .outside "UnidentifiedImageError" "cannot identify image file" [.file, .unidentifiedImage]

def Entry.absent : Entry :=
  ⟨.ok false, .ok false, .ok false,
    .error (.outside "FileNotFoundError" "no such image" [.file])⟩

def Files.entry (files : Files) (path : String) : Entry :=
  (files.entries.lookup path).getD .absent

namespace Picture

-- A scheme of one letter is a drive.
def schemeOf (url : String) : Except Failure String := do
  let parts ← Url.split url
  pure (if parts.scheme.length < 2 then "" else parts.scheme)

def unavailable {α : Type} (url reason : String) : Except Failure α :=
  .error (.imageUnavailable url (some reason) none)

def guarded {α : Type} (url reason : String) (answer : Except Failure α) : Except Failure α :=
  match answer with
  | .ok value => .ok value
  | .error failure =>
    if failure.isFileTrouble || failure.isValueTrouble then
      .error (.imageUnavailable url (some reason) (some failure.kind))
    else .error failure

-- The path as it is written, unless only the decoded one is there.
def present (files : Files) (written decoded : String) : Except Failure String := do
  let isPresent ← (files.entry written).isPresent
  if isPresent then pure written
  else
    let isDecodedPresent ← (files.entry decoded).isPresent
    pure (if isDecodedPresent then decoded else written)

def resolvePath (files : Files) (url : String) (base : Option Path) : Except Failure String := do
  let directory := Path.ofText files.directory
  let base := base.getD directory
  let absolute (reference : String) :=
    (Path.absolute directory (base.join (Path.ofText reference))).text
  if Text.trim url = "" then unavailable url "empty image path"
  else
    let scheme ← schemeOf url
    if scheme = "file" then
      let parts ← Url.split url
      pure (absolute (Url.decode parts.path))
    else if scheme = "" then
      guarded url "path cannot be checked" (present files (absolute url) (absolute (Url.decode url)))
    else unavailable url s!"'{scheme}' images are not loaded, only local files"

def probeRequirements : List Requirement := [⟨"Pillow", "PIL", ">=9.0.0"⟩]

def probe (files : Files) (installation : Installation) (path : String) :
    Traced (Option Int × Option Int) := do
  Traced.ofExcept (installation.require "image probe" probeRequirements)
  match (files.entry path).size with
  | .ok (width, height) => pure (some width, some height)
  | .error failure =>
    if failure.isA .unidentifiedImage then do
      Traced.note .debug s!"Pillow could not identify {path}, leaving dimensions unset"
      pure (none, none)
    else if failure.isFileTrouble then
      Traced.fail (.imageUnavailable path (some "file not readable") (some failure.kind))
    else Traced.fail failure

def checkReadable (files : Files) (url path : String) : Except Failure Unit := do
  let entry := files.entry path
  let isFile ← guarded url "file not readable" entry.isFile
  if !isFile then unavailable url "file not found"
  else
    let isReadable ← guarded url "file not readable" entry.isReadable
    if !isReadable then unavailable url "file not readable" else pure ⟨⟩

def dimensions (files : Files) (installation : Installation) (path : String)
    (width height : Option Int) : Traced (Option Int × Option Int) :=
  if width.isSome && height.isSome then pure (width, height)
  else do
    let (measuredWidth, measuredHeight) ← probe files installation path
    pure (width.orElse fun _ => measuredWidth, height.orElse fun _ => measuredHeight)

def load (files : Files) (installation : Installation) (base : Option Path) (url alt : String)
    (title : Option String) (width height : Option Int) : Traced Picture := do
  let path ← Traced.ofExcept (resolvePath files url base)
  Traced.note .debug s!"Resolved image '{url}' to {path}"
  Traced.ofExcept (checkReadable files url path)
  let (width, height) ← dimensions files installation path width height
  pure ⟨path, alt, title, width, height⟩

end Picture
end MarkdownView

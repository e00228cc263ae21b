import MarkdownView.Proofs.Picture
import MarkdownView.Proofs.Picture.Resolution
set_option autoImplicit false

namespace MarkdownView

-- The text of an absolute path in normal form, below one slash or two.
def Path.IsNormal (text : String) : Prop :=
  ∃ slashes ∈ ["/", "//"], ∃ parts : List String,
    (∀ part ∈ parts, IsName part) ∧ text = slashes ++ String.intercalate "/" parts

theorem Path.text_is_normal {path : Path} (rooted : path.root ≠ .none)
    (named : ∀ part ∈ path.parts, IsName part) : IsNormal path.text := by
  refine ⟨rootText path.root, ?_, path.parts, named, text_of_rooted rooted⟩
  cases root : path.root with
  | none => exact absurd root rooted
  | single => decide
  | double => decide

-- Without a scheme, or with one so short that it is a drive.
def Url.IsSchemeless (url : String) : Prop := ∀ scheme, HasScheme url scheme → scheme.length < 2

theorem Url.IsSchemeless.short {url : String} (schemeless : IsSchemeless url) {parts : Parts}
    (whole : split url = .ok parts) : parts.scheme.length < 2 := by
  rcases scheme_of_split whole with empty | ⟨scheme, has, same⟩
  · rw [empty]
    decide
  · rw [same, String.length_ofList, List.length_map]
    exact schemeless scheme has

namespace Picture

theorem present_eq_ok {files : Files} {written decoded path : String}
    (found : present files written decoded = .ok path) :
    path = written ∧ ((files.entry written).isPresent = .ok true ∨
        (files.entry written).isPresent = .ok false ∧ (files.entry decoded).isPresent = .ok false) ∨
      path = decoded ∧ (files.entry written).isPresent = .ok false ∧
        (files.entry decoded).isPresent = .ok true := by
  rw [present, bind_eq_ok_iff] at found
  obtain ⟨isPresent, writtenAnswered, found⟩ := found
  cases isPresent with
  | true => exact .inl ⟨(Except.ok.inj found).symm, .inl writtenAnswered⟩
  | false =>
    obtain ⟨isDecodedPresent, decodedAnswered, found⟩ := bind_eq_ok_iff.mp found
    cases isDecodedPresent with
    | true => exact .inr ⟨(Except.ok.inj found).symm, writtenAnswered, decodedAnswered⟩
    | false => exact .inl ⟨(Except.ok.inj found).symm, .inr ⟨writtenAnswered, decodedAnswered⟩⟩

theorem locate_eq {files : Files} (rooted : (Path.ofText files.directory).root ≠ .none)
    (base : Option String) (reference : String) :
    ∃ path : Path, path.root ≠ .none ∧ (∀ part ∈ path.parts, Path.IsName part) ∧
      locate files (base.map Path.ofText) reference = path.text := by
  have baseSteps : ∀ part ∈ ((base.map Path.ofText).getD (Path.ofText files.directory)).parts,
      Path.IsStep part := by
    cases base with
    | none => exact Path.of_text_steps files.directory
    | some base => exact Path.of_text_steps base
  let joined := ((base.map Path.ofText).getD (Path.ofText files.directory)).join (Path.ofText reference)
  have wholeSteps := Path.join_steps (Path.of_text_steps files.directory)
    (Path.join_steps baseSteps (Path.of_text_steps reference))
  have wholeRooted := Path.root_join rooted joined
  exact ⟨(Path.absolute (Path.ofText files.directory) joined), wholeRooted,
    Path.normal_named wholeRooted wholeSteps, rfl⟩

theorem resolve_path_located {files : Files} {url : String} {base : Option Path} {path : String}
    (resolved : resolvePath files url base = .ok path) :
    ∃ parts, Url.split url = .ok parts ∧
      (parts.scheme = "file" ∧ path = locate files base (Url.decode parts.path) ∨
        parts.scheme.length < 2 ∧
          present files (locate files base url) (locate files base (Url.decode url)) = .ok path) := by
  rw [resolve_path_eq] at resolved
  split at resolved
  · cases resolved
  · split at resolved
    · cases resolved
    · next parts whole =>
      refine ⟨parts, whole, ?_⟩
      split at resolved
      · next isFile => exact .inl ⟨isFile, (Except.ok.inj resolved).symm⟩
      · split at resolved
        · next short => exact .inr ⟨short, guarded_eq_ok_iff.mp resolved⟩
        · cases resolved

theorem resolve_path_eq_locate {files : Files} {url : String} {base : Option Path} {path : String}
    (resolved : resolvePath files url base = .ok path) : ∃ reference, path = locate files base reference := by
  obtain ⟨parts, _, ⟨_, same⟩ | ⟨_, found⟩⟩ := resolve_path_located resolved
  · exact ⟨_, same⟩
  · rcases present_eq_ok found with ⟨same, _⟩ | ⟨same, _⟩
    · exact ⟨_, same⟩
    · exact ⟨_, same⟩

-- Whatever a reference resolves to, nothing is left in it to go up or to be joined to. The decoded form of
-- a reference counts only where the written one leads nowhere.
theorem resolve_path_normal {files : Files} {url : String} {base : Option String} {path : String}
    (isAbsolute : (Path.ofText files.directory).isAbsolute = true)
    (resolved : resolvePath files url (base.map Path.ofText) = .ok path) :
    Path.IsNormal path ∧
      (∀ directory : Path, (directory.join (Path.ofText path)).normal.text = path) ∧
      (Url.IsSchemeless url →
        let written := locate files (base.map Path.ofText) url
        let decoded := locate files (base.map Path.ofText) (Url.decode url)
        path = written ∧ ((files.entry written).isPresent = .ok true ∨
            (files.entry written).isPresent = .ok false ∧ (files.entry decoded).isPresent = .ok false) ∨
          path = decoded ∧ (files.entry written).isPresent = .ok false ∧
            (files.entry decoded).isPresent = .ok true) := by
  have rooted : (Path.ofText files.directory).root ≠ .none := bne_iff_ne.mp isAbsolute
  obtain ⟨reference, rfl⟩ := resolve_path_eq_locate resolved
  refine ⟨?_, ?_, fun schemeless => ?_⟩
  · obtain ⟨location, locationRooted, named, same⟩ := locate_eq rooted base reference
    rw [same]
    exact Path.text_is_normal locationRooted named
  · intro directory
    obtain ⟨location, locationRooted, named, same⟩ := locate_eq rooted base reference
    rw [same, Path.of_text_text locationRooted named, Path.join_of_rooted locationRooted,
      Path.normal_of_named named]
  · obtain ⟨parts, whole, ⟨isFile, _⟩ | ⟨_, found⟩⟩ := resolve_path_located resolved
    · have short := schemeless.short whole
      rw [isFile] at short
      exact absurd short (by decide)
    · exact present_eq_ok found

def shelvedFiles : Files :=
  ⟨"/work/docs", [("/work/pics/a b.png", ⟨.ok true, .ok true, .ok true, .ok (1, 1)⟩)]⟩

theorem resolve_path_normal_steps_up :
    (Path.ofText shelvedFiles.directory).isAbsolute = true ∧
      Url.IsSchemeless "x/%2E%2E/a%20b.png" ∧
      resolvePath shelvedFiles "x/%2E%2E/a%20b.png" ((some "../pics/.").map Path.ofText) =
        .ok "/work/pics/a b.png" ∧
      Path.IsNormal "/work/pics/a b.png" ∧
      (∀ directory : Path, (directory.join (Path.ofText "/work/pics/a b.png")).normal.text =
        "/work/pics/a b.png") ∧
      "/work/pics/a b.png" =
        locate shelvedFiles ((some "../pics/.").map Path.ofText) (Url.decode "x/%2E%2E/a%20b.png") := by
  have resolved : resolvePath shelvedFiles "x/%2E%2E/a%20b.png" ((some "../pics/.").map Path.ofText) =
      .ok "/work/pics/a b.png" := by rfl
  have schemeless : Url.IsSchemeless "x/%2E%2E/a%20b.png" := by
    rintro scheme ⟨_, _, rest, spelled⟩
    have colon : ':' ∈ Url.clean "x/%2E%2E/a%20b.png".toList := by
      rw [spelled]
      exact List.mem_append_right _ List.mem_cons_self
    exact absurd colon (by decide)
  obtain ⟨normal, settled, ends⟩ := resolve_path_normal rfl resolved
  refine ⟨rfl, schemeless, resolved, normal, settled, ?_⟩
  rcases ends schemeless with ⟨same, _⟩ | ⟨same, _⟩
  · exact absurd same (by decide)
  · exact same

end Picture
end MarkdownView

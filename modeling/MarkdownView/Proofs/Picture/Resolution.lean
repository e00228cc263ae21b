import MarkdownView.Picture
import MarkdownView.Proofs.Path
import MarkdownView.Proofs.Trace
import MarkdownView.Proofs.Url
set_option autoImplicit false

namespace MarkdownView

namespace Picture

-- The path that a reference comes to from a base, or else from the working directory.
def locate (files : Files) (base : Option Path) (reference : String) : String :=
  let directory := Path.ofText files.directory
  (Path.absolute directory ((base.getD directory).join (Path.ofText reference))).text

theorem resolve_path_eq (files : Files) (url : String) (base : Option Path) :
    resolvePath files url base =
      if Text.trim url = "" then unavailable url "empty image path"
      else
        match Url.split url with
        | .error failure => .error failure
        | .ok parts =>
          if parts.scheme = "file" then .ok (locate files base (Url.decode parts.path))
          else if parts.scheme.length < 2 then
            guarded url "path cannot be checked"
              (present files (locate files base url) (locate files base (Url.decode url)))
          else unavailable url s!"'{parts.scheme}' images are not loaded, only local files" := by
  rw [resolvePath, schemeOf]
  split
  · rfl
  · cases Url.split url with
    | error failure => rfl
    | ok parts =>
      simp only [bind, Except.bind, pure, Except.pure]
      by_cases short : parts.scheme.length < 2
      · -- What is too short for a scheme is none, so it is not that of files.
        have notFile : parts.scheme ≠ "file" := by
          intro same
          rw [same] at short
          exact absurd short (by decide)
        rw [if_pos short, if_neg (by decide), if_pos rfl, if_neg notFile, if_pos short]
        rfl
      · have named : parts.scheme ≠ "" := by
          intro empty
          rw [empty] at short
          exact short (by decide)
        rw [if_neg short, if_neg named, if_neg short]
        rfl

theorem load_of_unresolved {files : Files} {url : String} {base : Option Path} {failure : Failure}
    (unresolved : resolvePath files url base = .error failure) (installation : Installation) (alt : String)
    (title : Option String) (width height : Option Int) :
    load files installation base url alt title width height = Traced.fail failure := by
  rw [load, unresolved]
  exact Traced.fail_bind failure _

-- A reference with a scheme that is neither a drive nor that of files fails at once, and with the same
-- failure whatever there is in the surroundings: that it cannot be taken apart, or that it is not local.
theorem load_remote {url : String} {scheme : List Char} (has : Url.HasScheme url scheme)
    (long : 2 ≤ scheme.length) (foreign : scheme.map Char.toLower ≠ "file".toList) :
    ∃ failure,
      (Url.split url = .error failure ∨
        failure = .imageUnavailable url
          (some s!"'{String.ofList (scheme.map Char.toLower)}' images are not loaded, only local files") none) ∧
      ∀ (files : Files) (installation : Installation) (base : Option Path) (alt : String)
        (title : Option String) (width height : Option Int),
        load files installation base url alt title width height = Traced.fail failure := by
  obtain ⟨rest, schemed⟩ := has.split_scheme_eq
  have visible := has.trim_ne_empty
  have split := Url.split_of_scheme schemed
  cases checked : Url.Host.check (Url.hostOf rest) with
  | error failure =>
    rw [checked] at split
    refine ⟨failure, .inl split, fun files installation base => load_of_unresolved ?_ installation⟩
    rw [resolve_path_eq, if_neg visible, split]
    rfl
  | ok _ =>
    rw [checked] at split
    have notFile : String.ofList (scheme.map Char.toLower) ≠ "file" := by
      intro same
      rw [← same, String.toList_ofList] at foreign
      exact foreign rfl
    have notShort : ¬ (String.ofList (scheme.map Char.toLower)).length < 2 := by
      rw [String.length_ofList, List.length_map]
      omega
    refine ⟨_, .inr rfl, fun files installation base => load_of_unresolved ?_ installation⟩
    rw [resolve_path_eq, if_neg visible, split]
    change (if _ then _ else if _ then _ else _) = _
    rw [if_neg notFile, if_neg notShort]
    rfl

def obscured : String := "\u0001hT\ntps://h/a.png"

theorem load_remote_obscured :
    Url.HasScheme obscured "hTtps".toList ∧
      ∀ (files : Files) (installation : Installation) (base : Option Path) (alt : String)
        (title : Option String) (width height : Option Int),
        load files installation base obscured alt title width height = Traced.fail
          (.imageUnavailable obscured (some "'https' images are not loaded, only local files") none) := by
  have has : Url.HasScheme obscured "hTtps".toList :=
    ⟨rfl, List.all_eq_true.mp (by decide), "//h/a.png".toList, rfl⟩
  refine ⟨has, ?_⟩
  obtain ⟨failure, unsplit | rfl, fails⟩ := load_remote has (by decide) (by decide)
  · have split : Url.split obscured = .ok ⟨"https", "/a.png"⟩ := rfl
    rw [split] at unsplit
    cases unsplit
  · exact fails

theorem locate_text {path : Path} (rooted : path.root ≠ .none)
    (named : ∀ part ∈ path.parts, Path.IsName part) (files : Files) (base : Option Path) :
    locate files base path.text = path.text := by
  simp only [locate, Path.absolute, Path.of_text_text rooted named, Path.join_of_rooted rooted,
    Path.normal_of_named named]

theorem present_of_written {files : Files} {written decoded : String}
    (isPresent : (files.entry written).isPresent = .ok true) :
    present files written decoded = .ok written := by
  rw [present, isPresent]
  rfl

theorem present_of_decoded {files : Files} {written decoded : String}
    (isAbsent : (files.entry written).isPresent = .ok false)
    (isPresent : (files.entry decoded).isPresent = .ok true) :
    present files written decoded = .ok decoded := by
  rw [present, isAbsent]
  change (do let isPresent ← (files.entry decoded).isPresent; pure (if isPresent then decoded else written)) = _
  rw [isPresent]
  rfl

end Picture

-- The text of an absolute path in which nothing can be left out.
def Path.IsPlain (text : String) : Prop :=
  ∃ parts : List String, (∀ part ∈ parts, IsName part) ∧ text = "/" ++ String.intercalate "/" parts

theorem Path.IsPlain.text_eq {text : String} (plain : IsPlain text) :
    ∃ parts : List String, (∀ part ∈ parts, IsName part) ∧ text = (Path.mk .single parts).text := by
  obtain ⟨parts, named, rfl⟩ := plain
  have rooted : (Path.mk .single parts).root ≠ .none := nofun
  exact ⟨parts, named, (text_of_rooted rooted).symm⟩

namespace Picture

theorem resolve_path_encode (files : Files) (base : Option Path) :
    (∀ path, Path.IsPlain path →
      resolvePath files ("file://" ++ Url.encode path) base = .ok path) ∧
    ∀ reference, reference ≠ "" →
      (files.entry (locate files base reference)).isPresent = .ok true →
      Url.encode reference = reference ∨
        (files.entry (locate files base (Url.encode reference))).isPresent = .ok false →
      resolvePath files (Url.encode reference) base = .ok (locate files base reference) := by
  constructor
  · intro text plain
    obtain ⟨parts, named, rfl⟩ := plain.text_eq
    have rooted : (Path.mk .single parts).root ≠ .none := nofun
    have slash : (Path.rootText .single).toList ++ Path.below parts = '/' :: Path.below parts := rfl
    have slashed : (Path.mk .single parts).text.toList = '/' :: Path.below parts :=
      (Path.to_list_text rooted).trans slash
    have visible : Text.trim ("file://" ++ Url.encode (Path.mk .single parts).text) ≠ "" := by
      refine Text.trim_ne_empty (c := 'f') ?_ (by decide) (by decide)
      rw [String.toList_append]
      exact List.mem_append_left _ (by decide)
    rw [resolve_path_eq, if_neg visible, Url.split_file_url slashed]
    simp only [if_true, Url.decode_encode, locate_text rooted named]
  · intro reference nonempty isPresent unwritten
    obtain ⟨path, split⟩ := Url.split_encode reference
    rw [resolve_path_eq, if_neg (Url.trim_encode_ne_empty nonempty), split]
    have notFile : "" ≠ "file" := by decide
    have short : "".length < 2 := by decide
    simp only [if_neg notFile, if_pos short, Url.decode_encode]
    rcases unwritten with same | isAbsent
    · rw [same, present_of_written isPresent]
      rfl
    · rw [present_of_decoded isAbsent isPresent]
      rfl

def markedFiles : Files :=
  ⟨"/docs", [("/docs/50% größer?.png", ⟨.ok true, .ok true, .ok true, .ok (1, 1)⟩)]⟩

theorem resolve_path_encode_marked :
    Path.IsPlain "/docs/50% größer?.png" ∧
      resolvePath markedFiles "file:///docs/50%25%20gr%C3%B6%C3%9Fer%3F.png" (some ⟨.none, ["x"]⟩) =
        .ok "/docs/50% größer?.png" ∧
      resolvePath markedFiles "50%25%20gr%C3%B6%C3%9Fer%3F.png" none = .ok "/docs/50% größer?.png" := by
  have directoryNamed : Path.IsName "docs" := ⟨by decide, by decide, by decide, by decide⟩
  have fileNamed : Path.IsName "50% größer?.png" := ⟨by decide, by decide, by decide, by decide⟩
  have plain : Path.IsPlain "/docs/50% größer?.png" :=
    ⟨_, List.forall_mem_cons.mpr ⟨directoryNamed, List.forall_mem_singleton.mpr fileNamed⟩, rfl⟩
  have urlEncoded : "file://" ++ Url.encode "/docs/50% größer?.png" =
      "file:///docs/50%25%20gr%C3%B6%C3%9Fer%3F.png" := by decide
  have encoded : Url.encode "50% größer?.png" = "50%25%20gr%C3%B6%C3%9Fer%3F.png" := by decide
  refine ⟨plain, ?_, ?_⟩
  · rw [← urlEncoded]
    exact (resolve_path_encode markedFiles (some ⟨.none, ["x"]⟩)).1 _ plain
  · rw [← encoded]
    exact (resolve_path_encode markedFiles none).2 "50% größer?.png" (by decide) rfl (.inr rfl)

end Picture
end MarkdownView

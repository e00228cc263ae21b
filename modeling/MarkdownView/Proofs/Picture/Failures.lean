import MarkdownView.Proofs.Picture
import MarkdownView.Proofs.Picture.Resolution
import MarkdownView.Proofs.Requirement
set_option autoImplicit false

namespace MarkdownView

def Failure.IsTrouble (failure : Failure) : Prop :=
  (failure.isFileTrouble || failure.isValueTrouble) = true

inductive Entry.Strays (entry : Entry) : Failure → Prop where
  | checked {failure : Failure}
      (answered : entry.isPresent = .error failure ∨ entry.isFile = .error failure ∨
        entry.isReadable = .error failure)
      (stray : ¬ failure.IsTrouble) : Strays entry failure
  | measured {failure : Failure} (answered : entry.size = .error failure)
      (stray : failure.isFileTrouble = false) : Strays entry failure

theorem Entry.Strays.allowed {allowed : Failure → Prop} {entry : Entry} {failure : Failure}
    (strays : entry.Strays failure) (raises : entry.RaisesOnly allowed) : allowed failure := by
  rcases strays with ⟨isPresent | isFile | isReadable, _⟩ | ⟨size, _⟩
  · exact raises.isPresent failure isPresent
  · exact raises.isFile failure isFile
  · exact raises.isReadable failure isReadable
  · exact raises.size failure size

-- A file whose checks fail with trouble about files or values only, and whose measuring with trouble about
-- files.
structure Entry.IsOrdinary (entry : Entry) : Prop where
  isPresent : MarkdownView.RaisesOnly Failure.IsTrouble entry.isPresent
  isFile : MarkdownView.RaisesOnly Failure.IsTrouble entry.isFile
  isReadable : MarkdownView.RaisesOnly Failure.IsTrouble entry.isReadable
  size : MarkdownView.RaisesOnly (fun failure => failure.isFileTrouble = true) entry.size

theorem Entry.IsOrdinary.not_strays {entry : Entry} (ordinary : entry.IsOrdinary) {failure : Failure} :
    ¬ entry.Strays failure := by
  rintro (⟨isPresent | isFile | isReadable, stray⟩ | ⟨size, stray⟩)
  · exact stray (ordinary.isPresent failure isPresent)
  · exact stray (ordinary.isFile failure isFile)
  · exact stray (ordinary.isReadable failure isReadable)
  · rw [ordinary.size failure size] at stray
    cases stray

theorem Files.forall_entry {files : Files} {holds : Entry → Prop} (absent : holds .absent)
    (listed : ∀ named ∈ files.entries, holds named.2) (path : String) : holds (files.entry path) := by
  rw [entry]
  cases found : files.entries.lookup path with
  | none => exact absent
  | some entry =>
    obtain ⟨before, after, split, _⟩ := List.lookup_eq_some_iff.mp found
    refine listed (path, entry) ?_
    rw [split]
    exact List.mem_append_right before List.mem_cons_self

def Installation.measuring : Installation := ⟨["PIL"], [("Pillow", "11.1.0")]⟩

theorem Installation.measuring_meets :
    measuring.require "image probe" Picture.probeRequirements = .ok ⟨⟩ := by
  have clauses : ">=9.0.0".splitOn "," = [">=9.0.0"] := Text.split_on_of_free ',' (by decide)
  have meets : Version.meets "11.1.0" ">=9.0.0" = .ok true := by
    rw [Version.meets, Version.clauses, clauses]
    rfl
  exact require_of_meets (by decide) (by decide) meets "PIL" "image probe"

-- A directory with a file that cannot be opened and one that cannot even be looked for.
def Files.brittle : Files :=
  ⟨"/docs", [("/docs/a.png", ⟨.ok true, .ok true, .ok true, .error (.outside "OSError" "disk" [.file])⟩),
    ("/docs/b.png", ⟨.error (.outside "PermissionError" "denied" [.file]), .ok false, .ok false,
      .error .unidentifiedImage⟩)]⟩

theorem Files.brittle_ordinary (path : String) : (brittle.entry path).IsOrdinary := by
  refine forall_entry ?_ (List.forall_mem_cons.mpr ⟨?_, List.forall_mem_singleton.mpr ?_⟩) path
  · exact ⟨raises_only_ok _, raises_only_ok _, raises_only_ok _, raises_only_error (by decide)⟩
  · exact ⟨raises_only_ok _, raises_only_ok _, raises_only_ok _, raises_only_error (by decide)⟩
  · exact ⟨raises_only_error (Bool.or_eq_true_iff.mpr (.inl (by decide))), raises_only_ok _,
      raises_only_ok _, raises_only_error (by decide)⟩

namespace Picture

-- A file that is there and can be read, is to be measured and cannot be opened.
structure FailsToMeasure (files : Files) (base : Option Path) (url : String) (width height : Option Int)
    (path : String) : Prop where
  resolved : resolvePath files url base = .ok path
  readable : checkReadable files url path = .ok ⟨⟩
  unstated : width = none ∨ height = none
  unopened : ∃ failure, (files.entry path).size = .error failure ∧ failure.isFileTrouble = true ∧
    failure.isA .unidentifiedImage = false

inductive Hinders (files : Files) (installation : Installation) (base : Option Path) (url : String)
    (width height : Option Int) : Failure → Prop where
  | unreadable {failure : Failure} (refused : Url.Host.check (Url.host url) = .error failure) :
      Hinders files installation base url width height failure
  | unavailable (unmeasured : ∀ path, ¬ FailsToMeasure files base url width height path)
      (reason cause : Option String) :
      Hinders files installation base url width height (.imageUnavailable url reason cause)
  | stray {path : String} {failure : Failure} (strays : (files.entry path).Strays failure) :
      Hinders files installation base url width height failure
  | unprepared {failure : Failure}
      (unmet : installation.require "image probe" probeRequirements = .error failure) :
      Hinders files installation base url width height failure
  | unmeasured {path : String} (fails : FailsToMeasure files base url width height path)
      (reason cause : Option String) :
      Hinders files installation base url width height (.imageUnavailable path reason cause)

section

variable {files : Files} {installation : Installation} {base : Option Path} {url : String}
  {width height : Option Int}

theorem guarded_raises {α : Type} {allowed : Failure → Prop} {reason : String} {answer : Except Failure α}
    (unavailable : ∀ reason cause, allowed (.imageUnavailable url reason cause))
    (strays : ∀ failure, answer = .error failure → ¬ failure.IsTrouble → allowed failure) :
    RaisesOnly allowed (guarded url reason answer) := by
  rw [guarded.eq_def]
  split
  · exact raises_only_ok _
  · next failure =>
    split
    · exact raises_only_error (unavailable _ _)
    · next untroubled => exact raises_only_error (strays failure rfl untroubled)

theorem present_raises (written decoded : String) :
    RaisesOnly (fun failure => ∃ path, (files.entry path).isPresent = .error failure)
      (present files written decoded) := by
  refine raises_only_bind (fun failure answered => ⟨written, answered⟩) fun isPresent => ?_
  split
  · exact raises_only_ok _
  · exact raises_only_bind (fun failure answered => ⟨decoded, answered⟩) fun _ => raises_only_ok _

theorem resolve_path_hindered {failure : Failure}
    (unresolved : resolvePath files url base = .error failure) :
    Hinders files installation base url width height failure := by
  have unmeasured : ∀ path, ¬ FailsToMeasure files base url width height path := by
    intro path fails
    rw [fails.resolved] at unresolved
    cases unresolved
  rw [resolve_path_eq] at unresolved
  split at unresolved
  · cases unresolved
    exact .unavailable unmeasured _ _
  · split at unresolved
    · next refused =>
      rw [Except.error.inj unresolved] at refused
      exact .unreadable (Url.split_eq_error_iff.mp refused)
    · split at unresolved
      · cases unresolved
      · split at unresolved
        · refine guarded_raises (.unavailable unmeasured) ?_ failure unresolved
          intro other answered stray
          obtain ⟨path, present⟩ := present_raises _ _ other answered
          exact .stray (.checked (.inl present) stray)
        · cases unresolved
          exact .unavailable unmeasured _ _

theorem check_readable_hindered {path : String} {failure : Failure}
    (resolved : resolvePath files url base = .ok path)
    (unreadable : checkReadable files url path = .error failure) :
    Hinders files installation base url width height failure := by
  have unmeasured : ∀ other, ¬ FailsToMeasure files base url width height other := by
    intro other fails
    obtain rfl := Except.ok.inj (resolved.symm.trans fails.resolved)
    cases unreadable.symm.trans fails.readable
  refine raises_only_bind ?_ ?_ failure unreadable
  · exact guarded_raises (.unavailable unmeasured) fun other answered stray =>
      .stray (.checked (.inr (.inl answered)) stray)
  · intro isFile
    split
    · exact raises_only_error (.unavailable unmeasured _ _)
    · refine raises_only_bind ?_ fun isReadable => ?_
      · exact guarded_raises (.unavailable unmeasured) fun other answered stray =>
          .stray (.checked (.inr (.inr answered)) stray)
      · split
        · exact raises_only_error (.unavailable unmeasured _ _)
        · exact raises_only_ok _

theorem probe_hindered {path : String} (resolved : resolvePath files url base = .ok path)
    (readable : checkReadable files url path = .ok ⟨⟩) (unstated : width = none ∨ height = none) :
    (probe files installation path).RaisesOnly (Hinders files installation base url width height) := by
  refine Traced.raises_only_bind (Traced.raises_only_of_except fun failure unmet => .unprepared unmet) ?_
  intro _
  split
  · exact Traced.raises_only_pure _
  · next failure unopened =>
    split
    · exact Traced.raises_only_bind (Traced.raises_only_note _ _) fun _ => Traced.raises_only_pure _
    · next identified =>
      split
      · next trouble =>
        have fails : FailsToMeasure files base url width height path :=
          ⟨resolved, readable, unstated, failure, unopened, trouble,
      Bool.eq_false_of_not_eq_true identified⟩
        exact Traced.raises_only_fail (.unmeasured fails _ _)
      · next untroubled =>
        exact Traced.raises_only_fail (.stray (.measured unopened (eq_false_of_ne_true untroubled)))

theorem load_hindered (alt : String) (title : Option String) :
    (load files installation base url alt title width height).RaisesOnly
      (Hinders files installation base url width height) := by
  refine Traced.raises_only_bind_of_yields
    (Traced.raises_only_of_except fun failure unresolved => resolve_path_hindered unresolved) ?_
  intro _ path _ yields
  have resolved := (Traced.yields_of_except_iff.mp yields).1
  refine Traced.raises_only_bind (Traced.raises_only_note _ _) fun _ => ?_
  refine Traced.raises_only_bind_of_yields
    (Traced.raises_only_of_except fun failure unreadable => check_readable_hindered resolved unreadable) ?_
  intro _ _ _ yields
  have readable := (Traced.yields_of_except_iff.mp yields).1
  refine Traced.raises_only_bind ?_ fun _ => Traced.raises_only_pure _
  rw [dimensions]
  split
  · exact Traced.raises_only_pure _
  · next unstated =>
    have unstated : width = none ∨ height = none := by
      cases width with
      | none => exact .inl rfl
      | some _ =>
        cases height with
        | none => exact .inr rfl
        | some _ => exact absurd rfl unstated
    exact Traced.raises_only_bind (probe_hindered resolved readable unstated) fun _ => Traced.raises_only_pure _

end

structure Allows (allowed : Failure → Prop) (files : Files) : Prop where
  refusals : ∀ refusal, allowed (.refused refusal)
  dependencies : ∀ component missing mismatched wording cause,
    allowed (.dependency component missing mismatched wording cause)
  unavailables : ∀ path reason cause, allowed (.imageUnavailable path reason cause)
  answers : files.RaisesOnly allowed

theorem load_raises_only {allowed : Failure → Prop} {files : Files} (allows : Allows allowed files)
    (installation : Installation) (base : Option Path) (url alt : String) (title : Option String)
    (width height : Option Int) :
    (load files installation base url alt title width height).RaisesOnly allowed := by
  intro past failure failed
  cases load_hindered alt title past failure failed with
  | unreadable refused =>
    exact Url.split_raises_only allows.refusals url failure (Url.split_eq_error_iff.mpr refused)
  | unavailable _ reason cause => exact allows.unavailables url reason cause
  | stray strays => exact strays.allowed (allows.answers _)
  | unprepared unmet =>
    exact require_raises_only allows.refusals allows.dependencies installation _ _ failure unmet
  | unmeasured _ reason cause => exact allows.unavailables _ reason cause

-- A picture, or word that the image is not available.
inductive IsAnswer : Except Failure Picture → Prop where
  | picture (picture : Picture) : IsAnswer (.ok picture)
  | unavailable (path : String) (reason cause : Option String) :
      IsAnswer (.error (.imageUnavailable path reason cause))

theorem load_refused {url : String} {failure : Failure}
    (refused : Url.Host.check (Url.host url) = .error failure) (files : Files)
    (installation : Installation) (base : Option Path) (alt : String) (title : Option String)
    (width height : Option Int) :
    load files installation base url alt title width height = Traced.fail failure := by
  refine load_of_unresolved ?_ installation alt title width height
  rw [resolve_path_eq, if_neg, Url.split_eq_error_iff.mpr refused]
  intro blank
  rw [Url.host_of_blank blank] at refused
  cases refused

theorem kind_of_refused {url : String} {failure : Failure}
    (refused : Url.Host.check (Url.host url) = .error failure) : failure.kind = "ValueError" := by
  have raises : RaisesOnly (fun failure => failure.kind = "ValueError") (Url.split url) :=
    Url.split_raises_only (fun _ => rfl) url
  exact raises failure (Url.split_eq_error_iff.mpr refused)

theorem load_answers_iff {files : Files} {installation : Installation}
    (ordinary : ∀ path, (files.entry path).IsOrdinary)
    (installed : installation.require "image probe" probeRequirements = .ok ⟨⟩)
    (base : Option Path) (url alt : String) (title : Option String) (width height : Option Int)
    (past : List Event) :
    (IsAnswer ((load files installation base url alt title width height).after past).outcome ↔
      Url.Host.check (Url.host url) = .ok ⟨⟩) ∧
    ∀ failure, Url.Host.check (Url.host url) = .error failure →
      ((load files installation base url alt title width height).after past).outcome = .error failure ∧
        failure.kind = "ValueError" := by
  constructor
  · constructor
    · intro answers
      cases checked : Url.Host.check (Url.host url) with
      | ok _ => rfl
      | error failure =>
        rw [load_refused checked] at answers
        have kind := kind_of_refused checked
        cases answers with
        | unavailable path reason cause =>
          have other : "ImageUnavailableError" = "ValueError" := kind
          exact absurd other (by decide)
    · intro readable
      cases ended : ((load files installation base url alt title width height).after past).outcome with
      | ok picture => exact .picture picture
      | error failure =>
        cases load_hindered alt title past failure ended with
        | unreadable refused => cases readable.symm.trans refused
        | unavailable _ reason cause => exact .unavailable url reason cause
        | stray strays => exact absurd strays (ordinary _).not_strays
        | unprepared unmet => cases installed.symm.trans unmet
        | unmeasured _ reason cause => exact .unavailable _ reason cause
  · intro failure refused
    rw [load_refused refused]
    exact ⟨rfl, kind_of_refused refused⟩

theorem load_answers_brittle :
    (∀ path, (Files.brittle.entry path).IsOrdinary) ∧
      Installation.measuring.require "image probe" probeRequirements = .ok ⟨⟩ ∧
      IsAnswer ((load .brittle Installation.measuring none "//[::1]/b.png" "" none none none).after
        []).outcome ∧
      ¬ IsAnswer ((load .brittle Installation.measuring none "//[::1/b.png" "" none none none).after
        []).outcome := by
  have answersIff (url : String) :=
    (load_answers_iff Files.brittle_ordinary Installation.measuring_meets none url "" none none none []).1
  have unread : Url.Host.check (Url.host "//[::1/b.png") = .error (.refused .misplacedBracket) := rfl
  refine ⟨Files.brittle_ordinary, Installation.measuring_meets, (answersIff _).mpr rfl, fun answers => ?_⟩
  cases unread.symm.trans ((answersIff _).mp answers)

theorem load_escapes_open_bracket :
    (∀ path, (Files.brittle.entry path).IsOrdinary) ∧
      Installation.measuring.require "image probe" probeRequirements = .ok ⟨⟩ ∧
      ((load .brittle Installation.measuring none "//[" "" none none none).after []).outcome =
        .error (.refused .misplacedBracket) ∧
      ¬ IsAnswer (.error (.refused .misplacedBracket)) := by
  have unread : Url.Host.check (Url.host "//[") = .error (.refused .misplacedBracket) := rfl
  refine ⟨Files.brittle_ordinary, Installation.measuring_meets, ?_, nofun⟩
  rw [load_refused unread]
  rfl

theorem load_unavailable_iff {files : Files} {installation : Installation} {base : Option Path}
    {url alt : String} {title : Option String} {width height : Option Int} {past : List Event}
    {named : String} {reason cause : Option String}
    (foreign : files.RaisesOnly fun failure => failure.kind ≠ "ImageUnavailableError")
    (failed : ((load files installation base url alt title width height).after past).outcome =
      .error (.imageUnavailable named reason cause)) :
    (named = url ↔ ∀ path, FailsToMeasure files base url width height path → path = url) ∧
      ∀ path, FailsToMeasure files base url width height path → named = path := by
  have own : (Failure.imageUnavailable named reason cause).kind = "ImageUnavailableError" := rfl
  cases load_hindered alt title past _ failed with
  | unreadable refused =>
    have kind : "ImageUnavailableError" = "ValueError" := kind_of_refused refused
    exact absurd kind (by decide)
  | unavailable unmeasured =>
    refine ⟨⟨fun _ path fails => absurd fails (unmeasured path), fun _ => rfl⟩, fun path fails => ?_⟩
    exact absurd fails (unmeasured path)
  | stray strays => exact absurd own (strays.allowed (foreign _))
  | unprepared unmet =>
    have refusal : "ValueError" ≠ "ImageUnavailableError" := by decide
    have dependency : "DependencyError" ≠ "ImageUnavailableError" := by decide
    have raises : RaisesOnly (fun failure => failure.kind ≠ "ImageUnavailableError")
        (installation.require "image probe" probeRequirements) :=
      require_raises_only (fun _ => refusal) (fun _ _ _ _ _ => dependency) installation _ _
    exact absurd own (raises _ unmet)
  | unmeasured fails =>
    have only : ∀ path, FailsToMeasure files base url width height path → named = path := fun path other =>
      Except.ok.inj (fails.resolved.symm.trans other.resolved)
    exact ⟨⟨fun same path other => (only path other).symm.trans same, fun all => all named fails⟩, only⟩

theorem load_unavailable_brittle :
    Files.brittle.RaisesOnly (fun failure => failure.kind ≠ "ImageUnavailableError") ∧
      ((load .brittle Installation.measuring none "./b.png" "" none none none).after []).outcome =
        .error (.imageUnavailable "./b.png" (some "path cannot be checked") (some "PermissionError")) ∧
      (∀ path, FailsToMeasure .brittle none "./b.png" none none path → path = "./b.png") ∧
      ((load .brittle Installation.measuring none "./a.png" "" none none none).after []).outcome =
        .error (.imageUnavailable "/docs/a.png" (some "file not readable") (some "OSError")) ∧
      ∀ path, FailsToMeasure .brittle none "./a.png" none none path → "/docs/a.png" = path := by
  have foreign : Files.brittle.RaisesOnly fun failure => failure.kind ≠ "ImageUnavailableError" := by
    refine Files.forall_entry ?_ (List.forall_mem_cons.mpr ⟨?_, List.forall_mem_singleton.mpr ?_⟩)
    · exact ⟨raises_only_ok _, raises_only_ok _, raises_only_ok _, raises_only_error (by decide)⟩
    · exact ⟨raises_only_ok _, raises_only_ok _, raises_only_ok _, raises_only_error (by decide)⟩
    · exact ⟨raises_only_error (by decide), raises_only_ok _, raises_only_ok _,
        raises_only_error (by decide)⟩
  have unchecked : ((load .brittle Installation.measuring none "./b.png" "" none none none).after
      []).outcome = .error
        (.imageUnavailable "./b.png" (some "path cannot be checked") (some "PermissionError")) := rfl
  have unopened : ((load .brittle Installation.measuring none "./a.png" "" none none none).after
      []).outcome = .error
        (.imageUnavailable "/docs/a.png" (some "file not readable") (some "OSError")) := by
    simp only [load, dimensions, probe, Installation.measuring_meets]
    rfl
  exact ⟨foreign, unchecked, (load_unavailable_iff foreign unchecked).1.mp rfl, unopened,
    (load_unavailable_iff foreign unopened).2⟩

theorem load_renames_unopened :
    ((load .brittle Installation.measuring none "a.png" "" none none none).after []).outcome =
        .error (.imageUnavailable "/docs/a.png" (some "file not readable") (some "OSError")) ∧
      "/docs/a.png" ≠ "a.png" := by
  refine ⟨?_, by decide⟩
  simp only [load, dimensions, probe, Installation.measuring_meets]
  rfl

end Picture
end MarkdownView

import MarkdownView.Picture
import MarkdownView.Proofs.Failures
set_option autoImplicit false

namespace MarkdownView

open Traced (IsRemark)

variable {α : Type} {allowed : Failure → Prop}

structure Entry.RaisesOnly (allowed : Failure → Prop) (entry : Entry) : Prop where
  isPresent : MarkdownView.RaisesOnly allowed entry.isPresent
  isFile : MarkdownView.RaisesOnly allowed entry.isFile
  isReadable : MarkdownView.RaisesOnly allowed entry.isReadable
  size : MarkdownView.RaisesOnly allowed entry.size

def Files.RaisesOnly (allowed : Failure → Prop) (files : Files) : Prop :=
  ∀ path, (files.entry path).RaisesOnly allowed

namespace Url

theorem check_brackets_raises_only (refusals : ∀ refusal, allowed (.refused refusal))
    (host : List Char) : RaisesOnly allowed (Host.checkBrackets host) := by
  rw [Host.checkBrackets]
  split
  · exact raises_only_error (refusals _)
  · split
    · refine raises_only_bind ?_ fun address => ?_
      · simp only [Host.addressOf]
        split
        · split
          · exact raises_only_ok _
          · exact raises_only_error (refusals _)
        · split
          · exact raises_only_error (refusals _)
          · exact raises_only_ok _
      · rw [Host.checkAddress]
        split
        · split
          · exact raises_only_ok _
          · exact raises_only_error (refusals _)
        · split
          · exact raises_only_error (refusals _)
          · split
            · exact raises_only_ok _
            · exact raises_only_error (refusals _)
    · exact raises_only_ok _

theorem split_raises_only (refusals : ∀ refusal, allowed (.refused refusal)) (url : String) :
    RaisesOnly allowed (split url) := by
  refine raises_only_bind ?_ fun _ => raises_only_ok _
  rw [splitHost.eq_def]
  split
  · refine raises_only_bind ?_ fun _ => raises_only_ok _
    refine raises_only_bind (check_brackets_raises_only refusals _) fun _ => ?_
    split
    · exact raises_only_error (refusals _)
    · exact raises_only_ok _
  · exact raises_only_ok _

end Url

theorem require_raises_only (refusals : ∀ refusal, allowed (.refused refusal))
    (dependencies : ∀ component missing mismatched wording cause,
      allowed (.dependency component missing mismatched wording cause))
    (installation : Installation) (component : String) (requirements : List Requirement) :
    RaisesOnly allowed (installation.require component requirements) := by
  have mismatchRaises (requirement : Requirement) :
      RaisesOnly allowed (installation.mismatch requirement) := by
    rw [Installation.mismatch]
    split
    · exact raises_only_ok _
    · refine raises_only_bind ?_ fun _ => raises_only_ok _
      rw [Installation.check]
      split
      · exact raises_only_ok _
      · split
        · exact raises_only_ok _
        · split
          · exact raises_only_ok _
          · exact raises_only_ok _
          · exact raises_only_error (refusals _)
  have shortfallRaises : RaisesOnly allowed (installation.shortfall requirements) := by
    induction requirements with
    | nil => exact raises_only_ok _
    | cons requirement requirements ih =>
      rw [Installation.shortfall]
      split
      · exact raises_only_bind ih fun _ => raises_only_ok _
      · exact raises_only_bind (mismatchRaises requirement) fun _ =>
          raises_only_bind ih fun _ => raises_only_ok _
  refine raises_only_bind shortfallRaises fun shortfall => ?_
  split
  · exact raises_only_ok _
  · exact raises_only_error (dependencies _ _ _ _ _)

namespace Picture

theorem probe_emits (files : Files) (installation : Installation) (path : String) :
    (probe files installation path).Emits fun _ => IsRemark := by
  refine Traced.emits_bind (Traced.emits_of_except _) fun _ => ?_
  split
  · exact Traced.emits_pure _
  · split
    · exact Traced.emits_bind (Traced.note_emits (fun _ _ => id) rfl) fun _ => Traced.emits_pure _
    · split
      · exact Traced.emits_fail _
      · exact Traced.emits_fail _

theorem dimensions_emits (files : Files) (installation : Installation) (path : String)
    (width height : Option Int) :
    (dimensions files installation path width height).Emits fun _ => IsRemark := by
  rw [dimensions]
  split
  · exact Traced.emits_pure _
  · exact Traced.emits_bind (probe_emits files installation path) fun _ => Traced.emits_pure _

theorem load_emits (files : Files) (installation : Installation) (base : Option Path)
    (url alt : String) (title : Option String) (width height : Option Int) :
    (load files installation base url alt title width height).Emits fun _ => IsRemark := by
  refine Traced.emits_bind (Traced.emits_of_except _) fun path => ?_
  refine Traced.emits_bind (Traced.note_emits (fun _ _ => id) rfl) fun _ => ?_
  refine Traced.emits_bind (Traced.emits_of_except _) fun _ => ?_
  exact Traced.emits_bind (dimensions_emits files installation path width height) fun _ =>
    Traced.emits_pure _

end Picture

inductive Entry.Measures (entry : Entry) : Option Int → Option Int → Prop where
  | known {width height : Int} (sized : entry.size = .ok (width, height)) :
      Measures entry (some width) (some height)
  | unidentified {failure : Failure} (unsized : entry.size = .error failure)
      (unidentified : failure.isA .unidentifiedImage = true) : Measures entry none none

namespace Picture

-- A picture for a reference: its path is that of the reference and names a readable file, and what the
-- reference states of it is kept. A side that is not stated is the measured one.
structure Verifies (files : Files) (base : Option Path) (url alt : String) (title : Option String)
    (width height : Option Int) (picture : Picture) : Prop where
  resolved : resolvePath files url base = .ok picture.path
  isFile : (files.entry picture.path).isFile = .ok true
  isReadable : (files.entry picture.path).isReadable = .ok true
  alt : picture.alt = alt
  title : picture.title = title
  widthKept : ∀ stated ∈ width, picture.width = some stated
  heightKept : ∀ stated ∈ height, picture.height = some stated
  measured : width = none ∨ height = none →
    ∃ measuredWidth measuredHeight,
      (files.entry picture.path).Measures measuredWidth measuredHeight ∧
      (width = none → picture.width = measuredWidth) ∧
      (height = none → picture.height = measuredHeight)

theorem guarded_eq_ok_iff {url reason : String} {answer : Except Failure α} {value : α} :
    guarded url reason answer = .ok value ↔ answer = .ok value := by
  cases answer with
  | ok found => rfl
  | error failure =>
    rw [guarded]
    split <;> simp

theorem check_readable_eq_ok {files : Files} {url path : String} {checked : Unit}
    (passed : checkReadable files url path = .ok checked) :
    (files.entry path).isFile = .ok true ∧ (files.entry path).isReadable = .ok true := by
  simp only [checkReadable, bind_eq_ok_iff, guarded_eq_ok_iff] at passed
  obtain ⟨isFile, fileAnswered, passed⟩ := passed
  cases isFile with
  | false => simp [unavailable] at passed
  | true =>
    simp only [Bool.not_true, Bool.false_eq_true, if_false, bind_eq_ok_iff, guarded_eq_ok_iff] at passed
    obtain ⟨isReadable, readableAnswered, passed⟩ := passed
    cases isReadable with
    | false => simp [unavailable] at passed
    | true => exact ⟨fileAnswered, readableAnswered⟩

theorem probe_measures {files : Files} {installation : Installation} {path : String}
    {width height : Option Int} {past events : List Event}
    (yields : (probe files installation path).Yields past (width, height) events) :
    (files.entry path).Measures width height := by
  simp only [probe, Traced.yields_bind_iff] at yields
  obtain ⟨_, _, _, _, yields, _⟩ := yields
  cases answered : (files.entry path).size with
  | ok size =>
    simp only [answered, Traced.yields_pure_iff, Prod.mk.injEq] at yields
    obtain ⟨⟨rfl, rfl⟩, _⟩ := yields
    exact .known answered
  | error failure =>
    by_cases unidentified : failure.isA .unidentifiedImage = true
    · simp only [answered, if_pos unidentified, Traced.yields_bind_iff, Traced.yields_pure_iff,
        Prod.mk.injEq] at yields
      obtain ⟨_, _, _, _, ⟨⟨rfl, rfl⟩, _⟩, _⟩ := yields
      exact .unidentified answered unidentified
    · simp only [answered, if_neg unidentified] at yields
      by_cases trouble : failure.isFileTrouble = true
      · simp [trouble] at yields
      · simp [trouble] at yields

theorem load_verifies {files : Files} {installation : Installation} {base : Option Path}
    {url alt : String} {title : Option String} {width height : Option Int} {picture : Picture}
    {past events : List Event}
    (yields : (load files installation base url alt title width height).Yields past picture events) :
    Verifies files base url alt title width height picture := by
  simp only [load, Traced.yields_bind_iff, Traced.yields_of_except_iff, Traced.yields_pure_iff] at yields
  obtain ⟨path, _, _, ⟨resolved, _⟩, ⟨_, _, _, _, ⟨_, _, _, ⟨readable, _⟩, ⟨size, _, _, sized, ⟨rfl, _⟩,
    _⟩, _⟩, _⟩, _⟩ := yields
  obtain ⟨isFile, isReadable⟩ := check_readable_eq_ok readable
  by_cases stated : (width.isSome && height.isSome) = true
  · -- Both sides are stated, so nothing is measured.
    simp only [dimensions, if_pos stated, Traced.yields_pure_iff] at sized
    obtain ⟨rfl, _⟩ := sized
    refine ⟨resolved, isFile, isReadable, rfl, rfl, fun _ => id, fun _ => id, ?_⟩
    rintro (rfl | rfl) <;> simp at stated
  · simp only [dimensions, if_neg stated, Traced.yields_bind_iff, Traced.yields_pure_iff] at sized
    obtain ⟨measured, _, _, probed, ⟨rfl, _⟩, _⟩ := sized
    refine ⟨resolved, isFile, isReadable, rfl, rfl, ?_, ?_, fun _ =>
      ⟨measured.1, measured.2, probe_measures probed, ?_, ?_⟩⟩
    · rintro _ ⟨⟩
      rfl
    · rintro _ ⟨⟩
      rfl
    · rintro rfl
      rfl
    · rintro rfl
      rfl

end Picture
end MarkdownView

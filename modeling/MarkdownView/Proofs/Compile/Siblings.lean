import MarkdownView.Proofs.Census
import MarkdownView.Proofs.Compile.Alike
import MarkdownView.Proofs.Compile.Derivation
set_option autoImplicit false

namespace MarkdownView

def Compiled.append (first second : Compiled) : Compiled :=
  ⟨⟨first.tree.children ++ second.tree.children⟩, addCounts first.diagnostics second.diagnostics,
    first.warnings ++ second.warnings⟩

theorem diagnostics_append (events later : List Event) :
    Event.diagnostics (events ++ later) =
      addCounts (Event.diagnostics events) (Event.diagnostics later) := by
  simp only [Event.diagnostics, Event.unmodelled_kinds_append, Event.tally_eq_census, census_append]

def followedBy (first second : Traced Tree) : Traced Tree := do
  let first ← first
  let second ← second
  pure ⟨first.children ++ second.children⟩

namespace Walk

open Traced (bind_bind bind_pure_self pure_bind_value)

theorem blocks_append (walk : Walk) (quotes lists : Int) (nodes others : List Node) :
    walk.blocks quotes lists (nodes ++ others) =
      walk.blocks quotes lists nodes >>= fun first =>
        walk.blocks quotes lists others >>= fun second => pure (first ++ second) := by
  induction nodes with
  | nil =>
    have nothing : walk.blocks quotes lists [] = pure [] := rfl
    rw [nothing, pure_bind_value]
    exact (bind_pure_self _).symm
  | cons node nodes ih =>
    simp only [List.cons_append, blocks, ih, bind_bind, pure_bind_value, List.append_assoc]

theorem tree_append (walk : Walk) (nodes others : List Node) :
    walk.tree (nodes ++ others) = followedBy (walk.tree nodes) (walk.tree others) := by
  simp only [tree_eq, followedBy, blocks_append, bind_bind, pure_bind_value]

end Walk

theorem of_walk_outcome {first second : Traced Tree} {past other : List Event}
    (sameOutcome : (first.after past).outcome = (second.after other).outcome)
    (sameReports : Event.reports (first.after past).events = Event.reports (second.after other).events) :
    ((Compiled.ofWalk first).after past).outcome = ((Compiled.ofWalk second).after other).outcome := by
  rcases Traced.yields_or_fails second other with ⟨tree, events, yields⟩ | ⟨failure, events, fails⟩
  · have secondEnded := yields
    rw [Traced.Yields] at secondEnded
    rw [secondEnded] at sameOutcome sameReports
    have firstYields := Traced.yields_of_outcome sameOutcome
    rw [of_walk_of_yields firstYields, of_walk_of_yields yields,
      Event.diagnostics_eq_of_reports sameReports, Event.warnings_eq_of_reports sameReports]
  · have secondEnded := fails
    rw [Traced.Fails] at secondEnded
    rw [secondEnded] at sameOutcome
    have firstFails : first.Fails past failure (first.after past).events := by
      rw [Traced.Fails]
      exact congrArg (Ending.mk · _) sameOutcome
    rw [of_walk_of_fails firstFails, of_walk_of_fails fails]

theorem of_walk_alike {first second : Traced Tree} (alike : first.Alike second)
    (past other : List Event) :
    ((Compiled.ofWalk first).after past).outcome = ((Compiled.ofWalk second).after other).outcome :=
  of_walk_outcome (alike past other).1 (alike past other).2

theorem compile_alike {first second : Walk} (alike : first.Alike second) (document : Option Node)
    (past other : List Event) :
    ((compile first document).after past).outcome = ((compile second document).after other).outcome := by
  cases document with
  | none => rfl
  | some node =>
    cases node with
    | document children metadata => exact of_walk_alike (Walk.tree_alike alike children) past other
    | _ => rfl

theorem followed_by_yields {first second : Traced Tree} {past events later : List Event}
    {tree other : Tree} (firstYields : first.Yields past tree events)
    (secondYields : second.Yields (events.reverseAux past) other later) :
    (followedBy first second).Yields past ⟨tree.children ++ other.children⟩ (events ++ later) := by
  have restYields : (second >>= fun second => pure (⟨tree.children ++ second.children⟩ : Tree)).Yields
      (events.reverseAux past) ⟨tree.children ++ other.children⟩ later := by
    refine Traced.yields_bind_iff.mpr ⟨other, later, [], secondYields, ?_, (List.append_nil _).symm⟩
    exact Traced.yields_pure_iff.mpr ⟨rfl, rfl⟩
  exact Traced.yields_bind_iff.mpr ⟨tree, events, later, firstYields, restYields, rfl⟩

theorem followed_by_fails {first second : Traced Tree} {past events later : List Event}
    {tree : Tree} {failure : Failure} (firstYields : first.Yields past tree events)
    (secondFails : second.Fails (events.reverseAux past) failure later) :
    (followedBy first second).Fails past failure (events ++ later) := by
  rw [followedBy, Traced.Fails, Traced.after_bind_of_yields firstYields,
    Traced.after_bind_of_fails secondFails]

theorem of_walk_followed_by (first : Traced Tree) {second : Traced Tree} (steady : second.Alike second)
    (past : List Event) :
    ((Compiled.ofWalk (followedBy first second)).after past).outcome =
      (((Compiled.ofWalk first).after past).outcome >>= fun compiled =>
        ((Compiled.ofWalk second).after past).outcome >>= fun other => .ok (compiled.append other)) := by
  rcases Traced.yields_or_fails first past with ⟨tree, events, yields⟩ | ⟨failure, events, fails⟩
  · -- The second meets the events of the first, but comes to the same as on its own.
    rw [of_walk_of_yields yields, of_walk_alike steady past (events.reverseAux past)]
    rcases Traced.yields_or_fails second (events.reverseAux past) with
      ⟨other, later, secondYields⟩ | ⟨failure, later, secondFails⟩
    · rw [of_walk_of_yields (followed_by_yields yields secondYields), of_walk_of_yields secondYields,
        diagnostics_append, Event.warnings_append]
      rfl
    · rw [of_walk_of_fails (followed_by_fails yields secondFails), of_walk_of_fails secondFails]
      rfl
  · have bothFail : (followedBy first second).Fails past failure events :=
      Traced.after_bind_of_fails fails _
    rw [of_walk_of_fails fails, of_walk_of_fails bothFail]
    rfl

-- With a highlighter that is a function of source and language, the first half decides first, and two
-- halves that go well make one result.
theorem compile_append {walk : Walk} (highlighterPure : walk.highlighter.IsPure)
    (nodes others : List Node) (metadata : Metadata) (past : List Event) :
    ((compile walk (some (.document (nodes ++ others) metadata))).after past).outcome =
      (((compile walk (some (.document nodes metadata))).after past).outcome >>= fun first =>
        ((compile walk (some (.document others metadata))).after past).outcome >>= fun second =>
          .ok (first.append second)) := by
  have othersSteady := Walk.tree_alike (Walk.alike_self highlighterPure) others
  simp only [compile, Walk.tree_append]
  exact of_walk_followed_by (walk.tree nodes) othersSteady past

theorem compile_append_quotes :
    Walk.bare.highlighter.IsPure ∧
      ((compile Walk.bare (some (.document ([.quote [.mathBlock "x" []] []] ++
        [.htmlBlock "h" [], .document [.quote [.mathBlock "y" []] []] []]) []))).after []).outcome =
          .ok ⟨⟨[.quote 1 [.inline (.placeholder "math")], .inline (.placeholder "html"),
            .tree [.quote 1 [.inline (.placeholder "math")]]]⟩, [("math", 2), ("html", 1)], []⟩ ∧
      ((compile Walk.bare (some (.document ([.quote [.mathBlock "x" []] []] ++
        [.text "t" [], .row [] false []]) []))).after []).outcome =
          .error (.contract "text" "block content") := by
  have highlighterPure : Walk.bare.highlighter.IsPure := fun _ _ _ _ => rfl
  exact ⟨highlighterPure, compile_append highlighterPure _ _ [] [],
    compile_append highlighterPure _ _ [] []⟩

end MarkdownView

import MarkdownView.Proofs.Trace
set_option autoImplicit false

namespace MarkdownView

variable {α β : Type} {allowed : Failure → Prop}

def RaisesOnly (allowed : Failure → Prop) (outcome : Except Failure α) : Prop :=
  ∀ failure, outcome = .error failure → allowed failure

theorem raises_only_ok (value : α) : RaisesOnly allowed (.ok value : Except Failure α) :=
  fun _ failed => nomatch failed

theorem raises_only_error {failure : Failure} (holds : allowed failure) :
    RaisesOnly allowed (.error failure : Except Failure α) := by
  rintro _ ⟨⟩
  exact holds

theorem raises_only_bind {first : Except Failure α} {next : α → Except Failure β}
    (firstRaises : RaisesOnly allowed first) (nextRaises : ∀ value, RaisesOnly allowed (next value)) :
    RaisesOnly allowed (first >>= next) := by
  intro failure failed
  cases first with
  | error other =>
    have same : other = failure := Except.error.inj failed
    exact firstRaises failure (congrArg _ same)
  | ok value => exact nextRaises value failure failed

namespace Traced

def RaisesOnly (allowed : Failure → Prop) (traced : Traced α) : Prop :=
  ∀ past, MarkdownView.RaisesOnly allowed (traced.after past).outcome

theorem raises_only_pure (value : α) : (pure value : Traced α).RaisesOnly allowed :=
  fun _ => raises_only_ok value

theorem raises_only_of_except {outcome : Except Failure α}
    (raises : MarkdownView.RaisesOnly allowed outcome) : (ofExcept outcome).RaisesOnly allowed :=
  fun _ => raises

theorem raises_only_fail {failure : Failure} (holds : allowed failure) :
    (fail failure : Traced α).RaisesOnly allowed :=
  fun _ => raises_only_error holds

theorem raises_only_emit (event : Event) : (emit event).RaisesOnly allowed :=
  fun _ => raises_only_ok _

theorem raises_only_note (level : Level) (message : String) : (note level message).RaisesOnly allowed :=
  raises_only_emit _

theorem raises_only_resume {first : Traced α} {next : Except Failure α → Traced β}
    (nextRaises : ∀ past, (next (first.after past).outcome).RaisesOnly allowed) :
    (first.resume next).RaisesOnly allowed :=
  fun past => nextRaises past _

theorem raises_only_bind_of_yields {first : Traced α} {next : α → Traced β}
    (firstRaises : first.RaisesOnly allowed)
    (nextRaises : ∀ past value events, first.Yields past value events →
      (next value).RaisesOnly allowed) : (first >>= next).RaisesOnly allowed := by
  change (first.andThen next).RaisesOnly allowed
  refine raises_only_resume fun past => ?_
  cases ended : (first.after past).outcome with
  | error failure => exact raises_only_fail (firstRaises past failure ended)
  | ok value => exact nextRaises past value _ (yields_of_outcome ended)

theorem raises_only_bind {first : Traced α} {next : α → Traced β}
    (firstRaises : first.RaisesOnly allowed) (nextRaises : ∀ value, (next value).RaisesOnly allowed) :
    (first >>= next).RaisesOnly allowed :=
  raises_only_bind_of_yields firstRaises fun _ value _ _ => nextRaises value

theorem raises_only_bind_ok {value : α} {outcome : Except Failure α} {next : α → Traced β}
    (succeeds : outcome = .ok value) (nextRaises : (next value).RaisesOnly allowed) :
    (ofExcept outcome >>= next).RaisesOnly allowed := by
  subst succeeds
  refine raises_only_bind_of_yields (raises_only_of_except (raises_only_ok value)) ?_
  intro past other events yields
  obtain ⟨same, _⟩ := yields_of_except_iff.mp yields
  rwa [← Except.ok.inj same]

theorem raises_only_map_failure {changed : Failure → Prop} {change : Failure → Failure} {traced : Traced α}
    (changes : ∀ failure, allowed failure → changed (change failure))
    (raises : traced.RaisesOnly allowed) : (traced.mapFailure change).RaisesOnly changed := by
  intro past failure failed
  have before := raises past
  cases ended : (traced.after past).outcome with
  | error other =>
    simp only [mapFailure, ended] at failed
    have same : change other = failure := Except.error.inj failed
    rw [← same]
    exact changes other (before other ended)
  | ok value =>
    simp only [mapFailure, ended] at failed
    have impossible : (Except.ok value : Except Failure α) = .error failure := failed
    simp at impossible

end Traced

end MarkdownView

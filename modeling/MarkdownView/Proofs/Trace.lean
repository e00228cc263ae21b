import MarkdownView.Trace
set_option autoImplicit false

namespace MarkdownView

def LogLine.warnsOfTheme (line : LogLine) : Bool :=
  line.level = .warning && "Unknown highlight theme".toList.isPrefixOf line.message.toList

def BeginsWith (first : Char) (message : String) : Prop := message.toList.head? = some first

theorem BeginsWith.append {first : Char} {front : String} (begins : BeginsWith first front)
    (rest : String) : BeginsWith first (front ++ rest) := by
  rw [BeginsWith] at begins
  rw [BeginsWith, String.toList_append, List.head?_append, begins, Option.some_or]

theorem LogLine.warns_of_theme_of_first {level : Level} {message : String} {first : Char}
    (begins : BeginsWith first message) (other : 'U' ≠ first) :
    (LogLine.mk level message).warnsOfTheme = false := by
  have unknown : "Unknown highlight theme".toList = 'U' :: "nknown highlight theme".toList := rfl
  rw [warnsOfTheme, unknown]
  cases letters : message.toList with
  | nil =>
    rw [BeginsWith, letters] at begins
    cases begins
  | cons letter rest =>
    rw [BeginsWith, letters] at begins
    cases begins
    rw [List.isPrefixOf_cons_cons, beq_eq_false_iff_ne.mpr other, Bool.false_and, Bool.and_false]

theorem bind_eq_ok_iff {α β : Type} {first : Except Failure α} {next : α → Except Failure β}
    {result : β} :
    (first >>= next) = .ok result ↔ ∃ value, first = .ok value ∧ next value = .ok result := by
  cases first <;> simp [bind, Except.bind]

namespace Traced

variable {α β : Type}

-- After `past` the computation comes to a value, with `events` on the way.
def Yields (traced : Traced α) (past : List Event) (value : α) (events : List Event) : Prop :=
  traced.after past = ⟨.ok value, events⟩

def Fails (traced : Traced α) (past : List Event) (failure : Failure) (events : List Event) : Prop :=
  traced.after past = ⟨.error failure, events⟩

theorem ext_after {first second : Traced α} (same : ∀ past, first.after past = second.after past) :
    first = second :=
  congrArg Traced.mk (funext same)

theorem yields_of_outcome {traced : Traced α} {past : List Event} {value : α}
    (returned : (traced.after past).outcome = .ok value) :
    traced.Yields past value (traced.after past).events := by
  rw [Yields, ← returned]

theorem yields_or_fails (traced : Traced α) (past : List Event) :
    (∃ value events, traced.Yields past value events) ∨
      ∃ failure events, traced.Fails past failure events := by
  rcases h : traced.after past with ⟨outcome, events⟩
  cases outcome with
  | error failure => exact .inr ⟨failure, events, h⟩
  | ok value => exact .inl ⟨value, events, h⟩

@[simp] theorem after_pure (value : α) (past : List Event) :
    (pure value : Traced α).after past = ⟨.ok value, []⟩ := rfl

theorem after_resume (first : Traced α) (next : Except Failure α → Traced β) (past : List Event) :
    (first.resume next).after past =
      let start := first.after past
      let rest := (next start.outcome).after (start.events.reverseAux past)
      ⟨rest.outcome, start.events ++ rest.events⟩ := rfl

theorem yields_resume_iff {first : Traced α} {next : Except Failure α → Traced β}
    {past : List Event} {result : β} {events : List Event} :
    (first.resume next).Yields past result events ↔
      ∃ outcome before after, first.after past = ⟨outcome, before⟩ ∧
        (next outcome).Yields (before.reverseAux past) result after ∧ events = before ++ after := by
  rcases ended : first.after past with ⟨outcome, before⟩
  simp only [Yields, after_resume, ended]
  constructor
  · intro yields
    have parts := Ending.mk.inj yields
    refine ⟨outcome, before, _, rfl, ?_, parts.2.symm⟩
    rw [← parts.1]
  · rintro ⟨_, _, after, ⟨⟩, nextYields, rfl⟩
    rw [nextYields]

theorem after_bind_of_yields {first : Traced α} {past : List Event} {value : α} {events : List Event}
    (yields : first.Yields past value events) (next : α → Traced β) :
    (first >>= next).after past =
      ⟨((next value).after (events.reverseAux past)).outcome,
        events ++ ((next value).after (events.reverseAux past)).events⟩ := by
  change (first.andThen next).after past = _
  rw [andThen, after_resume, yields]

theorem after_bind_of_fails {first : Traced α} {past : List Event} {failure : Failure}
    {events : List Event} (fails : first.Fails past failure events) (next : α → Traced β) :
    (first >>= next).after past = ⟨.error failure, events⟩ := by
  change (first.andThen next).after past = _
  rw [andThen, after_resume, fails]
  simp [fail, steady]

@[simp] theorem yields_fail_iff {failure : Failure} {result : α} {past events : List Event} :
    (fail failure : Traced α).Yields past result events ↔ False := by
  simp [Yields, fail, steady]

theorem yields_bind_iff {first : Traced α} {next : α → Traced β} {past : List Event} {result : β}
    {events : List Event} :
    (first >>= next).Yields past result events ↔
      ∃ value before after, first.Yields past value before ∧
        (next value).Yields (before.reverseAux past) result after ∧ events = before ++ after := by
  change (first.andThen next).Yields past result events ↔ _
  rw [andThen, yields_resume_iff]
  constructor
  · rintro ⟨outcome, before, after, ended, restYields, rfl⟩
    cases outcome with
    | error failure => simp at restYields
    | ok value => exact ⟨value, before, after, ended, restYields, rfl⟩
  · rintro ⟨value, before, after, firstYields, nextYields, rfl⟩
    exact ⟨.ok value, before, after, firstYields, nextYields, rfl⟩

@[simp] theorem yields_pure_iff {value result : α} {past events : List Event} :
    (pure value : Traced α).Yields past result events ↔ result = value ∧ events = [] := by
  change (⟨.ok value, []⟩ : Ending α) = ⟨.ok result, events⟩ ↔ _
  simp [eq_comm]

@[simp] theorem yields_of_except_iff {outcome : Except Failure α} {result : α}
    {past events : List Event} :
    (ofExcept outcome).Yields past result events ↔ outcome = .ok result ∧ events = [] := by
  simp [Yields, ofExcept, steady, eq_comm]

@[simp] theorem yields_emit_iff {event : Event} {result : Unit} {past events : List Event} :
    (emit event).Yields past result events ↔ events = [event] := by
  simp [Yields, emit, steady, eq_comm]

@[simp] theorem yields_note_iff {level : Level} {message : String} {result : Unit}
    {past events : List Event} :
    (note level message).Yields past result events ↔ events = [.note level message] :=
  yields_emit_iff

@[simp] theorem yields_map_failure_iff {change : Failure → Failure} {traced : Traced α} {result : α}
    {past events : List Event} :
    (traced.mapFailure change).Yields past result events ↔ traced.Yields past result events := by
  rcases ended : traced.after past with ⟨outcome, happened⟩
  simp only [Yields, mapFailure, ended]
  cases outcome with
  | error failure => exact ⟨nofun, nofun⟩
  | ok value => exact Iff.rfl

@[simp] theorem fails_of_except_iff {outcome : Except Failure α} {failure : Failure}
    {past events : List Event} :
    (ofExcept outcome).Fails past failure events ↔ outcome = .error failure ∧ events = [] := by
  simp [Fails, ofExcept, steady, eq_comm]

theorem bind_pure_self (traced : Traced α) : traced >>= pure = traced := by
  apply ext_after
  intro past
  rcases yields_or_fails traced past with ⟨value, events, yields⟩ | ⟨failure, events, fails⟩
  · rw [after_bind_of_yields yields, after_pure, List.append_nil]
    exact yields.symm
  · rw [after_bind_of_fails fails]
    exact fails.symm

theorem pure_bind_value (value : α) (next : α → Traced β) : pure value >>= next = next value := by
  apply ext_after
  intro past
  have yields : (pure value : Traced α).Yields past value [] := rfl
  rw [after_bind_of_yields yields, List.nil_append]
  rfl

theorem fail_bind (failure : Failure) (next : α → Traced β) : fail failure >>= next = fail failure := by
  apply ext_after
  intro past
  have fails : (fail failure : Traced α).Fails past failure [] := rfl
  exact after_bind_of_fails fails next

theorem events_bind_pure (traced : Traced α) (change : α → β) (past : List Event) :
    ((traced >>= fun value => pure (change value)).after past).events = (traced.after past).events := by
  rcases yields_or_fails traced past with ⟨value, events, yields⟩ | ⟨failure, events, fails⟩
  · rw [after_bind_of_yields yields, after_pure, List.append_nil, yields]
  · rw [after_bind_of_fails fails, fails]

theorem bind_bind {γ : Type} (traced : Traced α) (next : α → Traced β) (last : β → Traced γ) :
    traced >>= next >>= last = traced >>= fun value => next value >>= last := by
  apply ext_after
  intro past
  rcases yields_or_fails traced past with ⟨value, events, yields⟩ | ⟨failure, events, fails⟩
  · rw [after_bind_of_yields yields]
    rcases yields_or_fails (next value) (events.reverseAux past) with
      ⟨result, later, nextYields⟩ | ⟨failure, later, nextFails⟩
    · have both : (traced >>= next).Yields past result (events ++ later) :=
        yields_bind_iff.mpr ⟨value, events, later, yields, nextYields, rfl⟩
      have flat : (events ++ later).reverseAux past = later.reverseAux (events.reverseAux past) := by
        simp [List.reverseAux_eq]
      rw [after_bind_of_yields both, after_bind_of_yields nextYields, flat, List.append_assoc]
    · have both : (traced >>= next).Fails past failure (events ++ later) := by
        rw [Fails, after_bind_of_yields yields, nextFails]
      rw [after_bind_of_fails both, after_bind_of_fails nextFails]
  · rw [after_bind_of_fails fails, after_bind_of_fails (after_bind_of_fails fails next)]

theorem resume_resume {γ : Type} (traced : Traced α) (next : Except Failure α → Traced β)
    (last : Except Failure β → Traced γ) :
    (traced.resume next).resume last = traced.resume fun outcome => (next outcome).resume last := by
  apply ext_after
  intro past
  simp [after_resume, List.reverseAux_eq]

theorem resume_congr {traced : Traced α} {next other : Except Failure α → Traced β}
    (failing : ∀ failure, next (.error failure) = other (.error failure))
    (going : ∀ value, next (.ok value) = other (.ok value)) : traced.resume next = traced.resume other := by
  refine congrArg (resume traced) (funext fun outcome => ?_)
  cases outcome with
  | error failure => exact failing failure
  | ok value => exact going value

theorem resume_bind {γ : Type} (traced : Traced α) (next : Except Failure α → Traced β)
    (last : β → Traced γ) :
    traced.resume next >>= last = traced.resume fun outcome => next outcome >>= last := by
  change (traced.resume next).andThen last = traced.resume fun outcome => (next outcome).andThen last
  simp only [andThen, resume_resume]

theorem bind_resume {γ : Type} (traced : Traced α) (next : α → Traced β)
    (last : Except Failure β → Traced γ) :
    (traced >>= next).resume last = traced.resume fun outcome =>
      match outcome with
      | .error failure => last (.error failure)
      | .ok value => (next value).resume last := by
  change (traced.andThen next).resume last = _
  rw [andThen, resume_resume]
  exact resume_congr (fun _ => rfl) fun _ => rfl

theorem of_except_resume (outcome : Except Failure α) (next : Except Failure α → Traced β) :
    (ofExcept outcome).resume next = next outcome := rfl

theorem map_failure_resume (traced : Traced α) (change : Failure → Failure)
    (next : Except Failure α → Traced β) :
    (traced.mapFailure change).resume next =
      traced.resume fun outcome => next (outcome.mapError change) := rfl

theorem Fails.map_failure {traced : Traced α} {past : List Event} {failure : Failure}
    {events : List Event} (fails : traced.Fails past failure events) (change : Failure → Failure) :
    (traced.mapFailure change).Fails past (change failure) events :=
  congrArg (fun ending : Ending α => (⟨ending.outcome.mapError change, ending.events⟩ : Ending α)) fails

theorem of_except_ok_bind (value : α) (next : α → Traced β) :
    ofExcept (.ok value) >>= next = next value :=
  pure_bind_value value next

instance : LawfulMonad Traced :=
  LawfulMonad.mk' Traced bind_pure_self pure_bind_value bind_bind

theorem after_map (traced : Traced α) (change : α → β) (past : List Event) :
    (change <$> traced).after past =
      ⟨(traced.after past).outcome.map change, (traced.after past).events⟩ := by
  rw [map_eq_pure_bind]
  rcases yields_or_fails traced past with ⟨value, events, yields⟩ | ⟨failure, events, fails⟩
  · rw [after_bind_of_yields yields, after_pure, List.append_nil, yields]
    rfl
  · rw [after_bind_of_fails fails, fails]
    rfl

@[simp] theorem yields_map_iff {traced : Traced α} {change : α → β} {past : List Event} {result : β}
    {events : List Event} :
    (change <$> traced).Yields past result events ↔
      ∃ value, result = change value ∧ traced.Yields past value events := by
  rcases ended : traced.after past with ⟨outcome, happened⟩
  simp only [Yields, after_map, ended]
  cases outcome with
  | error failure => simp [Except.map]
  | ok value =>
    constructor
    · rintro ⟨⟩
      exact ⟨value, rfl, rfl⟩
    · rintro ⟨_, rfl, ⟨⟩⟩
      rfl

theorem of_except_map (outcome : Except Failure α) (change : α → β) :
    ofExcept (outcome.map change) = change <$> ofExcept outcome := by
  cases outcome <;> rfl

theorem map_failure_map (traced : Traced α) (change : Failure → Failure) (result : α → β) :
    (result <$> traced).mapFailure change = result <$> traced.mapFailure change := by
  apply ext_after
  intro past
  simp only [mapFailure, after_map]
  cases (traced.after past).outcome <;> rfl

def Follow (allowed : List Event → Event → Prop) (past : List Event) : List Event → Prop
  | [] => True
  | event :: events => allowed past event ∧ Follow allowed (event :: past) events

theorem follow_append {allowed : List Event → Event → Prop} {past events later : List Event}
    (first : Follow allowed past events) (rest : Follow allowed (events.reverseAux past) later) :
    Follow allowed past (events ++ later) := by
  induction events generalizing past with
  | nil => exact rest
  | cons event events ih => exact ⟨first.1, ih first.2 rest⟩

theorem all_of_follow {allowed : Event → Prop} {past events : List Event}
    (follow : Follow (fun _ => allowed) past events) : ∀ event ∈ events, allowed event := by
  induction events generalizing past with
  | nil => exact nofun
  | cons event events ih => exact List.forall_mem_cons.mpr ⟨follow.1, ih follow.2⟩

theorem follow_of_all {allowed : List Event → Event → Prop} {past events : List Event}
    (all : ∀ past, ∀ event ∈ events, allowed past event) : Follow allowed past events := by
  induction events generalizing past with
  | nil => trivial
  | cons event events ih =>
    exact ⟨all past event List.mem_cons_self,
      ih fun past event member => all past event (List.mem_cons_of_mem _ member)⟩

section

variable {allowed : List Event → Event → Prop}

def Emits (allowed : List Event → Event → Prop) (traced : Traced α) : Prop :=
  ∀ past, Follow allowed past (traced.after past).events

theorem Emits.all {allowed : Event → Prop} {traced : Traced α} (emits : traced.Emits fun _ => allowed)
    (past : List Event) : ∀ event ∈ (traced.after past).events, allowed event :=
  all_of_follow (emits past)

theorem Emits.of_yields {allowed : Event → Prop} {traced : Traced α}
    (emits : traced.Emits fun _ => allowed) {past : List Event} {value : α} {events : List Event}
    (yields : traced.Yields past value events) : ∀ event ∈ events, allowed event := by
  have all := emits.all past
  rwa [yields] at all

theorem emits_pure (value : α) : (pure value : Traced α).Emits allowed := fun _ => trivial

theorem emits_of_except (outcome : Except Failure α) : (ofExcept outcome).Emits allowed := fun _ => trivial

theorem emits_fail (failure : Failure) : (fail failure : Traced α).Emits allowed := fun _ => trivial

theorem emits_resume {first : Traced α} {next : Except Failure α → Traced β}
    (firstEmits : first.Emits allowed) (nextEmits : ∀ outcome, (next outcome).Emits allowed) :
    (first.resume next).Emits allowed :=
  fun past => follow_append (firstEmits past) (nextEmits _ _)

theorem emits_bind {first : Traced α} {next : α → Traced β}
    (firstEmits : first.Emits allowed) (nextEmits : ∀ value, (next value).Emits allowed) :
    (first >>= next).Emits allowed := by
  change (first.andThen next).Emits allowed
  refine emits_resume firstEmits fun outcome => ?_
  cases outcome with
  | error failure => exact emits_fail failure
  | ok value => exact nextEmits value

theorem emits_emit {event : Event} (isAllowed : ∀ past, allowed past event) :
    (emit event).Emits allowed :=
  fun past => ⟨isAllowed past, trivial⟩

theorem emits_map_failure {traced : Traced α} (change : Failure → Failure)
    (emits : traced.Emits allowed) : (traced.mapFailure change).Emits allowed :=
  emits

end

def IsRemark (event : Event) : Prop :=
  ∃ level message, event = .note level message ∧
    (LogLine.mk level message).warnsOfTheme = false

theorem note_emits {allowed : List Event → Event → Prop}
    (remarks : ∀ past event, IsRemark event → allowed past event) {level : Level} {message : String} (other : (LogLine.mk level message).warnsOfTheme = false) :
    (note level message).Emits allowed :=
  emits_emit fun past => remarks past _ ⟨level, message, rfl, other⟩

end Traced
end MarkdownView

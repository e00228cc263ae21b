import Mathlib.Data.List.Induction
import MarkdownView.Trace
set_option autoImplicit false

namespace MarkdownView

-- Each kind once, in the order of first occurrence, with the number of its occurrences.
def census (kinds : List String) : List (String × Int) :=
  kinds.eraseDups.map fun kind => (kind, (kinds.count kind : Int))

theorem erase_dups_nodup (kinds : List String) : kinds.eraseDups.Nodup := by
  match kinds with
  | [] => exact List.nodup_nil
  | kind :: rest =>
    rw [List.eraseDups_cons, List.nodup_cons]
    refine ⟨fun member => ?_, erase_dups_nodup _⟩
    have other := (List.mem_filter.mp (List.mem_eraseDups.mp member)).2
    simp at other
termination_by kinds.length
decreasing_by exact Nat.lt_succ_of_le (List.length_filter_le _ rest)

theorem map_fst_census (kinds : List String) : (census kinds).map Prod.fst = kinds.eraseDups := by
  simp [census, Function.comp_def]

theorem census_positive (kinds : List String) : ∀ entry ∈ census kinds, 0 < entry.2 := by
  intro entry member
  obtain ⟨kind, kindMember, rfl⟩ := List.mem_map.mp member
  have met := List.count_pos_iff.mpr (List.mem_eraseDups.mp kindMember)
  exact Int.natCast_pos.mpr met

theorem census_eq_nil_iff {kinds : List String} : census kinds = [] ↔ kinds = [] := by
  cases kinds with
  | nil => simp [census]
  | cons kind rest => simp [census, List.eraseDups_cons]

theorem erase_dups_append_singleton (kinds : List String) (kind : String) :
    (kinds ++ [kind]).eraseDups =
      if kind ∈ kinds then kinds.eraseDups else kinds.eraseDups ++ [kind] := by
  by_cases member : kind ∈ kinds <;>
    simp [List.eraseDups_append, List.removeAll, List.eraseDups_cons, member]

def numberOf (kind : String) (counts : List (String × Int)) : Int := (counts.lookup kind).getD 0

def addCounts (first second : List (String × Int)) : List (String × Int) :=
  first.map (fun entry => (entry.1, entry.2 + numberOf entry.1 second)) ++
    second.filter fun entry => entry.1 ∉ first.map Prod.fst

theorem number_of_map (kind : String) (numbers : String → Int) (kinds : List String) :
    numberOf kind (kinds.map fun other => (other, numbers other)) =
      if kind ∈ kinds then numbers kind else 0 := by
  induction kinds with
  | nil => rfl
  | cons first rest ih =>
    by_cases same : kind = first
    · subst same
      simp [numberOf]
    · have different : (kind == first) = false := beq_false_of_ne same
      have skipped : numberOf kind ((first :: rest).map fun other => (other, numbers other)) =
          numberOf kind (rest.map fun other => (other, numbers other)) := by
        rw [numberOf, List.map_cons, List.lookup_cons, different]
        rfl
      rw [skipped, ih]
      simp [same]

theorem number_of_census (kind : String) (kinds : List String) :
    numberOf kind (census kinds) = (kinds.count kind : Int) := by
  rw [census, number_of_map]
  by_cases met : kind ∈ kinds
  · rw [if_pos (List.mem_eraseDups.mpr met)]
  · rw [if_neg (fun listed => met (List.mem_eraseDups.mp listed)), List.count_eq_zero_of_not_mem met]
    rfl

theorem erase_dups_filter (keeps : String → Bool) (kinds : List String) :
    (kinds.filter keeps).eraseDups = kinds.eraseDups.filter keeps := by
  induction kinds using List.reverseRecOn with
  | nil => rfl
  | append_singleton kinds kind ih =>
    rw [erase_dups_append_singleton, List.filter_append]
    by_cases kept : keeps kind = true
    · have last : List.filter keeps [kind] = [kind] := by simp [kept]
      rw [last, erase_dups_append_singleton, ih]
      by_cases met : kind ∈ kinds <;> simp [met, kept]
    · have last : List.filter keeps [kind] = [] := by simp [kept]
      rw [last, List.append_nil, ih]
      by_cases met : kind ∈ kinds <;> simp [met, kept]

theorem census_append (kinds others : List String) :
    census (kinds ++ others) = addCounts (census kinds) (census others) := by
  have newKinds : (others.removeAll kinds).eraseDups =
      others.eraseDups.filter fun kind => kind ∉ kinds := by
    rw [List.removeAll, erase_dups_filter]
    simp
  have metPart : (kinds.eraseDups.map fun kind => (kind, ((kinds ++ others).count kind : Int))) =
      (census kinds).map fun entry => (entry.1, entry.2 + numberOf entry.1 (census others)) := by
    simp only [number_of_census, List.count_append]
    simp [census, Function.comp_def]
  have newPart : ((others.removeAll kinds).eraseDups.map fun kind =>
      (kind, ((kinds ++ others).count kind : Int))) =
        (census others).filter fun entry => entry.1 ∉ (census kinds).map Prod.fst := by
    rw [newKinds, map_fst_census, census, List.filter_map]
    have sameTest : ((fun entry : String × Int => decide (entry.1 ∉ kinds.eraseDups)) ∘
        fun kind => (kind, (others.count kind : Int))) = fun kind => decide (kind ∉ kinds) := by
      funext kind
      simp
    rw [sameTest]
    refine List.map_congr_left fun kind member => ?_
    have unmet : kind ∉ kinds := by simpa using (List.mem_filter.mp member).2
    rw [List.count_append, List.count_eq_zero_of_not_mem unmet, Nat.zero_add]
  rw [census, List.eraseDups_append, List.map_append, metPart, newPart, addCounts]

namespace Event

theorem count_of_not_mem {kind : String} {entries : List (String × Int)}
    (absent : kind ∉ entries.map Prod.fst) : count kind entries = entries ++ [(kind, 1)] := by
  induction entries with
  | nil => rfl
  | cons entry entries ih =>
    rw [List.map_cons, List.mem_cons, not_or] at absent
    rw [count, if_neg (Ne.symm absent.1), ih absent.2, List.cons_append]

theorem count_of_mem {kind : String} {kinds : List String} (numbers : String → Int)
    (nodup : kinds.Nodup) (member : kind ∈ kinds) :
    count kind (kinds.map fun other => (other, numbers other)) =
      kinds.map fun other => (other, numbers other + if other = kind then 1 else 0) := by
  induction kinds with
  | nil => simp at member
  | cons first rest ih =>
    rw [List.nodup_cons] at nodup
    rw [List.map_cons, List.map_cons, count]
    by_cases same : first = kind
    · subst same
      have untouched : ∀ other ∈ rest, ¬ other = first := fun other otherMember equal =>
        nodup.1 (equal ▸ otherMember)
      rw [if_pos rfl, if_pos rfl]
      refine congrArg _ (List.map_congr_left fun other otherMember => ?_)
      rw [if_neg (untouched other otherMember), Int.add_zero]
    · have later : kind ∈ rest := (List.mem_cons.mp member).resolve_left (Ne.symm same)
      rw [if_neg same, if_neg same, ih nodup.2 later, Int.add_zero]

theorem count_census (kinds : List String) (kind : String) :
    count kind (census kinds) = census (kinds ++ [kind]) := by
  by_cases member : kind ∈ kinds
  -- A kind that has been met keeps its entry; a new one gets the last.
  · have listed := List.mem_eraseDups.mpr member
    rw [census, count_of_mem _ (erase_dups_nodup kinds) listed, census, erase_dups_append_singleton,
      if_pos member]
    refine List.map_congr_left fun other _ => ?_
    by_cases same : other = kind <;> simp [same, Ne.symm]
  · have unlisted : kind ∉ (census kinds).map Prod.fst := by
      rwa [map_fst_census, List.mem_eraseDups]
    rw [count_of_not_mem unlisted, census, census, erase_dups_append_singleton, if_neg member,
      List.map_append]
    congr 1
    · refine List.map_congr_left fun other otherMember => ?_
      have different : other ≠ kind := fun same =>
        member (same ▸ List.mem_eraseDups.mp otherMember)
      simp [Ne.symm different]
    · simp [List.count_eq_zero_of_not_mem member]

theorem foldl_count_census (counted kinds : List String) :
    kinds.foldl (fun counts kind => count kind counts) (census counted) =
      census (counted ++ kinds) := by
  induction kinds generalizing counted with
  | nil => rw [List.append_nil, List.foldl_nil]
  | cons kind kinds ih => rw [List.foldl_cons, count_census, ih, List.append_assoc, List.singleton_append]

theorem tally_eq_census (kinds : List String) : tally kinds = census kinds :=
  foldl_count_census [] kinds

end Event
end MarkdownView

import MarkdownView.Path
set_option autoImplicit false

namespace MarkdownView

namespace Text

theorem split_chars_of_free {mark : Char} {cs : List Char} (free : mark ∉ cs) :
    splitChars mark cs = [cs] := by
  induction cs with
  | nil => rfl
  | cons c cs ih =>
    rw [List.mem_cons, not_or] at free
    rw [splitChars, if_neg (Ne.symm free.1), ih free.2]

theorem split_chars_append {mark : Char} {front : List Char} (free : mark ∉ front) (rest : List Char) :
    splitChars mark (front ++ mark :: rest) = front :: splitChars mark rest := by
  induction front with
  | nil => rw [List.nil_append, splitChars, if_pos rfl]
  | cons c front ih =>
    rw [List.mem_cons, not_or] at free
    rw [List.cons_append, splitChars, if_neg (Ne.symm free.1), ih free.2]

theorem split_chars_intercalate {mark : Char} (part : List Char) (parts : List (List Char))
    (free : ∀ other ∈ part :: parts, mark ∉ other) :
    splitChars mark ([mark].intercalate (part :: parts)) = part :: parts := by
  induction parts generalizing part with
  | nil =>
    rw [List.intercalate_singleton]
    exact split_chars_of_free (free part List.mem_cons_self)
  | cons next parts ih =>
    obtain ⟨partFree, restFree⟩ := List.forall_mem_cons.mp free
    rw [List.intercalate_cons_cons, List.append_assoc, List.singleton_append, split_chars_append partFree,
      ih next restFree]

theorem free_of_mem_split_chars {mark : Char} {cs : List Char} :
    ∀ part ∈ splitChars mark cs, mark ∉ part := by
  induction cs with
  | nil => simp [splitChars]
  | cons c cs ih =>
    by_cases marked : c = mark
    · rw [splitChars, if_pos marked]
      exact List.forall_mem_cons.mpr ⟨by simp, ih⟩
    · rw [splitChars, if_neg marked]
      cases parts : splitChars mark cs with
      | nil => simpa using Ne.symm marked
      | cons first rest =>
        rw [parts] at ih
        obtain ⟨firstFree, restFree⟩ := List.forall_mem_cons.mp ih
        refine List.forall_mem_cons.mpr ⟨?_, restFree⟩
        rw [List.mem_cons, not_or]
        exact ⟨Ne.symm marked, firstFree⟩

end Text

namespace Path

structure IsName (part : String) : Prop where
  nonempty : part ≠ ""
  notDot : part ≠ "."
  notUp : part ≠ ".."
  whole : '/' ∉ part.toList

theorem IsName.is_named {part : String} (name : IsName part) : isNamed part.toList = true := by
  rw [Path.isNamed, Bool.and_eq_true, bne_iff_ne, bne_iff_ne]
  exact ⟨fun empty => name.nonempty (String.toList_eq_nil_iff.mp empty),
    fun dot => name.notDot (String.toList_inj.mp dot)⟩

theorem foldl_climb {parts : List String} (named : ∀ part ∈ parts, IsName part) (isAbsolute : Bool)
    (done : List String) : parts.foldl (climb isAbsolute) done = parts.reverse ++ done := by
  induction parts generalizing done with
  | nil => rfl
  | cons part parts ih =>
    obtain ⟨partNamed, restNamed⟩ := List.forall_mem_cons.mp named
    have down : climb isAbsolute done part = part :: done := if_pos partNamed.notUp
    rw [List.foldl_cons, down, ih restNamed, List.reverse_cons, List.append_assoc, List.singleton_append]

theorem normal_of_named {path : Path} (named : ∀ part ∈ path.parts, IsName part) :
    path.normal = path := by
  rw [normal, foldl_climb named, List.append_nil, List.reverse_reverse]

def IsStep (part : String) : Prop := part = ".." ∨ IsName part

theorem of_text_steps (text : String) : ∀ part ∈ (ofText text).parts, IsStep part := by
  intro part member
  obtain ⟨letters, lettersMember, rfl⟩ := List.mem_map.mp member
  obtain ⟨cut, named⟩ := List.mem_filter.mp lettersMember
  rw [isNamed, Bool.and_eq_true, bne_iff_ne, bne_iff_ne] at named
  by_cases up : String.ofList letters = ".."
  · exact .inl up
  · refine .inr ⟨?_, ?_, up, ?_⟩
    · exact fun empty => named.1 (String.ofList_injective (empty.trans String.ofList_nil.symm))
    · exact fun dot => named.2 (String.ofList_injective dot)
    · rw [String.toList_ofList]
      exact Text.free_of_mem_split_chars letters cut

theorem join_steps {base path : Path} (baseSteps : ∀ part ∈ base.parts, IsStep part)
    (pathSteps : ∀ part ∈ path.parts, IsStep part) : ∀ part ∈ (base.join path).parts, IsStep part := by
  rw [join]
  split
  · exact pathSteps
  · exact List.forall_mem_append.mpr ⟨baseSteps, pathSteps⟩

theorem root_join {base : Path} (rooted : base.root ≠ .none) (path : Path) :
    (base.join path).root ≠ .none := by
  rw [join]
  split
  · next isAbsolute => exact bne_iff_ne.mp isAbsolute
  · exact rooted

theorem climb_named {done : List String} (named : ∀ part ∈ done, IsName part) {part : String}
    (step : IsStep part) : ∀ other ∈ climb true done part, IsName other := by
  rcases step with rfl | partNamed
  · cases done with
    | nil => nofun
    | cons last rest =>
      obtain ⟨lastNamed, restNamed⟩ := List.forall_mem_cons.mp named
      have back : climb true (last :: rest) ".." = rest := if_neg lastNamed.notUp
      rwa [back]
  · have down : climb true done part = part :: done := if_pos partNamed.notUp
    rw [down]
    exact List.forall_mem_cons.mpr ⟨partNamed, named⟩

theorem foldl_climb_named {parts : List String} (steps : ∀ part ∈ parts, IsStep part) (done : List String)
    (named : ∀ part ∈ done, IsName part) : ∀ part ∈ parts.foldl (climb true) done, IsName part := by
  induction parts generalizing done with
  | nil => exact named
  | cons part parts ih =>
    obtain ⟨partStep, restSteps⟩ := List.forall_mem_cons.mp steps
    exact ih restSteps _ (climb_named named partStep)

theorem normal_named {path : Path} (rooted : path.root ≠ .none) (steps : ∀ part ∈ path.parts, IsStep part) :
    ∀ part ∈ path.normal.parts, IsName part := by
  have isAbsolute : path.isAbsolute = true := bne_iff_ne.mpr rooted
  intro part member
  rw [normal, List.mem_reverse, isAbsolute] at member
  exact foldl_climb_named steps [] nofun part member

theorem join_of_rooted {path : Path} (rooted : path.root ≠ .none) (base : Path) : base.join path = path := by
  rw [join, isAbsolute, if_pos (bne_iff_ne.mpr rooted)]

theorem text_of_rooted {path : Path} (rooted : path.root ≠ .none) :
    path.text = rootText path.root ++ String.intercalate "/" path.parts := by
  rw [text, if_neg fun bare => rooted bare.1]

def below (parts : List String) : List Char := ['/'].intercalate (parts.map String.toList)

theorem to_list_text {path : Path} (rooted : path.root ≠ .none) :
    path.text.toList = (rootText path.root).toList ++ below path.parts := by
  rw [text_of_rooted rooted, String.toList_append, String.toList_intercalate]
  rfl

theorem head?_below {parts : List String} (named : ∀ part ∈ parts, IsName part) :
    (below parts).head? ≠ some '/' := by
  cases parts with
  | nil => nofun
  | cons part parts =>
    have partNamed := named part List.mem_cons_self
    have first : (below (part :: parts)).head? = part.toList.head? := by
      obtain ⟨c, letters, spelled⟩ := List.exists_cons_of_ne_nil fun empty =>
        partNamed.nonempty (String.toList_eq_nil_iff.mp empty)
      cases parts with
      | nil => rw [below, List.map_singleton, List.intercalate_singleton]
      | cons next parts =>
        rw [below, List.map_cons, List.map_cons, List.intercalate_cons_cons, spelled]
        rfl
    rw [first]
    exact fun slash => partNamed.whole (List.mem_of_mem_head? slash)

theorem split_below {parts : List String} (named : ∀ part ∈ parts, IsName part) :
    ((Text.splitChars '/' (below parts)).filter isNamed).map String.ofList = parts := by
  cases parts with
  | nil => rfl
  | cons part parts =>
    have free : ∀ letters ∈ part.toList :: parts.map String.toList, '/' ∉ letters := by
      intro letters member
      obtain ⟨other, otherMember, rfl⟩ := List.mem_map.mp (List.map_cons ▸ member)
      exact (named other otherMember).whole
    have kept : ((part :: parts).map String.toList).filter isNamed = (part :: parts).map String.toList := by
      rw [List.filter_eq_self]
      intro letters member
      obtain ⟨other, otherMember, rfl⟩ := List.mem_map.mp member
      exact (named other otherMember).is_named
    rw [below, List.map_cons, Text.split_chars_intercalate _ _ free, ← List.map_cons, kept, List.map_map]
    exact (List.map_congr_left fun other _ => String.ofList_toList).trans (List.map_id _)

theorem root_of_single {rest : List Char} (belowRoot : rest.head? ≠ some '/') :
    rootOf ('/' :: rest) = .single := by
  rw [rootOf]
  · rintro rest rfl
    exact belowRoot rfl
  · rintro rest rfl
    exact belowRoot rfl

theorem root_of_double {rest : List Char} (belowRoot : rest.head? ≠ some '/') :
    rootOf ('/' :: '/' :: rest) = .double := by
  rw [rootOf]
  rintro rest rfl
  exact belowRoot rfl

theorem of_text_text {path : Path} (rooted : path.root ≠ .none) (named : ∀ part ∈ path.parts, IsName part) :
    ofText path.text = path := by
  obtain ⟨root, parts⟩ := path
  have partsRead := split_below named
  rw [ofText, to_list_text rooted]
  cases root with
  | none => exact absurd rfl rooted
  | single =>
    have slash : (rootText .single).toList ++ below parts = '/' :: below parts := rfl
    rw [slash, root_of_single (head?_below named), Text.splitChars, if_pos rfl]
    exact congrArg (Path.mk .single) partsRead
  | double =>
    have slashes : (rootText .double).toList ++ below parts = '/' :: '/' :: below parts := rfl
    rw [slashes, root_of_double (head?_below named), Text.splitChars, if_pos rfl, Text.splitChars, if_pos rfl]
    exact congrArg (Path.mk .double) partsRead

end Path
end MarkdownView

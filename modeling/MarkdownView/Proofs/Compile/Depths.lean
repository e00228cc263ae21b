import MarkdownView.Proofs.Compile.Caps
set_option autoImplicit false

namespace MarkdownView

structure Occurrence where
  around : List Visual
  visual : Visual

namespace Visual

def container? : Visual → Option Container
  | .quote depth _ => some ⟨.quote, depth⟩
  | .list _ _ _ depth => some ⟨.list, depth⟩
  | _ => none

def isContainer (kind : ContainerKind) (visual : Visual) : Bool :=
  visual.container?.any fun container => container.kind = kind

mutual

-- Every visual in a visual, itself included, in document order.
def occurrences (around : List Visual) : Visual → List Occurrence
  | .quote depth children =>
    ⟨around, .quote depth children⟩ :: occurrencesOf (.quote depth children :: around) children
  | .item children checked =>
    ⟨around, .item children checked⟩ :: occurrencesOf (.item children checked :: around) children
  | .list ordered items start depth =>
    ⟨around, .list ordered items start depth⟩ ::
      occurrencesOf (.list ordered items start depth :: around) items
  | .tree children => ⟨around, .tree children⟩ :: occurrencesOf (.tree children :: around) children
  | visual => [⟨around, visual⟩]
termination_by structural visual => visual

def occurrencesOf (around : List Visual) : List Visual → List Occurrence
  | [] => []
  | visual :: visuals => occurrences around visual ++ occurrencesOf around visuals
termination_by structural visuals => visuals

end

theorem occurrences_of_append (around visuals others : List Visual) :
    occurrencesOf around (visuals ++ others) =
      occurrencesOf around visuals ++ occurrencesOf around others := by
  induction visuals with
  | nil => rfl
  | cons visual visuals ih =>
    rw [List.cons_append, occurrencesOf, occurrencesOf, ih, List.append_assoc]

theorem occurrences_of_singleton (around : List Visual) (visual : Visual) :
    occurrencesOf around [visual] = visual.occurrences around :=
  List.append_nil _

end Visual

def Tree.occurrences (tree : Tree) : List Occurrence := Visual.occurrencesOf [] tree.children

def levels (kind : ContainerKind) (visuals : List Visual) : Nat :=
  visuals.countP (Visual.isContainer kind)

theorem levels_cons (kind : ContainerKind) (visual : Visual) (visuals : List Visual) :
    levels kind (visual :: visuals) =
      levels kind visuals + if visual.isContainer kind then 1 else 0 :=
  List.countP_cons

-- A container's depth is one more than the number of containers of its kind around it, and within its cap.
def Occurrence.IsNumbered (options : RenderOptions) (occurrence : Occurrence) : Prop :=
  ∀ container ∈ occurrence.visual.container?,
    container.depth = 1 + levels container.kind occurrence.around ∧ container.IsWithin options

theorem is_numbered_of_no_container {options : RenderOptions} {around : List Visual} {visual : Visual}
    (plain : visual.container? = none) : (⟨around, visual⟩ : Occurrence).IsNumbered options := by
  rw [Occurrence.IsNumbered, plain]
  nofun

structure Surrounds (around : List Visual) (quotes lists : Int) : Prop where
  quotes : (levels .quote around : Int) = quotes
  lists : (levels .list around : Int) = lists

namespace Surrounds

variable {around : List Visual} {quotes lists : Int}

theorem nothing : Surrounds [] 0 0 := ⟨rfl, rfl⟩

theorem quote (surrounds : Surrounds around quotes lists) (depth : Int) (children : List Visual) :
    Surrounds (.quote depth children :: around) (quotes + 1) lists where
  quotes := by
    rw [levels_cons, ← surrounds.quotes]
    rfl
  lists := by
    rw [levels_cons, ← surrounds.lists]
    rfl

theorem list (surrounds : Surrounds around quotes lists) (ordered : Bool) (items : List Visual)
    (start : Option Int) (depth : Int) :
    Surrounds (.list ordered items start depth :: around) quotes (lists + 1) where
  quotes := by
    rw [levels_cons, ← surrounds.quotes]
    rfl
  lists := by
    rw [levels_cons, ← surrounds.lists]
    rfl

theorem item (surrounds : Surrounds around quotes lists) (children : List Visual)
    (checked : Option Bool) : Surrounds (.item children checked :: around) quotes lists where
  quotes := by
    rw [levels_cons, ← surrounds.quotes]
    rfl
  lists := by
    rw [levels_cons, ← surrounds.lists]
    rfl

theorem tree (surrounds : Surrounds around quotes lists) (children : List Visual) :
    Surrounds (.tree children :: around) quotes lists where
  quotes := by
    rw [levels_cons, ← surrounds.quotes]
    rfl
  lists := by
    rw [levels_cons, ← surrounds.lists]
    rfl

end Surrounds

theorem Walk.Compiles.numbered {walk : Walk} {setting : Setting} {quotes lists : Int}
    {nodes : List Node} {visuals : List Visual} {events : List Event}
    (compiles : Compiles walk setting quotes lists nodes visuals events) {around : List Visual}
    (surrounds : Surrounds around quotes lists) :
    ∀ occurrence ∈ Visual.occurrencesOf around visuals, occurrence.IsNumbered walk.options := by
  -- The counters of the walk are the levels around the visuals that come out of it.
  induction compiles generalizing around with
  | nil => nofun
  | cons _ _ firstIh restIh =>
    rw [Visual.occurrences_of_append]
    intro occurrence member
    rcases List.mem_append.mp member with first | rest
    · exact firstIh surrounds occurrence first
    · exact restIh surrounds occurrence rest
  | @quote quotes lists _ _ visuals _ within _ _ ih =>
    rw [Visual.occurrences_of_singleton, Visual.occurrences, List.forall_mem_cons]
    refine ⟨?_, ih (surrounds.quote (quotes + 1) visuals)⟩
    rintro _ ⟨⟩
    refine ⟨?_, within⟩
    rw [surrounds.quotes]
    exact Int.add_comm quotes 1
  | @list quotes lists _ _ _ _ _ visuals _ within _ ih =>
    rw [Visual.occurrences_of_singleton, Visual.occurrences, List.forall_mem_cons]
    refine ⟨?_, ih (surrounds.list _ visuals _ (lists + 1))⟩
    rintro _ ⟨⟩
    refine ⟨?_, within⟩
    rw [surrounds.lists]
    exact Int.add_comm lists 1
  | item _ ih =>
    rw [Visual.occurrences_of_singleton, Visual.occurrences, List.forall_mem_cons]
    exact ⟨is_numbered_of_no_container rfl, ih (surrounds.item _ _)⟩
  | document _ ih =>
    rw [Visual.occurrences_of_singleton, Visual.occurrences, List.forall_mem_cons]
    exact ⟨is_numbered_of_no_container rfl, ih (surrounds.tree _)⟩
  | @image _ _ _ _ _ _ _ _ inserted =>
    cases inserted with
    | none => nofun
    | some content => exact List.forall_mem_singleton.mpr (is_numbered_of_no_container rfl)
  | _ => exact List.forall_mem_singleton.mpr (is_numbered_of_no_container rfl)

-- However quotes, lists and their siblings interleave, depths are levels of nesting, and no depth goes
-- beyond its cap.
theorem compile_depths {walk : Walk} {document : Option Node} {past : List Event} {compiled : Compiled}
    (returned : ((compile walk document).after past).outcome = .ok compiled) :
    ∀ occurrence ∈ compiled.tree.occurrences, occurrence.IsNumbered walk.options := by
  rcases compile_eq_ok returned with ⟨_, rfl⟩ | ⟨_, _, visuals, _, _, compiles, rfl⟩
  · nofun
  · exact compiles.numbered Surrounds.nothing

theorem compile_depths_interleaved :
    ∃ compiled, ((compile Walk.shallow (some (.document
        [.list false [.item [.quote [.document [.list true [.item [] none []] none true []] []] []]
          none []] none true [], .quote [.thematicBreak []] []] []))).after []).outcome = .ok compiled ∧
      compiled.tree.containers = [⟨.list, 1⟩, ⟨.quote, 1⟩, ⟨.list, 2⟩, ⟨.quote, 1⟩] ∧
      compiled.tree.occurrences.map (fun occurrence =>
        (levels .quote occurrence.around, levels .list occurrence.around)) =
          [(0, 0), (0, 1), (0, 1), (1, 1), (1, 1), (1, 2), (0, 0), (1, 0)] ∧
      ∀ occurrence ∈ compiled.tree.occurrences, occurrence.IsNumbered Walk.shallow.options := by
  refine ⟨⟨⟨[.list false [.item [.quote 1 [.tree [.list true [.item [] none] none 2]]] none] none 1,
    .quote 1 [.thematicBreak]]⟩, [], []⟩, ?returned, rfl, rfl, compile_depths ?returned⟩
  rfl

end MarkdownView

import MarkdownView.Json.Printer
import MarkdownView.Proofs.Json.Reader
import Mathlib.Tactic.SplitIfs
set_option autoImplicit false

namespace MarkdownView.Json

mutual

def isExact : Json → Bool
  | .decimal _ => false
  | .foreign .. => false
  | .list items => areExact items
  | .object fields => haveExact fields
  | _ => true
termination_by structural value => value

def areExact : List Json → Bool
  | [] => true
  | item :: items => isExact item && areExact items
termination_by structural items => items

def haveExact : List (String × Json) → Bool
  | [] => true
  | (_, value) :: fields => isExact value && haveExact fields
termination_by structural fields => fields

end

theorem are_exact_map {α : Type} {encode : α → Json} (each : ∀ a, (encode a).isExact = true)
    (as : List α) : areExact (as.map encode) = true := by
  induction as with
  | nil => rfl
  | cons a as ih => exact Bool.and_eq_true_iff.mpr ⟨each a, ih⟩

theorem is_exact_of_option {α : Type} {encode : α → Json} (each : ∀ a, (encode a).isExact = true)
    (value : Option α) : (ofOption encode value).isExact = true := by
  cases value with
  | none => rfl
  | some a => exact each a

theorem is_exact_of_text? (value : Option String) : (ofText? value).isExact = true :=
  is_exact_of_option (fun _ => rfl) value

theorem is_exact_of_int? (value : Option Int) : (ofInt? value).isExact = true :=
  is_exact_of_option (fun _ => rfl) value

theorem eq_zero_of_leading_zero (n : Nat) (leading : (Nat.toDigits 10 n).head? = some '0') : n = 0 := by
  induction n using Nat.strongRecOn with
  | ind n ih =>
    by_cases small : n < 10
    · rw [Nat.toDigits_of_lt_base small] at leading
      simpa using leading
    · have enough : 10 ≤ n := Nat.not_lt.mp small
      rw [Nat.toDigits_of_base_le (by decide) enough,
        List.head?_append_of_ne_nil _ Nat.toDigits_ne_nil] at leading
      have frontZero := ih (n / 10) (by omega) leading
      omega

theorem to_digits_is_whole (n : Nat) : IsWhole (Nat.toDigits 10 n) where
  nonempty := Nat.toDigits_ne_nil
  each _ member := Nat.isDigit_of_mem_toDigits (by decide) (by decide) member
  leading zero := by
    rw [eq_zero_of_leading_zero n zero]
    rfl

theorem digits_value_to_digits (n : Nat) : digitsValue (Nat.toDigits 10 n) = n := by
  have same (digits : List Char) : digitsValue digits = Nat.ofDigitChars 10 digits 0 := by
    simp only [digitsValue, Nat.ofDigitChars_eq_foldl, Nat.mul_comm]
  rw [same, Nat.ofDigitChars_ten_toDigits]

theorem spells_int (value : Int) (rest : List Char) :
    Spells (.int value) ((toString value).toList ++ rest) rest := by
  cases value with
  | ofNat n =>
    have spelled : Spells _ (signed false _) rest := .int (to_digits_is_whole n)
    rw [digits_value_to_digits] at spelled
    have letters : (toString (Int.ofNat n)).toList = Nat.toDigits 10 n := Nat.toList_repr
    rw [letters]
    exact spelled
  | negSucc n =>
    have spelled : Spells _ (signed true _) rest := .int (to_digits_is_whole (n + 1))
    rw [digits_value_to_digits] at spelled
    have letters : (toString (Int.negSucc n)).toList = '-' :: Nat.toDigits 10 (n + 1) := by
      change ("-" ++ Nat.repr (n + 1)).toList = _
      rw [String.toList_append, Nat.toList_repr]
      rfl
    rw [letters]
    exact spelled

theorem hex_value?_hex_digit : ∀ n < 16, Text.hexValue? (Text.hexDigit n) = some n := by decide

theorem unit?_hex_digits {n : Nat} (short : n < 0x10000) :
    ∃ a b c d, Text.hexDigits 4 n = [a, b, c, d] ∧ unit? a b c d = some n := by
  refine ⟨Text.hexDigit (n / 16 / 16 / 16 % 16), Text.hexDigit (n / 16 / 16 % 16),
    Text.hexDigit (n / 16 % 16), Text.hexDigit (n % 16), rfl, ?_⟩
  have below (m : Nat) : m % 16 < 16 := Nat.mod_lt m (by decide)
  have digitsValue :
      ((n / 16 / 16 / 16 % 16 * 16 + n / 16 / 16 % 16) * 16 + n / 16 % 16) * 16 + n % 16 = n := by
    omega
  simp only [unit?, hex_value?_hex_digit _ (below _), Option.bind_eq_bind, Option.bind_some, Option.pure_def,
    digitsValue]

theorem spells_char_hex_digits {c : Char} (control : c.toNat < 0x20) (rest : List Char) :
    SpellsChar c ('\\' :: 'u' :: (Text.hexDigits 4 c.toNat ++ rest)) rest := by
  obtain ⟨x, y, z, w, digits, value⟩ := unit?_hex_digits (show c.toNat < 0x10000 by omega)
  have notHigh : isHighSurrogate c.toNat = false := by
    simp [isHighSurrogate]
    omega
  have notLow : isLowSurrogate c.toNat = false := by
    simp [isLowSurrogate]
    omega
  have spelled : SpellsChar _ _ rest := .unit value notHigh notLow
  rw [Char.ofNat_toNat] at spelled
  rw [digits]
  exact spelled

theorem spells_char_escape (c : Char) (rest : List Char) : SpellsChar c (escape c ++ rest) rest := by
  rw [escape]
  split_ifs with quote backslash newline carriage tab backspace feed control
  · subst quote
    exact .escaped rfl
  · subst backslash
    exact .escaped rfl
  · subst newline
    exact .escaped rfl
  · subst carriage
    exact .escaped rfl
  · subst tab
    exact .escaped rfl
  · subst backspace
    exact .escaped rfl
  · subst feed
    exact .escaped rfl
  · exact spells_char_hex_digits control rest
  · exact .plain (Nat.not_lt.mp control) quote backslash

theorem spells_text_escape (text rest : List Char) :
    SpellsText text (text.flatMap escape ++ '"' :: rest) rest := by
  induction text with
  | nil => exact .last
  | cons c text ih =>
    rw [List.flatMap_cons, List.append_assoc]
    exact .cons (spells_char_escape c _) ih

theorem skips_newline (layout : Layout) (level : Nat) (rest : List Char) :
    Skips (layout.newline level rest) rest := by
  cases layout with
  | compact => exact .done
  | lines width =>
    have spaces (count : Nat) : Skips (List.replicate count ' ' ++ rest) rest := by
      induction count with
      | zero => exact .done
      | succ count ih =>
        rw [List.replicate_succ]
        exact .blank rfl ih
    exact .blank rfl (spaces _)

theorem separator_eq (layout : Layout) (level : Nat) (rest : List Char) :
    ∃ next, layout.separator level rest = ',' :: next ∧ Skips next rest := by
  cases layout with
  | compact => exact ⟨' ' :: rest, rfl, .blank rfl .done⟩
  | lines width => exact ⟨_, rfl, skips_newline (.lines width) level rest⟩

theorem is_exact_of_mem {items : List Json} (isExact : areExact items = true) {item : Json}
    (member : item ∈ items) : item.isExact = true := by
  induction items with
  | nil => cases member
  | cons first items ih =>
    obtain ⟨firstExact, restExact⟩ := Bool.and_eq_true_iff.mp isExact
    obtain rfl | member := List.mem_cons.mp member
    · exact firstExact
    · exact ih restExact member

theorem is_exact_of_mem_fields {fields : List (String × Json)} (isExact : haveExact fields = true)
    {field : String × Json} (member : field ∈ fields) : field.2.isExact = true := by
  induction fields with
  | nil => cases member
  | cons first fields ih =>
    obtain ⟨firstExact, restExact⟩ := Bool.and_eq_true_iff.mp isExact
    obtain rfl | member := List.mem_cons.mp member
    · exact firstExact
    · exact ih restExact member

theorem spells_items_write (layout : Layout) (level : Nat) {item : Json} {items : List Json}
    {cs closing rest : List Char}
    (each : ∀ item' ∈ item :: items, ∀ rest, Spells item' (write layout level item' rest) rest)
    (before : Skips cs (write layout level item (writeItems layout level false items closing)))
    (closed : Skips closing (']' :: rest)) : SpellsItems (item :: items) cs rest := by
  have firstSpelled := each item List.mem_cons_self
  induction items generalizing item cs with
  | nil => exact .last before (firstSpelled _) closed
  | cons next items ih =>
    obtain ⟨following, separated, skips⟩ := separator_eq layout level
      (write layout level next (writeItems layout level false items closing))
    have comma : Skips (writeItems layout level false (next :: items) closing) (',' :: following) := by
      change Skips (layout.separator level _) _
      rw [separated]
      exact .done
    have later := fun item' member => each item' (List.mem_cons_of_mem item member)
    exact .cons before (firstSpelled _) comma (ih later skips (later next List.mem_cons_self))

theorem spells_field_write (layout : Layout) (level : Nat) {field : String × Json} {cs rest : List Char}
    (spelled : ∀ rest, Spells field.2 (write layout level field.2 rest) rest)
    (before : Skips cs (writeText field.1 (':' :: ' ' :: write layout level field.2 rest))) :
    SpellsField field cs rest := by
  have named := SpellsField.named before (spells_text_escape field.1.toList _) .done
    (.blank rfl .done) (spelled rest)
  rwa [String.ofList_toList] at named

theorem spells_fields_write (layout : Layout) (level : Nat) {field : String × Json}
    {fields : List (String × Json)} {cs closing rest : List Char}
    (each : ∀ field' ∈ field :: fields, ∀ rest, Spells field'.2 (write layout level field'.2 rest) rest)
    (before : Skips cs (writeText field.1
      (':' :: ' ' :: write layout level field.2 (writeFields layout level false fields closing))))
    (closed : Skips closing ('\x7d' :: rest)) : SpellsFields (field :: fields) cs rest := by
  have firstSpelled := spells_field_write layout level (each field List.mem_cons_self) before
  induction fields generalizing field cs with
  | nil => exact .last firstSpelled closed
  | cons next fields ih =>
    obtain ⟨following, separated, skips⟩ := separator_eq layout level (writeText next.1
      (':' :: ' ' :: write layout level next.2 (writeFields layout level false fields closing)))
    have comma : Skips (writeFields layout level false (next :: fields) closing) (',' :: following) := by
      change Skips (layout.separator level _) _
      rw [separated]
      exact .done
    have later := fun field' member => each field' (List.mem_cons_of_mem field member)
    exact .cons firstSpelled comma (ih later skips
      (spells_field_write layout level (later next List.mem_cons_self) skips))

theorem spells_write (layout : Layout) (level : Nat) {value : Json} (isExact : value.isExact = true)
    (rest : List Char) : Spells value (write layout level value rest) rest := by
  cases value with
  | null => exact .null
  | bool value =>
    cases value with
    | true => exact .yes
    | false => exact .no
  | int value => exact spells_int value rest
  | decimal spelling => cases isExact
  | text value =>
    have spelled := Spells.text (spells_text_escape value.toList rest)
    rwa [String.ofList_toList] at spelled
  | list items =>
    cases items with
    | nil => exact .noItems .done
    | cons item items =>
      exact .list (spells_items_write layout (level + 1)
        (fun item' member => spells_write layout (level + 1) (is_exact_of_mem isExact member))
        (skips_newline _ _ _) (skips_newline _ _ _))
  | object fields =>
    cases fields with
    | nil => exact .noFields .done
    | cons field fields =>
      exact .object (spells_fields_write layout (level + 1)
        (fun field' member => spells_write layout (level + 1) (is_exact_of_mem_fields isExact member))
        (skips_newline _ _ _) (skips_newline _ _ _))
  | foreign typeName content => cases isExact
termination_by sizeOf value
decreasing_by
  · have smaller := List.sizeOf_lt_of_mem member
    simp_all only [Json.list.sizeOf_spec]
    omega
  · have smaller := List.sizeOf_lt_of_mem member
    obtain ⟨name, value⟩ := field'
    simp_all only [Json.object.sizeOf_spec, Prod.mk.sizeOf_spec]
    omega

theorem is_text_print (layout : Layout) {value : Json} (isExact : value.isExact = true) :
    IsText value (value.print layout) := by
  refine ⟨write layout 0 value [], [], ?_, spells_write layout 0 isExact [], .done⟩
  rw [print, String.toList_ofList]
  exact .done

theorem parse?_print (layout : Layout) {value : Json} (isExact : value.isExact = true) :
    parse? (value.print layout) = some value :=
  parse?_of_is_text (is_text_print layout isExact)

theorem is_text_print_iff (layout : Layout) {value : Json} (isExact : value.isExact = true) (other : Json) :
    IsText other (value.print layout) ↔ other = value := by
  constructor
  · intro isText
    have read := parse?_of_is_text isText
    rw [parse?_print layout isExact] at read
    exact (Option.some.inj read).symm
  · rintro rfl
    exact is_text_print layout isExact

mutual

def numbers : Json → List Int
  | .int value => [value]
  | .list items => numbersOf items
  | .object fields => numbersIn fields
  | _ => []
termination_by structural value => value

def numbersOf : List Json → List Int
  | [] => []
  | item :: items => numbers item ++ numbersOf items
termination_by structural items => items

def numbersIn : List (String × Json) → List Int
  | [] => []
  | (_, value) :: fields => numbers value ++ numbersIn fields
termination_by structural fields => fields

end

def IsShort (value : Json) : Prop := ∀ number ∈ value.numbers, digitCount number ≤ digitLimit

mutual

theorem fault?_eq_none_iff (value : Json) (isExact : value.isExact = true) :
    value.fault? = none ↔ ∀ number ∈ value.numbers, digitCount number ≤ digitLimit := by
  cases value with
  | int value =>
    by_cases long : digitLimit < digitCount value
    · simp [fault?, numbers, long]
    · simp [fault?, numbers, long, Nat.not_lt.mp long]
  | list items => exact fault_of?_eq_none_iff items isExact
  | object fields => exact fault_in?_eq_none_iff fields isExact
  | decimal spelling => cases isExact
  | foreign typeName content => cases isExact
  | _ => simp [fault?, numbers]
termination_by structural value

theorem fault_of?_eq_none_iff (items : List Json) (allExact : areExact items = true) :
    faultOf? items = none ↔ ∀ number ∈ numbersOf items, digitCount number ≤ digitLimit := by
  cases items with
  | nil => simp [faultOf?, numbersOf]
  | cons item items =>
    obtain ⟨itemExact, restExact⟩ := Bool.and_eq_true_iff.mp allExact
    rw [faultOf?, Option.or_eq_none_iff, fault?_eq_none_iff item itemExact,
      fault_of?_eq_none_iff items restExact, numbersOf, List.forall_mem_append]
termination_by structural items

theorem fault_in?_eq_none_iff (fields : List (String × Json)) (allExact : haveExact fields = true) :
    faultIn? fields = none ↔ ∀ number ∈ numbersIn fields, digitCount number ≤ digitLimit := by
  cases fields with
  | nil => simp [faultIn?, numbersIn]
  | cons field fields =>
    obtain ⟨valueExact, restExact⟩ := Bool.and_eq_true_iff.mp allExact
    rw [faultIn?, Option.or_eq_none_iff, fault?_eq_none_iff field.2 valueExact,
      fault_in?_eq_none_iff fields restExact, numbersIn, List.forall_mem_append]
termination_by structural fields

end

theorem dump_eq_ok_iff {value : Json} (isExact : value.isExact = true) {indent : Option Int}
    {text : String} :
    value.dump indent = .ok text ↔
      indent.all isIndex = true ∧ value.IsShort ∧ text = value.print (.ofIndent indent) := by
  rw [IsShort, ← fault?_eq_none_iff value isExact, dump]
  cases indent.all isIndex <;> cases value.fault? <;> simp [eq_comm]

end MarkdownView.Json

import MarkdownView.Proofs.Json.Grammar
import Mathlib.Data.List.DropRight
set_option autoImplicit false

namespace MarkdownView.Json

theorem skip_space_of_not_space {c : Char} {cs : List Char} (notSpace : isSpace c = false) :
    skipSpace (c :: cs) = c :: cs := by
  rw [skipSpace, List.dropWhile_cons_of_neg (by simp [notSpace])]

theorem Skips.skip_space_eq {cs rest : List Char} (skips : Skips cs rest) :
    skipSpace cs = skipSpace rest := by
  induction skips with
  | done => rfl
  | blank blank _ ih =>
    rw [← ih]
    exact List.dropWhile_cons_of_pos blank

theorem Skips.skip_space_cons {cs rest : List Char} {c : Char} (skips : Skips cs (c :: rest))
    (notSpace : isSpace c = false) : skipSpace cs = c :: rest :=
  skips.skip_space_eq.trans (skip_space_of_not_space notSpace)

theorem Skips.length_le {cs rest : List Char} (skips : Skips cs rest) : rest.length ≤ cs.length := by
  induction skips with
  | done => exact Nat.le_refl _
  | blank _ _ ih => exact Nat.le_succ_of_le ih

theorem Skips.shorter {cs rest : List Char} {c : Char} (skips : Skips cs (c :: rest)) :
    rest.length < cs.length := skips.length_le

theorem SpellsChar.shorter {c : Char} {cs rest : List Char} (spelled : SpellsChar c cs rest) :
    rest.length < cs.length := by
  cases spelled <;> simp only [List.length_cons] <;> omega

theorem SpellsText.shorter {text cs rest : List Char} (spelled : SpellsText text cs rest) :
    rest.length < cs.length := by
  induction spelled with
  | last => exact Nat.lt_succ_self _
  | cons first _ ih => exact Nat.lt_trans ih first.shorter

theorem SpellsText.unit_is_some {text rest : List Char} {a b c d : Char} {more : List Char}
    (spelled : SpellsText text ('\\' :: 'u' :: a :: b :: c :: d :: more) rest) :
    ∃ unit, unit? a b c d = some unit := by
  cases spelled with
  | cons first _ =>
    cases first with
    | plain _ _ noBackslash => exact absurd rfl noBackslash
    | escaped stands => simp [escaped?] at stands
    | unit value => exact ⟨_, value⟩
    | pair highValue => exact ⟨_, highValue⟩

theorem read_text_of_unit {a b c d : Char} {unit : Nat} {next : List Char} (done : List Char)
    (value : unit? a b c d = some unit) (notHigh : isHighSurrogate unit = false)
    (unbroken : ∀ e f g h more, next = '\\' :: 'u' :: e :: f :: g :: h :: more →
      ∃ low, unit? e f g h = some low) :
    readText done ('\\' :: 'u' :: a :: b :: c :: d :: next) =
      readText (Char.ofNat unit :: done) next := by
  by_cases escape : ∃ e f g h more, next = '\\' :: 'u' :: e :: f :: g :: h :: more
  · obtain ⟨e, f, g, h, more, rfl⟩ := escape
    obtain ⟨low, lowValue⟩ := unbroken e f g h more rfl
    rw [readText]
    simp only [value, lowValue, notHigh, Bool.false_and, Bool.false_eq_true, if_false]
  · have noEscape : ∀ e f g h more, next = '\\' :: 'u' :: e :: f :: g :: h :: more → False :=
      fun e f g h more same => escape ⟨e, f, g, h, more, same⟩
    rw [readText.eq_4 _ _ _ _ _ _ noEscape]
    simp only [value]

theorem read_text_of_spells {text cs rest : List Char} (spelled : SpellsText text cs rest)
    (done : List Char) :
    readText done cs = some (String.ofList (done.reverse ++ text), rest) := by
  induction spelled generalizing done with
  | last => rw [readText, List.append_nil]
  | @cons c text cs next rest first more ih =>
    have restRead := ih (c :: done)
    rw [List.reverse_cons, List.append_assoc, List.singleton_append] at restRead
    rw [← restRead]
    cases first with
    | plain noControl noQuote noBackslash =>
      have inRange : ¬ c.toNat < 0x20 := Nat.not_lt.mpr noControl
      rw [readText.eq_def]
      split
      all_goals simp_all
    | @escaped mark _ _ stands =>
      have noUnit : mark ≠ 'u' := by
        rintro rfl
        simp [escaped?] at stands
      rw [readText]
      · simp only [stands]
      · exact fun _ _ _ _ _ _ _ _ _ same => absurd same noUnit
      · exact fun _ _ _ _ _ same => absurd same noUnit
    | unit value notHigh notLow =>
      refine read_text_of_unit done value notHigh fun e f g h following same => ?_
      subst same
      exact more.unit_is_some
    | pair highValue lowValue isHigh isLow =>
      rw [readText]
      simp only [highValue, lowValue, isHigh, isLow, Bool.and_self, if_true]

def EndsNumber (rest : List Char) : Prop :=
  ∀ c ∈ rest.head?, c.isDigit = false ∧ c ≠ '.' ∧ c ≠ 'e' ∧ c ≠ 'E'

theorem ends_number_of_space {c : Char} {rest : List Char} (blank : isSpace c = true) :
    EndsNumber (c :: rest) := by
  rintro _ ⟨⟩
  simp only [isSpace, Bool.or_eq_true, beq_iff_eq] at blank
  rcases blank with ((rfl | rfl) | rfl) | rfl <;> decide

theorem Skips.ends_number {cs rest : List Char} (skips : Skips cs rest) (ends : EndsNumber rest) :
    EndsNumber cs := by
  cases skips with
  | done => exact ends
  | blank blank _ => exact ends_number_of_space blank

theorem take_while_digits {digits rest : List Char} (isDigits : ∀ digit ∈ digits, digit.isDigit = true)
    (ends : ∀ c ∈ rest.head?, c.isDigit = false) :
    (digits ++ rest).takeWhile Char.isDigit = digits ∧
      (digits ++ rest).dropWhile Char.isDigit = rest := by
  rw [List.takeWhile_append_of_pos isDigits, List.dropWhile_append_of_pos isDigits]
  cases rest with
  | nil => exact ⟨List.append_nil _, rfl⟩
  | cons c rest =>
    have notDigit : ¬ c.isDigit = true := by simp [ends c rfl]
    rw [List.takeWhile_cons_of_neg notDigit, List.dropWhile_cons_of_neg notDigit, List.append_nil]
    exact ⟨rfl, rfl⟩

theorem IsDigits.append_ne_cons {digits rest more : List Char} {c : Char} (isDigits : IsDigits digits)
    (notDigit : c.isDigit = false) : digits ++ rest ≠ c :: more := by
  intro same
  cases digits with
  | nil => exact isDigits.nonempty rfl
  | cons digit digits =>
    obtain ⟨rfl, _⟩ := List.cons.inj same
    simp [isDigits.each digit List.mem_cons_self] at notDigit

theorem read_tail_of_digits {digits rest : List Char} (announce : List Char) (isDigits : IsDigits digits)
    (ends : ∀ c ∈ rest.head?, c.isDigit = false) :
    readTail announce (digits ++ rest) = some (announce ++ digits, rest) := by
  obtain ⟨taken, left⟩ := take_while_digits isDigits.each ends
  rw [readTail, taken, left]
  cases digits with
  | nil => exact absurd rfl isDigits.nonempty
  | cons digit digits => rfl

theorem read_fraction_of_fraction {fraction rest : List Char} (isFraction : IsFraction fraction)
    (ends : ∀ c ∈ rest.head?, c.isDigit = false ∧ c ≠ '.') :
    readFraction (fraction ++ rest) = some (fraction, rest) := by
  cases isFraction with
  | absent =>
    have noPoint : ∀ more, rest = '.' :: more → False := by
      rintro more rfl
      exact (ends '.' rfl).2 rfl
    exact readFraction.eq_2 rest noPoint
  | present isDigits => exact read_tail_of_digits ['.'] isDigits fun c first => (ends c first).1

theorem read_exponent_of_exponent {exponent rest : List Char} (isExponent : IsExponent exponent)
    (ends : EndsNumber rest) : readExponent (exponent ++ rest) = some (exponent, rest) := by
  have noDigit : ∀ c ∈ rest.head?, c.isDigit = false := fun c first => (ends c first).1
  cases isExponent with
  | absent =>
    cases rest with
    | nil => rfl
    | cons c rest =>
      obtain ⟨_, _, notSmall, notBig⟩ := ends c rfl
      exact if_neg (not_or.mpr ⟨notSmall, notBig⟩)
  | @unsigned mark digits announced isDigits =>
    rw [List.cons_append, readExponent, if_pos announced]
    · exact read_tail_of_digits [mark] isDigits noDigit
    · exact fun _ => isDigits.append_ne_cons (by decide)
    · exact fun _ => isDigits.append_ne_cons (by decide)
  | @signed mark sign digits announced isSign isDigits =>
    rcases isSign with rfl | rfl
    · rw [List.cons_append, List.cons_append, readExponent, if_pos announced]
      exact read_tail_of_digits [mark, '+'] isDigits noDigit
    · rw [List.cons_append, List.cons_append, readExponent, if_pos announced]
      exact read_tail_of_digits [mark, '-'] isDigits noDigit

theorem IsFraction.ends_digits {fraction rest : List Char} (isFraction : IsFraction fraction)
    (ends : ∀ c ∈ rest.head?, c.isDigit = false) :
    ∀ c ∈ (fraction ++ rest).head?, c.isDigit = false := by
  cases isFraction with
  | absent => exact ends
  | present =>
    rintro _ ⟨⟩
    decide

theorem IsExponent.ends_fraction {exponent rest : List Char} (isExponent : IsExponent exponent)
    (ends : EndsNumber rest) :
    ∀ c ∈ (exponent ++ rest).head?, c.isDigit = false ∧ c ≠ '.' := by
  cases isExponent with
  | absent => exact fun c first => ⟨(ends c first).1, (ends c first).2.1⟩
  | unsigned announced =>
    rintro _ ⟨⟩
    rcases announced with rfl | rfl <;> decide
  | signed announced =>
    rintro _ ⟨⟩
    rcases announced with rfl | rfl <;> decide

theorem read_number_of_parts {whole fraction exponent rest : List Char} (negative : Bool)
    (isWhole : IsWhole whole) (isFraction : IsFraction fraction) (isExponent : IsExponent exponent)
    (ends : EndsNumber rest) :
    readNumber negative (whole ++ (fraction ++ (exponent ++ rest))) =
      some (if fraction.isEmpty && exponent.isEmpty then
          .int (if negative then -(digitsValue whole : Int) else digitsValue whole)
        else .decimal (String.ofList (signed negative (whole ++ fraction ++ exponent))), rest) := by
  have ends_fraction := isExponent.ends_fraction ends
  have ends_digits := isFraction.ends_digits fun c first => (ends_fraction c first).1
  obtain ⟨taken, left⟩ := take_while_digits isWhole.each ends_digits
  have fractionRead := read_fraction_of_fraction isFraction ends_fraction
  have exponentRead := read_exponent_of_exponent isExponent ends
  have noZero : ¬ (whole.head? = some '0' ∧ whole.length ≠ 1) :=
    fun ⟨zero, longer⟩ => longer (isWhole.leading zero)
  have nonempty : whole.isEmpty = false := by simpa using isWhole.nonempty
  rw [readNumber, taken, left]
  simp only [nonempty, if_neg noZero, fractionRead, Bool.false_eq_true, if_false,
    Option.bind_eq_bind, Option.bind_some, exponentRead]
  cases fraction.isEmpty && exponent.isEmpty <;> rfl

theorem not_space_of_digit {c : Char} (isDigit : c.isDigit = true) : isSpace c = false := by
  cases blank : isSpace c with
  | false => rfl
  | true =>
    have ends : EndsNumber [c] := ends_number_of_space blank
    obtain ⟨notDigit, _⟩ := ends c rfl
    simp [isDigit] at notDigit

theorem Spells.first {value : Json} {cs rest : List Char} (spelled : Spells value cs rest) :
    ∃ c more, cs = c :: more ∧ isSpace c = false ∧ c ≠ ']' := by
  have ofDigits {negative : Bool} {digits more : List Char} (isDigits : IsDigits digits) :
      ∃ c others, signed negative (digits ++ more) = c :: others ∧ isSpace c = false ∧ c ≠ ']' := by
    cases negative with
    | true => exact ⟨'-', _, rfl, by decide⟩
    | false =>
      cases digits with
      | nil => exact absurd rfl isDigits.nonempty
      | cons digit digits =>
        have isDigit := isDigits.each digit List.mem_cons_self
        refine ⟨digit, _, rfl, not_space_of_digit isDigit, ?_⟩
        rintro rfl
        exact absurd isDigit (by decide)
  cases spelled with
  | int isWhole => exact ofDigits isWhole.toIsDigits
  | decimal isWhole _ _ _ => exact ofDigits isWhole.toIsDigits
  | _ => exact ⟨_, _, rfl, by decide⟩

theorem read_value_number {negative : Bool} {digits more : List Char} {steps : Nat}
    (isDigits : IsDigits digits) :
    readValue (steps + 1) (signed negative (digits ++ more)) =
      readNumber negative (digits ++ more) := by
  cases negative with
  | true => rfl
  | false =>
    cases digits with
    | nil => exact absurd rfl isDigits.nonempty
    | cons digit digits =>
      have isDigit := isDigits.each digit List.mem_cons_self
      have noBlank : skipSpace (digit :: (digits ++ more)) = digit :: (digits ++ more) :=
        skip_space_of_not_space (not_space_of_digit isDigit)
      have notDigit {sign : Char} {others : List Char} (same : digit :: (digits ++ more) = sign :: others) :
          sign.isDigit = true := (List.cons.inj same).1 ▸ isDigit
      simp only [signed, Bool.false_eq_true, if_false]
      rw [List.cons_append, readValue, noBlank]
      split <;> rename_i same
      case h_8 => rfl
      all_goals exact absurd (notDigit same) (by decide)

theorem shorter_of_digits {negative : Bool} {digits rest : List Char} (isDigits : IsDigits digits) :
    rest.length < (signed negative (digits ++ rest)).length := by
  have someDigit := List.length_pos_of_ne_nil isDigits.nonempty
  have noShorter : (digits ++ rest).length ≤ (signed negative (digits ++ rest)).length := by
    cases negative with
    | true => exact Nat.le_succ _
    | false => exact Nat.le_refl _
  rw [List.length_append] at noShorter
  omega

mutual

theorem Spells.shorter {value : Json} {cs rest : List Char} :
    Spells value cs rest → rest.length < cs.length
  | .null => by simp only [List.length_cons]; omega
  | .yes => by simp only [List.length_cons]; omega
  | .no => by simp only [List.length_cons]; omega
  | .int isWhole => shorter_of_digits isWhole.toIsDigits
  | .decimal isWhole _ _ _ => by
    refine Nat.lt_of_le_of_lt ?_ (shorter_of_digits isWhole.toIsDigits)
    simp only [List.length_append]
    omega
  | .text letters => Nat.lt_succ_of_lt letters.shorter
  | .noItems closed => Nat.lt_succ_of_lt closed.shorter
  | .list inside => Nat.lt_succ_of_lt inside.shorter
  | .noFields closed => Nat.lt_succ_of_lt closed.shorter
  | .object inside => Nat.lt_succ_of_lt inside.shorter

theorem SpellsItems.shorter {items : List Json} {cs rest : List Char} :
    SpellsItems items cs rest → rest.length < cs.length
  | .last before spelled closed => by
    have beforeLength := before.length_le
    have itemShorter := spelled.shorter
    have closedShorter := closed.shorter
    omega
  | .cons before spelled comma more => by
    have beforeLength := before.length_le
    have itemShorter := spelled.shorter
    have commaShorter := comma.shorter
    have moreShorter := more.shorter
    omega

theorem SpellsField.shorter {field : String × Json} {cs rest : List Char} :
    SpellsField field cs rest → rest.length < cs.length
  | .named before letters colon between spelled => by
    have beforeShorter := before.shorter
    have lettersShorter := letters.shorter
    have colonShorter := colon.shorter
    have betweenLength := between.length_le
    have valueShorter := spelled.shorter
    omega

theorem SpellsFields.shorter {fields : List (String × Json)} {cs rest : List Char} :
    SpellsFields fields cs rest → rest.length < cs.length
  | .last spelled closed => Nat.lt_trans closed.shorter spelled.shorter
  | .cons spelled comma more =>
    Nat.lt_trans more.shorter (Nat.lt_trans comma.shorter spelled.shorter)

end

theorem read_value_skip_space (steps : Nat) (cs : List Char) :
    readValue steps (skipSpace cs) = readValue steps cs := by
  cases steps with
  | zero => rfl
  | succ steps =>
    have skipped : skipSpace (skipSpace cs) = skipSpace cs := List.dropWhile_idempotent isSpace cs
    rw [readValue, readValue, skipped]

theorem read_items_skip_space (steps : Nat) (cs : List Char) :
    readItems steps (skipSpace cs) = readItems steps cs := by
  cases steps with
  | zero => rfl
  | succ steps => rw [readItems, readItems, read_value_skip_space]

theorem read_fields_skip_space (steps : Nat) (cs : List Char) :
    readFields steps (skipSpace cs) = readFields steps cs := by
  cases steps with
  | zero => rfl
  | succ steps =>
    have skipped : skipSpace (skipSpace cs) = skipSpace cs := List.dropWhile_idempotent isSpace cs
    rw [readFields, readFields, skipped]

theorem Skips.read_value_eq {cs rest : List Char} (skips : Skips cs rest) (steps : Nat) :
    readValue steps cs = readValue steps rest := by
  rw [← read_value_skip_space, skips.skip_space_eq, read_value_skip_space]

theorem SpellsItems.first {items : List Json} {cs rest : List Char}
    (spelled : SpellsItems items cs rest) : ∃ c more, skipSpace cs = c :: more ∧ c ≠ ']' := by
  have ofItem {item : Json} {start stop : List Char} (before : Skips cs start)
      (itemSpelled : Spells item start stop) : ∃ c more, skipSpace cs = c :: more ∧ c ≠ ']' := by
    obtain ⟨c, more, rfl, notSpace, noBracket⟩ := itemSpelled.first
    exact ⟨c, more, before.skip_space_cons notSpace, noBracket⟩
  cases spelled with
  | last before itemSpelled _ => exact ofItem before itemSpelled
  | cons before itemSpelled _ _ => exact ofItem before itemSpelled

theorem SpellsFields.first {fields : List (String × Json)} {cs rest : List Char}
    (spelled : SpellsFields fields cs rest) : ∃ more, skipSpace cs = '"' :: more := by
  have ofField {field : String × Json} {stop : List Char} (fieldSpelled : SpellsField field cs stop) :
      ∃ more, skipSpace cs = '"' :: more := by
    cases fieldSpelled with
    | named before _ _ _ _ => exact ⟨_, before.skip_space_cons (by decide)⟩
  cases spelled with
  | last fieldSpelled _ => exact ofField fieldSpelled
  | cons fieldSpelled _ _ => exact ofField fieldSpelled

theorem ends_number_of_sign {c : Char} {rest : List Char}
    (sign : c.isDigit = false ∧ c ≠ '.' ∧ c ≠ 'e' ∧ c ≠ 'E') : EndsNumber (c :: rest) := by
  rintro _ ⟨⟩
  exact sign

theorem read_value_bracket (steps : Nat) (cs : List Char) :
    readValue (steps + 1) ('[' :: cs) =
      match skipSpace cs with
      | ']' :: rest => some (.list [], rest)
      | rest => (readItems steps rest).map fun (items, rest) => (.list items, rest) := rfl

theorem read_value_brace (steps : Nat) (cs : List Char) :
    readValue (steps + 1) ('\x7b' :: cs) =
      match skipSpace cs with
      | '\x7d' :: rest => some (.object [], rest)
      | rest => (readFields steps rest).map fun (fields, rest) => (.object fields, rest) := rfl

theorem read_value_list (steps : Nat) {items : List Json} {cs rest : List Char}
    (inside : SpellsItems items cs rest) :
    readValue (steps + 1) ('[' :: cs) =
      (readItems steps cs).map fun (items, rest) => (.list items, rest) := by
  obtain ⟨c, more, starts, noBracket⟩ := inside.first
  rw [read_value_bracket, ← read_items_skip_space steps cs, starts]
  split
  case h_1 same => exact absurd (List.cons.inj same).1 noBracket
  case h_2 => rfl

theorem read_value_object (steps : Nat) {fields : List (String × Json)} {cs rest : List Char}
    (inside : SpellsFields fields cs rest) :
    readValue (steps + 1) ('\x7b' :: cs) =
      (readFields steps cs).map fun (fields, rest) => (.object fields, rest) := by
  obtain ⟨more, starts⟩ := inside.first
  rw [read_value_brace, ← read_fields_skip_space steps cs, starts]
  rfl

section

variable {name cs quoted named valued stop more : List Char} {value : Json} {steps : Nat}
  (before : Skips cs ('"' :: quoted)) (letters : SpellsText name quoted named)
  (colon : Skips named (':' :: valued)) (valueRead : readValue steps valued = some (value, stop))

include before letters colon valueRead

theorem read_fields_last (closed : Skips stop ('\x7d' :: more)) :
    readFields (steps + 1) cs = some ([(String.ofList name, value)], more) := by
  have nameRead : readText [] quoted = some (String.ofList name, named) := read_text_of_spells letters []
  rw [readFields, before.skip_space_cons (by decide)]
  simp only [nameRead, colon.skip_space_cons (by decide), valueRead, closed.skip_space_cons (by decide)]

theorem read_fields_more (comma : Skips stop (',' :: more)) :
    readFields (steps + 1) cs = (readFields steps more).map fun (fields, rest) =>
      ((String.ofList name, value) :: fields, rest) := by
  have nameRead : readText [] quoted = some (String.ofList name, named) := read_text_of_spells letters []
  rw [readFields, before.skip_space_cons (by decide)]
  simp only [nameRead, colon.skip_space_cons (by decide), valueRead, comma.skip_space_cons (by decide)]

end

mutual

theorem read_value_of_spells {value : Json} {cs rest : List Char} (steps : Nat) :
    Spells value cs rest → EndsNumber rest → 2 * cs.length ≤ steps →
      readValue (steps + 1) cs = some (value, rest)
  | .null, _, _ => rfl
  | .yes, _, _ => rfl
  | .no, _, _ => rfl
  | .int isWhole, ends, _ => by
    rw [read_value_number isWhole.toIsDigits]
    exact read_number_of_parts _ isWhole .absent .absent ends
  | .decimal isWhole isFraction isExponent broken, ends, _ => by
    rw [read_value_number isWhole.toIsDigits,
      read_number_of_parts _ isWhole isFraction isExponent ends, if_neg]
    simpa using broken
  | .text letters, _, _ => congrArg (Option.map _) (read_text_of_spells letters [])
  | .noItems closed, _, _ => by
    rw [read_value_bracket, closed.skip_space_cons (by decide)]
    rfl
  | .list inside, _, enough => by
    cases steps with
    | zero => cases enough
    | succ steps =>
      have insideRead := read_items_of_spells steps inside
        (by simp only [List.length_cons] at enough; omega)
      rw [read_value_list (steps + 1) inside, insideRead, Option.map_some]
  | .noFields closed, _, _ => by
    rw [read_value_brace, closed.skip_space_cons (by decide)]
    rfl
  | .object inside, _, enough => by
    cases steps with
    | zero => cases enough
    | succ steps =>
      have insideRead := read_fields_of_spells steps inside
        (by simp only [List.length_cons] at enough; omega)
      rw [read_value_object (steps + 1) inside, insideRead, Option.map_some]

theorem read_items_of_spells {items : List Json} {cs rest : List Char} (steps : Nat) :
    SpellsItems items cs rest → 2 * cs.length < steps →
      readItems (steps + 1) cs = some (items, rest)
  | .last before spelled closed, enough => by
    have beforeLength := before.length_le
    cases steps with
    | zero => cases enough
    | succ steps =>
      have ends := closed.ends_number (ends_number_of_sign (by decide))
      have itemRead := read_value_of_spells steps spelled ends (by omega)
      rw [readItems, before.read_value_eq, itemRead]
      simp only [closed.skip_space_cons (by decide)]
  | .cons before spelled comma more, enough => by
    have beforeLength := before.length_le
    have itemShorter := spelled.shorter
    have commaShorter := comma.shorter
    cases steps with
    | zero => cases enough
    | succ steps =>
      have ends := comma.ends_number (ends_number_of_sign (by decide))
      have itemRead := read_value_of_spells steps spelled ends (by omega)
      have moreRead := read_items_of_spells steps more (by omega)
      rw [readItems, before.read_value_eq, itemRead]
      simp only [comma.skip_space_cons (by decide), moreRead, Option.map_some]

theorem read_fields_of_spells {fields : List (String × Json)} {cs rest : List Char} (steps : Nat) :
    SpellsFields fields cs rest → 2 * cs.length < steps →
      readFields (steps + 1) cs = some (fields, rest)
  | .last (.named before letters colon between spelled) closed, enough => by
    have beforeShorter := before.shorter
    have lettersShorter := letters.shorter
    have colonShorter := colon.shorter
    have betweenLength := between.length_le
    cases steps with
    | zero => cases enough
    | succ steps =>
      have ends := closed.ends_number (ends_number_of_sign (by decide))
      have valueRead := read_value_of_spells steps spelled ends (by omega)
      rw [← between.read_value_eq] at valueRead
      exact read_fields_last before letters colon valueRead closed
  | .cons (.named before letters colon between spelled) comma more, enough => by
    have beforeShorter := before.shorter
    have lettersShorter := letters.shorter
    have colonShorter := colon.shorter
    have betweenLength := between.length_le
    have valueShorter := spelled.shorter
    have commaShorter := comma.shorter
    cases steps with
    | zero => cases enough
    | succ steps =>
      have ends := comma.ends_number (ends_number_of_sign (by decide))
      have valueRead := read_value_of_spells steps spelled ends (by omega)
      rw [← between.read_value_eq] at valueRead
      have moreRead := read_fields_of_spells steps more (by omega)
      rw [read_fields_more before letters colon valueRead comma, moreRead, Option.map_some]

end

theorem parse?_of_is_text {value : Json} {text : String} (isText : IsText value text) :
    parse? text = some value := by
  obtain ⟨start, stop, before, spelled, after⟩ := isText
  have ends : EndsNumber stop := after.ends_number nofun
  have beforeLength := before.length_le
  have valueRead := read_value_of_spells (2 * text.toList.length + 1) spelled ends (by omega)
  rw [← before.read_value_eq] at valueRead
  have nothingLeft : (skipSpace stop).isEmpty = true := by
    rw [after.skip_space_eq]
    rfl
  simp only [parse?, valueRead, nothingLeft, if_true]

end MarkdownView.Json

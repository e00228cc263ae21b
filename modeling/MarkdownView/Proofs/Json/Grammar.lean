import MarkdownView.Json.Reader
set_option autoImplicit false

namespace MarkdownView.Json

inductive Skips : List Char → List Char → Prop where
  | done {rest : List Char} : Skips rest rest
  | blank {c : Char} {cs rest : List Char} (blank : isSpace c = true) (more : Skips cs rest) :
      Skips (c :: cs) rest

inductive SpellsChar : Char → List Char → List Char → Prop where
  | plain {c : Char} {rest : List Char} (noControl : 0x20 ≤ c.toNat) (noQuote : c ≠ '"')
      (noBackslash : c ≠ '\\') : SpellsChar c (c :: rest) rest
  | escaped {mark c : Char} {rest : List Char} (stands : escaped? mark = some c) :
      SpellsChar c ('\\' :: mark :: rest) rest
  | unit {a b c d : Char} {unit : Nat} {rest : List Char} (value : unit? a b c d = some unit)
      (notHigh : isHighSurrogate unit = false) (notLow : isLowSurrogate unit = false) :
      SpellsChar (Char.ofNat unit) ('\\' :: 'u' :: a :: b :: c :: d :: rest) rest
  | pair {a b c d e f g h : Char} {high low : Nat} {rest : List Char}
      (highValue : unit? a b c d = some high) (lowValue : unit? e f g h = some low)
      (isHigh : isHighSurrogate high = true) (isLow : isLowSurrogate low = true) :
      SpellsChar (joinSurrogates high low)
        ('\\' :: 'u' :: a :: b :: c :: d :: '\\' :: 'u' :: e :: f :: g :: h :: rest) rest

inductive SpellsText : List Char → List Char → List Char → Prop where
  | last {rest : List Char} : SpellsText [] ('"' :: rest) rest
  | cons {c : Char} {text cs next rest : List Char} (first : SpellsChar c cs next)
      (more : SpellsText text next rest) : SpellsText (c :: text) cs rest

structure IsDigits (digits : List Char) : Prop where
  nonempty : digits ≠ []
  each : ∀ digit ∈ digits, digit.isDigit = true

structure IsWhole (digits : List Char) : Prop extends IsDigits digits where
  leading : digits.head? = some '0' → digits.length = 1

inductive IsFraction : List Char → Prop where
  | absent : IsFraction []
  | present {digits : List Char} (isDigits : IsDigits digits) : IsFraction ('.' :: digits)

inductive IsExponent : List Char → Prop where
  | absent : IsExponent []
  | unsigned {mark : Char} {digits : List Char} (announced : mark = 'e' ∨ mark = 'E')
      (isDigits : IsDigits digits) : IsExponent (mark :: digits)
  | signed {mark sign : Char} {digits : List Char} (announced : mark = 'e' ∨ mark = 'E')
      (isSign : sign = '+' ∨ sign = '-') (isDigits : IsDigits digits) :
      IsExponent (mark :: sign :: digits)

def signed (negative : Bool) (cs : List Char) : List Char :=
  if negative then '-' :: cs else cs

mutual

inductive Spells : Json → List Char → List Char → Prop where
  | null {rest : List Char} : Spells .null ('n' :: 'u' :: 'l' :: 'l' :: rest) rest
  | yes {rest : List Char} : Spells (.bool true) ('t' :: 'r' :: 'u' :: 'e' :: rest) rest
  | no {rest : List Char} : Spells (.bool false) ('f' :: 'a' :: 'l' :: 's' :: 'e' :: rest) rest
  | int {negative : Bool} {digits rest : List Char} (isWhole : IsWhole digits) :
      Spells (.int (if negative then -(digitsValue digits : Int) else digitsValue digits))
        (signed negative (digits ++ rest)) rest
  | decimal {negative : Bool} {whole fraction exponent rest : List Char} (isWhole : IsWhole whole)
      (isFraction : IsFraction fraction) (isExponent : IsExponent exponent)
      (broken : fraction ++ exponent ≠ []) :
      Spells (.decimal (String.ofList (signed negative (whole ++ fraction ++ exponent))))
        (signed negative (whole ++ (fraction ++ (exponent ++ rest)))) rest
  | text {text cs rest : List Char} (letters : SpellsText text cs rest) :
      Spells (.text (String.ofList text)) ('"' :: cs) rest
  | noItems {cs rest : List Char} (closed : Skips cs (']' :: rest)) : Spells (.list []) ('[' :: cs) rest
  | list {items : List Json} {cs rest : List Char} (inside : SpellsItems items cs rest) :
      Spells (.list items) ('[' :: cs) rest
  | noFields {cs rest : List Char} (closed : Skips cs ('\x7d' :: rest)) :
      Spells (.object []) ('\x7b' :: cs) rest
  | object {fields : List (String × Json)} {cs rest : List Char} (inside : SpellsFields fields cs rest) :
      Spells (.object fields) ('\x7b' :: cs) rest

inductive SpellsItems : List Json → List Char → List Char → Prop where
  | last {item : Json} {cs start stop rest : List Char} (before : Skips cs start)
      (spelled : Spells item start stop) (closed : Skips stop (']' :: rest)) :
      SpellsItems [item] cs rest
  | cons {item : Json} {items : List Json} {cs start stop next rest : List Char}
      (before : Skips cs start) (spelled : Spells item start stop) (comma : Skips stop (',' :: next))
      (more : SpellsItems items next rest) : SpellsItems (item :: items) cs rest

inductive SpellsField : String × Json → List Char → List Char → Prop where
  | named {name : List Char} {value : Json} {cs quoted named valued start stop : List Char}
      (before : Skips cs ('"' :: quoted)) (letters : SpellsText name quoted named)
      (colon : Skips named (':' :: valued)) (between : Skips valued start)
      (spelled : Spells value start stop) : SpellsField (String.ofList name, value) cs stop

inductive SpellsFields : List (String × Json) → List Char → List Char → Prop where
  | last {field : String × Json} {cs stop rest : List Char} (spelled : SpellsField field cs stop)
      (closed : Skips stop ('\x7d' :: rest)) : SpellsFields [field] cs rest
  | cons {field : String × Json} {fields : List (String × Json)} {cs stop next rest : List Char}
      (spelled : SpellsField field cs stop) (comma : Skips stop (',' :: next))
      (more : SpellsFields fields next rest) : SpellsFields (field :: fields) cs rest

end

def IsText (value : Json) (text : String) : Prop :=
  ∃ start stop, Skips text.toList start ∧ Spells value start stop ∧ Skips stop []

end MarkdownView.Json

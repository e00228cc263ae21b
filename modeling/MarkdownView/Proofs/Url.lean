import Mathlib.Data.List.TakeWhile
import MarkdownView.Proofs.Text.Utf8
import MarkdownView.Text.Basic
import MarkdownView.Url
set_option autoImplicit false

namespace MarkdownView

namespace Text

theorem trim_eq_empty_iff {text : String} : trim text = "" ↔ ∀ c ∈ text.toList, isBlank c = true := by
  rw [← String.toList_inj, trim, String.toList_ofList, trimChars, String.toList_empty,
    List.reverse_eq_nil_iff, List.dropWhile_eq_nil_iff]
  constructor
  · intro blank c member
    rw [← List.takeWhile_append_dropWhile (p := isBlank) (l := text.toList), List.mem_append] at member
    rcases member with front | back
    · exact List.mem_takeWhile_imp front
    · exact blank c (List.mem_reverse.mpr back)
  · intro blank c member
    exact blank c (List.dropWhile_subset _ (List.mem_reverse.mp member))

theorem is_blank_of_visible {c : Char} (above : 0x20 < c.toNat) (below : c.toNat < 0x7f) :
    isBlank c = false := by
  rw [← Bool.not_eq_true, isBlank, isWithin]
  simp only [blankRanges, List.any_cons, List.any_nil, Bool.or_eq_true, Bool.and_eq_true, decide_eq_true_eq,
    Bool.or_false]
  omega

theorem trim_ne_empty {text : String} {c : Char} (member : c ∈ text.toList) (above : 0x20 < c.toNat)
    (below : c.toNat < 0x7f) : trim text ≠ "" := by
  intro empty
  have blank := trim_eq_empty_iff.mp empty c member
  rw [is_blank_of_visible above below] at blank
  cases blank

end Text

namespace Url

def hostOf : List Char → List Char
  | '/' :: '/' :: rest => rest.takeWhile fun c => !endsHost c
  | _ => []

def host (url : String) : List Char := hostOf (splitScheme (clean url.toList)).2

def afterHost : List Char → List Char
  | '/' :: '/' :: rest => rest.dropWhile fun c => !endsHost c
  | rest => rest

theorem split_host_eq (rest : List Char) :
    splitHost rest = (Host.check (hostOf rest)).map fun _ => (hostOf rest, afterHost rest) := by
  rw [splitHost.eq_def]
  split
  · next rest =>
    change (Host.check (rest.takeWhile fun c => !endsHost c) >>= fun _ => _) = _
    rw [hostOf, afterHost]
    cases Host.check (rest.takeWhile fun c => !endsHost c) <;> rfl
  · next rest noHost =>
    rw [hostOf, afterHost]
    · rfl
    · exact noHost
    · exact noHost

theorem split_of_scheme {url : String} {scheme rest : List Char}
    (schemed : splitScheme (clean url.toList) = (scheme, rest)) :
    split url = (Host.check (hostOf rest)).map fun _ =>
      ⟨String.ofList scheme, String.ofList (Text.before '?' (Text.before '#' (afterHost rest)))⟩ := by
  rw [split]
  simp only [schemed, split_host_eq]
  cases Host.check (hostOf rest) <;> rfl

theorem split_eq_error_iff {url : String} {failure : Failure} :
    split url = .error failure ↔ Host.check (host url) = .error failure := by
  rcases schemed : splitScheme (clean url.toList) with ⟨scheme, rest⟩
  rw [host, schemed, split_of_scheme schemed]
  cases Host.check (hostOf rest) <;> simp [Except.map]

theorem mem_of_mem_host_of {c : Char} {rest : List Char} (member : c ∈ hostOf rest) : c ∈ rest := by
  rw [hostOf.eq_def] at member
  split at member
  · exact .tail _ (.tail _ ((List.takeWhile_sublist _).subset member))
  · cases member

theorem mem_of_mem_clean {c : Char} {cs : List Char} (member : c ∈ clean cs) : c ∈ cs :=
  List.dropWhile_subset _ (List.mem_filter.mp member).1

theorem mem_of_mem_split_scheme {c : Char} {cs : List Char} (member : c ∈ (splitScheme cs).2) : c ∈ cs := by
  rw [splitScheme] at member
  split at member
  · next mark rest ended =>
    split at member
    · refine List.dropWhile_subset (· != ':') ?_
      rw [ended]
      exact .tail _ member
    · exact member
  · exact member

theorem host_of_blank {url : String} (blank : Text.trim url = "") : host url = [] := by
  have slashless : '/' ∉ (splitScheme (clean url.toList)).2 := fun member =>
    Text.trim_ne_empty (mem_of_mem_clean (mem_of_mem_split_scheme member)) (by decide) (by decide) blank
  rw [host, hostOf.eq_def]
  split
  · next rest same =>
    rw [same] at slashless
    exact absurd List.mem_cons_self slashless
  · rfl

-- Whether a reference begins with a scheme, once spaces and control characters in front of it and tabs and
-- ends of lines anywhere are left out.
structure HasScheme (url : String) (scheme : List Char) : Prop where
  first : scheme.head?.any isLetter = true
  letters : ∀ c ∈ scheme, isSchemeChar c = true
  spelled : ∃ rest, clean url.toList = scheme ++ ':' :: rest

theorem HasScheme.is_scheme {url : String} {scheme : List Char} (has : HasScheme url scheme) :
    Url.isScheme scheme = true := by
  have first := has.first
  cases scheme with
  | nil => cases first
  | cons letter rest =>
    rw [Url.isScheme, Bool.and_eq_true, List.all_eq_true]
    exact ⟨first, has.letters⟩

theorem HasScheme.split_scheme_eq {url : String} {scheme : List Char} (has : HasScheme url scheme) :
    ∃ rest, splitScheme (clean url.toList) = (scheme.map Char.toLower, rest) := by
  obtain ⟨rest, spelled⟩ := has.spelled
  have colonless : ∀ c ∈ scheme, (c != ':') = true := by
    intro c member
    rw [bne_iff_ne]
    rintro rfl
    exact absurd (has.letters _ member) (by decide)
  have name : (scheme ++ ':' :: rest).takeWhile (· != ':') = scheme := by
    rw [List.takeWhile_append_of_pos colonless, List.takeWhile_cons_of_neg (by decide), List.append_nil]
  have remainder : (scheme ++ ':' :: rest).dropWhile (· != ':') = ':' :: rest := by
    rw [List.dropWhile_append_of_pos colonless, List.dropWhile_cons_of_neg (by decide)]
  refine ⟨rest, ?_⟩
  rw [spelled, splitScheme]
  simp only [name, remainder, if_pos has.is_scheme]

theorem HasScheme.trim_ne_empty {url : String} {scheme : List Char} (has : HasScheme url scheme) :
    Text.trim url ≠ "" := by
  obtain ⟨rest, spelled⟩ := has.spelled
  have colon : ':' ∈ clean url.toList := by
    rw [spelled]
    exact List.mem_append_right _ List.mem_cons_self
  exact Text.trim_ne_empty (mem_of_mem_clean colon) (by decide) (by decide)

theorem HasScheme.of_is_scheme {url : String} {name rest : List Char} (named : Url.isScheme name = true)
    (spelled : clean url.toList = name ++ ':' :: rest) : HasScheme url name := by
  cases name with
  | nil => cases named
  | cons letter letters =>
    rw [Url.isScheme, Bool.and_eq_true, List.all_eq_true] at named
    exact ⟨named.1, named.2, rest, spelled⟩

theorem name_of_split_scheme {cs scheme rest : List Char} (schemed : splitScheme cs = (scheme, rest)) :
    scheme = [] ∨
      ∃ name, isScheme name = true ∧ cs = name ++ ':' :: rest ∧ scheme = name.map Char.toLower := by
  rw [splitScheme] at schemed
  split at schemed
  · next mark after ended =>
    split at schemed
    · next named =>
      obtain ⟨rfl, rfl⟩ := Prod.mk.inj schemed
      obtain rfl : mark = ':' := by
        have stopped := List.head?_dropWhile_not (· != ':') cs
        rw [ended] at stopped
        simpa using stopped
      refine .inr ⟨_, named, ?_, rfl⟩
      rw [← ended, List.takeWhile_append_dropWhile]
    · exact .inl (Prod.mk.inj schemed).1.symm
  · exact .inl (Prod.mk.inj schemed).1.symm

theorem scheme_of_split {url : String} {parts : Parts} (whole : split url = .ok parts) :
    parts.scheme = "" ∨
      ∃ scheme, HasScheme url scheme ∧ parts.scheme = String.ofList (scheme.map Char.toLower) := by
  rcases schemed : splitScheme (clean url.toList) with ⟨scheme, rest⟩
  have same : parts.scheme = String.ofList scheme := by
    rw [split_of_scheme schemed] at whole
    cases checked : Host.check (hostOf rest) with
    | error failure =>
      rw [checked] at whole
      cases whole
    | ok _ =>
      rw [checked] at whole
      rw [← Except.ok.inj whole]
  rw [same]
  rcases name_of_split_scheme schemed with rfl | ⟨name, named, spelled, rfl⟩
  · exact .inl rfl
  · exact .inr ⟨name, HasScheme.of_is_scheme named spelled, rfl⟩

def isUnreserved (c : Char) : Bool :=
  isLetter c || c.isDigit || c == '_' || c == '.' || c == '-' || c == '~' || c == '/'

def hexMark (n : Nat) : Char := (Text.hexDigit n).toUpper

def encodeByte (b : UInt8) : List Char :=
  if isUnreserved (Char.ofNat b.toNat) then [Char.ofNat b.toNat]
  else ['%', hexMark (b.toNat / 16), hexMark (b.toNat % 16)]

def encodeChars (cs : List Char) : List Char := (Text.Utf8.encode cs).flatMap encodeByte

def encode (text : String) : String := String.ofList (encodeChars text.toList)

theorem to_list_encode (text : String) : (encode text).toList = encodeChars text.toList :=
  String.toList_ofList

theorem hex_value?_hex_mark : ∀ n < 16, Text.hexValue? (hexMark n) = some n := by decide

theorem is_unreserved_hex_mark : ∀ n < 16, isUnreserved (hexMark n) = true := by decide

def IsEncoded (c : Char) : Prop := isUnreserved c = true ∨ c = '%'

theorem IsEncoded.bounds {c : Char} (encoded : IsEncoded c) : 0x25 ≤ c.toNat ∧ c.toNat ≤ 0x7e := by
  rcases encoded with unreserved | rfl
  · simp only [isUnreserved, isLetter, Char.isDigit, Bool.or_eq_true, Bool.and_eq_true, decide_eq_true_eq,
      beq_iff_eq, Char.le_def, UInt32.le_iff_toNat_le, ge_iff_le] at unreserved
    change ((((((97 ≤ c.toNat ∧ c.toNat ≤ 122 ∨ 65 ≤ c.toNat ∧ c.toNat ≤ 90) ∨
      48 ≤ c.toNat ∧ c.toNat ≤ 57) ∨ _) ∨ _) ∨ _) ∨ _) ∨ _ at unreserved
    rcases unreserved with (((((letter | digit) | rfl) | rfl) | rfl) | rfl) | rfl
    · omega
    · omega
    all_goals decide
  · decide

theorem IsEncoded.ne {c mark : Char} (encoded : IsEncoded c) (reserved : isUnreserved mark = false)
    (other : mark ≠ '%') : c ≠ mark := by
  rintro rfl
  rcases encoded with unreserved | same
  · rw [reserved] at unreserved
    cases unreserved
  · exact other same

theorem is_encoded_encode_byte (b : UInt8) : ∀ c ∈ encodeByte b, IsEncoded c := by
  intro c member
  rw [encodeByte] at member
  split at member
  · next unreserved =>
    rw [List.mem_singleton.mp member]
    exact .inl unreserved
  · have below : b.toNat < 256 := b.toNat_lt
    simp only [List.mem_cons, List.not_mem_nil, or_false] at member
    rcases member with rfl | rfl | rfl
    · exact .inr rfl
    · exact .inl (is_unreserved_hex_mark _ (by omega))
    · exact .inl (is_unreserved_hex_mark _ (by omega))

theorem is_encoded_encode_chars (cs : List Char) : ∀ c ∈ encodeChars cs, IsEncoded c := by
  intro c member
  obtain ⟨b, _, inside⟩ := List.mem_flatMap.mp member
  exact is_encoded_encode_byte b c inside

theorem decode_bytes_cons_of_ne {c : Char} (other : c ≠ '%') (rest : List Char) :
    decodeBytes (c :: rest) = String.utf8EncodeChar c ++ decodeBytes rest := by
  rw [decodeBytes]
  rintro a b rest rfl
  exact absurd rfl other

theorem decode_bytes_encode_byte (b : UInt8) (rest : List Char) :
    decodeBytes (encodeByte b ++ rest) = b :: decodeBytes rest := by
  have below : b.toNat < 256 := b.toNat_lt
  rw [encodeByte]
  split
  · next unreserved =>
    have code : (Char.ofNat b.toNat).toNat = b.toNat := by
      rw [Char.ofNat, dif_pos (.inl (by omega))]
      rfl
    have ascii := (IsEncoded.bounds (.inl unreserved)).2
    have other : Char.ofNat b.toNat ≠ '%' := by
      intro same
      rw [same] at unreserved
      cases unreserved
    rw [List.singleton_append, decode_bytes_cons_of_ne other, Text.Utf8.encode_char_eq, if_pos (by omega),
      code, UInt8.ofNat_toNat, List.singleton_append]
  · have whole : b.toNat / 16 * 16 + b.toNat % 16 = b.toNat := by omega
    have pair : hexPair? (hexMark (b.toNat / 16)) (hexMark (b.toNat % 16)) = some b := by
      rw [hexPair?, hex_value?_hex_mark _ (by omega), hex_value?_hex_mark _ (by omega)]
      change some (UInt8.ofNat (b.toNat / 16 * 16 + b.toNat % 16)) = some b
      rw [whole, UInt8.ofNat_toNat]
    simp only [List.cons_append, List.nil_append, decodeBytes, pair]

theorem decode_bytes_encode_chars (cs : List Char) : decodeBytes (encodeChars cs) = Text.Utf8.encode cs := by
  rw [encodeChars]
  induction Text.Utf8.encode cs with
  | nil => rfl
  | cons b bytes ih => rw [List.flatMap_cons, decode_bytes_encode_byte, ih]

theorem decode_encode (text : String) : decode (encode text) = text := by
  rw [decode, to_list_encode, decode_bytes_encode_chars, Text.Utf8.decode_lossy_encode,
    String.ofList_toList]

theorem trim_encode_ne_empty {text : String} (nonempty : text ≠ "") : Text.trim (encode text) ≠ "" := by
  have encodedNonempty : (encode text).toList ≠ [] := by
    intro empty
    have decoded := decode_encode text
    rw [String.toList_eq_nil_iff.mp empty] at decoded
    exact nonempty decoded.symm
  obtain ⟨c, rest, letters⟩ := List.exists_cons_of_ne_nil encodedNonempty
  have member : c ∈ (encode text).toList := letters ▸ List.mem_cons_self
  have bounds := (is_encoded_encode_chars text.toList c (to_list_encode text ▸ member)).bounds
  exact Text.trim_ne_empty member (by omega) (by omega)

theorem clean_of_visible {cs : List Char} (visible : ∀ c ∈ cs, 0x20 < c.toNat) : clean cs = cs := by
  have kept : (cs.dropWhile fun c => c.toNat ≤ 0x20) = cs := by
    rw [List.dropWhile_eq_self_iff]
    intro inhabited
    have first := visible _ (List.getElem_mem inhabited)
    simpa using first
  rw [clean, kept, List.filter_eq_self]
  intro c member
  have above := visible c member
  simp only [Bool.and_eq_true, bne_iff_ne]
  refine ⟨⟨?_, ?_⟩, ?_⟩ <;> rintro rfl <;> exact absurd above (by decide)

theorem split_scheme_of_no_colon {cs : List Char} (noColon : ∀ c ∈ cs, c ≠ ':') :
    splitScheme cs = ([], cs) := by
  have ended : (cs.dropWhile fun c => c != ':') = [] := by
    rw [List.dropWhile_eq_nil_iff]
    intro c member
    exact bne_iff_ne.mpr (noColon c member)
  rw [splitScheme, ended]

theorem check_of_encoded {host : List Char} (encoded : ∀ c ∈ host, IsEncoded c) :
    Host.check host = .ok ⟨⟩ := by
  have free {mark : Char} (reserved : isUnreserved mark = false) (other : mark ≠ '%') :
      host.contains mark = false := by
    rw [← Bool.not_eq_true, List.contains_iff_mem]
    exact fun member => (encoded mark member).ne reserved other rfl
  have honest : host.any (Text.isWithin Host.deceptiveRanges) = false := by
    rw [List.any_eq_false]
    intro c member
    have below := (encoded c member).bounds.2
    simp only [Text.isWithin, Host.deceptiveRanges, List.any_cons, List.any_nil, Bool.or_eq_true,
      Bool.and_eq_true, decide_eq_true_eq, Bool.or_false]
    omega
  rw [Host.check, Host.checkBrackets, free rfl (by decide), free rfl (by decide), honest]
  rfl

theorem before_of_free {mark : Char} {cs : List Char} (free : ∀ c ∈ cs, c ≠ mark) :
    Text.before mark cs = cs := by
  rw [Text.before, List.takeWhile_eq_self_iff]
  intro c member
  exact bne_iff_ne.mpr (free c member)

theorem split_encode (text : String) : ∃ path, split (encode text) = .ok ⟨"", path⟩ := by
  have encoded := is_encoded_encode_chars text.toList
  have schemed : splitScheme (clean (encode text).toList) = ([], encodeChars text.toList) := by
    rw [to_list_encode,
      clean_of_visible fun c member => Nat.lt_of_lt_of_le (by decide) (encoded c member).bounds.1]
    exact split_scheme_of_no_colon fun c member => (encoded c member).ne rfl (by decide)
  have hosted := check_of_encoded fun c member => encoded c (mem_of_mem_host_of member)
  exact ⟨_, by rw [split_of_scheme schemed, hosted]; rfl⟩

theorem split_file_url {path : String} {rest : List Char} (isAbsolute : path.toList = '/' :: rest) :
    split ("file://" ++ encode path) = .ok ⟨"file", encode path⟩ := by
  have encoded := is_encoded_encode_chars path.toList
  have letters : ("file://" ++ encode path).toList = "file://".toList ++ encodeChars path.toList := by
    rw [String.toList_append, to_list_encode]
  have visible : ∀ c ∈ "file://".toList ++ encodeChars path.toList, 0x20 < c.toNat := by
    intro c member
    rcases List.mem_append.mp member with front | back
    · have allVisible : ("file://".toList.all fun c => decide (0x20 < c.toNat)) = true := by decide
      exact of_decide_eq_true (List.all_eq_true.mp allVisible c front)
    · exact Nat.lt_of_lt_of_le (by decide) (encoded c back).bounds.1
  have schemed : splitScheme (clean ("file://" ++ encode path).toList) =
      ("file".toList, '/' :: '/' :: encodeChars path.toList) := by
    rw [letters, clean_of_visible visible]
    rfl
  have slashed : encodeChars path.toList = '/' :: encodeChars rest := by
    rw [isAbsolute]
    rfl
  have hostless : hostOf ('/' :: '/' :: encodeChars path.toList) = [] := by
    rw [slashed]
    rfl
  have whole : afterHost ('/' :: '/' :: encodeChars path.toList) = encodeChars path.toList := by
    rw [slashed]
    rfl
  have free {mark : Char} (reserved : isUnreserved mark = false) (other : mark ≠ '%') :
      Text.before mark (encodeChars path.toList) = encodeChars path.toList :=
    before_of_free fun c member => (encoded c member).ne reserved other
  rw [split_of_scheme schemed, hostless, whole, free rfl (by decide), free rfl (by decide)]
  rfl

end Url
end MarkdownView

import Mathlib.Data.List.Forall2
import DirectoryInterchange.Element.Outline
import DirectoryInterchange.Proofs.Element.TwosComplement
import DirectoryInterchange.Proofs.Text.Utf8

/-!
What the line for a node says.

The rules tell the text of a line by its form: two spaces for each level, the tag
in hexadecimal and by its name, and behind it how long the content of a container
is or what another element holds.  Just one line follows them for every node, the
one that is printed.
-/

namespace DirectoryInterchange.Element.Outline

/-! ### Bytes in hexadecimal -/

def hexadecimalDigits : List Char :=
  ['0', '1', '2', '3', '4', '5', '6', '7', '8', '9', 'a', 'b', 'c', 'd', 'e', 'f']

/-- A byte and its two digits. -/
inductive Digits : UInt8 → String → Prop
  | pair {byte : UInt8} {high low : Char} :
      hexadecimalDigits[(byte >>> 4).toNat]? = some high →
      hexadecimalDigits[(byte &&& 0x0F).toNat]? = some low →
      Digits byte (String.ofList [high, low])

/-- Bytes and their digits, with a space between neighbours. -/
inductive Listed : Bytes → String → Prop
  | none : Listed [] ""
  | last {byte : UInt8} {digits : String} : Digits byte digits → Listed [byte] digits
  | more {byte next : UInt8} {rest : Bytes} {digits others : String} : Digits byte digits →
      Listed (next :: rest) others → Listed (byte :: next :: rest) (digits ++ " " ++ others)

/-- Bytes as they are shown when nothing better is known of them: all of them, or
the first 32 and how many there are. -/
inductive Previews : Bytes → String → Prop
  | all {bytes : Bytes} {listed : String} : bytes.length ≤ 32 → Listed bytes listed →
      Previews bytes listed
  | start {start rest : Bytes} {listed : String} : start.length = 32 → rest ≠ [] →
      Listed start listed →
      Previews (start ++ rest)
        (listed ++ " ... (" ++ toString (start.length + rest.length) ++ " bytes)")

theorem digits_iff {byte : UInt8} {digits : String} :
    Digits byte digits ↔ digits = Bytes.hexByte byte := by
  have digit : ∀ number < 16, hexadecimalDigits[number]? = some (Bytes.hexDigit number) := by
    decide
  have bound := UInt8.toNat_lt byte
  have shifted : (byte >>> 4).toNat = byte.toNat / 16 := by
    rw [UInt8.toNat_shiftRight, Nat.shiftRight_eq_div_pow]
    rfl
  have masked : (byte &&& 0x0F).toNat = byte.toNat % 16 := by
    rw [UInt8.toNat_and]
    exact Nat.and_two_pow_sub_one_eq_mod byte.toNat 4
  have high := digit (byte.toNat / 16) (by omega)
  have low := digit (byte.toNat % 16) (by omega)
  rw [← shifted] at high
  rw [← masked] at low
  constructor
  · rintro ⟨first, second⟩
    cases high.symm.trans first
    cases low.symm.trans second
    rw [Bytes.hexByte, ← shifted, ← masked]
  · rintro rfl
    rw [Bytes.hexByte, ← shifted, ← masked]
    exact .pair high low

theorem hex_more (byte next : UInt8) (rest : Bytes) :
    Bytes.hex " " (byte :: next :: rest) =
      Bytes.hexByte byte ++ " " ++ Bytes.hex " " (next :: rest) := by
  rw [Bytes.hex, List.map_cons, List.map_cons, String.intercalate_cons_cons]
  rfl

theorem listed_iff {bytes : Bytes} {listed : String} :
    Listed bytes listed ↔ listed = Bytes.hex " " bytes := by
  constructor
  · intro lists
    induction lists with
    | none => rfl
    | last digits => exact digits_iff.mp digits
    | more digits _ inductionHypothesis => rw [hex_more, digits_iff.mp digits, inductionHypothesis]
  · rintro rfl
    induction bytes with
    | nil => exact .none
    | cons byte rest inductionHypothesis =>
        cases rest with
        | nil => exact .last (digits_iff.mpr rfl)
        | cons next rest =>
            rw [hex_more]
            exact .more (digits_iff.mpr rfl) inductionHypothesis

theorem preview_of_short {bytes : Bytes} (short : bytes.length ≤ 32) :
    preview bytes = Bytes.hex " " bytes := by
  rw [preview, List.take_of_length_le short]
  exact if_neg (Nat.not_lt.mpr short)

theorem preview_of_long {start rest : Bytes} (full : start.length = 32) (more : rest ≠ []) :
    preview (start ++ rest) = Bytes.hex " " start ++ " ... ("
      ++ toString (start.length + rest.length) ++ " bytes)" := by
  have long : 32 < (start ++ rest).length := by
    have := List.length_pos_iff.mpr more
    rw [List.length_append]
    omega
  rw [preview, List.take_left' full, if_pos long, List.length_append]
  rfl

theorem previews_iff {bytes : Bytes} {shown : String} :
    Previews bytes shown ↔ shown = preview bytes := by
  constructor
  · intro previews
    cases previews with
    | all short lists => rw [preview_of_short short, listed_iff.mp lists]
    | start full more lists => rw [preview_of_long full more, listed_iff.mp lists]
  · rintro rfl
    by_cases short : bytes.length ≤ 32
    · rw [preview_of_short short]
      exact .all short (listed_iff.mpr rfl)
    · have full : (bytes.take 32).length = 32 := by
        rw [List.length_take]
        omega
      have more : bytes.drop 32 ≠ [] := by
        rw [Ne, List.drop_eq_nil_iff]
        omega
      rw [← List.take_append_drop 32 bytes, preview_of_long full more]
      exact .start full more (listed_iff.mpr rfl)

/-! ### Tags -/

/-- The tags that go by the name of a type. -/
def typeNames : List (UInt8 × String) :=
  [(0x01, "BOOLEAN"), (0x02, "INTEGER"), (0x04, "OCTET STRING"), (0x05, "NULL"),
    (0x0A, "ENUMERATED"), (0x30, "SEQUENCE"), (0x31, "SET")]

/-- The classes by the two high bits of a tag, and how the names of other tags begin. -/
def classNames : List (UInt8 × String) :=
  [(0x00, "[UNIVERSAL "), (0x40, "[APPLICATION "), (0x80, "["), (0xC0, "[PRIVATE ")]

/-- A tag and its name: that of its type, else its class and number. -/
inductive Named (tag : UInt8) : String → Prop
  | type {name : String} : (tag, name) ∈ typeNames → Named tag name
  | number {start : String} : tag ∉ typeNames.map Prod.fst → (tag &&& 0xC0, start) ∈ classNames →
      Named tag (start ++ toString (tag &&& 0x1F).toNat ++ "]")

theorem tagName_of_type {tag : UInt8} {name : String} (type : (tag, name) ∈ typeNames) :
    tagName tag = name := by
  simp only [typeNames, List.mem_cons, Prod.mk.injEq, List.not_mem_nil, or_false] at type
  rcases type with ⟨rfl, rfl⟩ | ⟨rfl, rfl⟩ | ⟨rfl, rfl⟩ | ⟨rfl, rfl⟩ | ⟨rfl, rfl⟩ | ⟨rfl, rfl⟩ |
    ⟨rfl, rfl⟩ <;> rfl

/-- The two high bits of a tag. -/
theorem class_eq (tag : UInt8) : tag &&& 0xC0 = UInt8.ofNat (tag.toNat / 0x40 * 0x40) := by
  have table : ∀ number < 256,
      UInt8.ofNat number &&& 0xC0 = UInt8.ofNat (number / 0x40 * 0x40) := by
    decide +kernel
  have same := table tag.toNat tag.toNat_lt
  rwa [UInt8.ofNat_toNat] at same

theorem tagName_of_number {tag : UInt8} {start : String}
    (other : tag ∉ typeNames.map Prod.fst) (kind : (tag &&& 0xC0, start) ∈ classNames) :
    tagName tag = start ++ toString (tag &&& 0x1F).toNat ++ "]" := by
  have number : tag.toNat % 0x20 = (tag &&& 0x1F).toNat := by
    rw [UInt8.toNat_and]
    exact (Nat.and_two_pow_sub_one_eq_mod tag.toNat 5).symm
  have bound := tag.toNat_lt
  simp only [typeNames, List.map_cons, List.map_nil, List.mem_cons, List.not_mem_nil, or_false,
    not_or] at other
  obtain ⟨boolean, integer, octetString, null, enumerated, sequence, set⟩ := other
  simp only [tagName, Tag.boolean, Tag.integer, Tag.octetString, Tag.null, Tag.enumerated,
    Tag.sequence, Tag.set, boolean, integer, octetString, null, enumerated, sequence, set, if_false,
    number]
  -- The rules mask the class out, and the printed name divides by 64.
  rw [class_eq] at kind
  simp only [classNames, List.mem_cons, Prod.mk.injEq, List.not_mem_nil, or_false,
    ← UInt8.toNat_inj, UInt8.toNat_ofNat', UInt8.reduceToNat] at kind
  rcases kind with ⟨high, rfl⟩ | ⟨high, rfl⟩ | ⟨high, rfl⟩ | ⟨high, rfl⟩
  · rw [show tag.toNat / 0x40 = 0 by omega]
    rfl
  · rw [show tag.toNat / 0x40 = 1 by omega]
    rfl
  · rw [show tag.toNat / 0x40 = 2 by omega]
    rfl
  · rw [show tag.toNat / 0x40 = 3 by omega]
    rfl

theorem exists_class (tag : UInt8) : ∃ start, (tag &&& 0xC0, start) ∈ classNames := by
  have table : ∀ number < 256, UInt8.ofNat number &&& 0xC0 ∈ classNames.map Prod.fst := by
    decide +kernel
  have known := table tag.toNat tag.toNat_lt
  rw [UInt8.ofNat_toNat] at known
  obtain ⟨⟨_, start⟩, member, rfl⟩ := List.mem_map.mp known
  exact ⟨start, member⟩

theorem named_iff {tag : UInt8} {name : String} : Named tag name ↔ name = tagName tag := by
  constructor
  · rintro (type | ⟨other, kind⟩)
    · exact (tagName_of_type type).symm
    · exact (tagName_of_number other kind).symm
  · rintro rfl
    by_cases type : tag ∈ typeNames.map Prod.fst
    · obtain ⟨⟨_, name⟩, member, rfl⟩ := List.mem_map.mp type
      rw [tagName_of_type member]
      exact .type member
    · obtain ⟨start, kind⟩ := exists_class tag
      rw [tagName_of_number type kind]
      exact .number type kind

/-! ### Values -/

/-- A character that is a control character. -/
def Control (c : Char) : Prop :=
  c.toNat < 0x20 ∨ 0x7F ≤ c.toNat ∧ c.toNat < 0xA0

/-- A character and what it is written as between quotes. -/
inductive Escapes : Char → String → Prop
  | quote : Escapes '"' "\\\""
  | backslash : Escapes '\\' "\\\\"
  | shown {c : Char} : c ≠ '"' → c ≠ '\\' → Shown.isShown c = true →
      Escapes c (String.singleton c)
  | hidden {c : Char} : Shown.isShown c = false →
      Escapes c ("\\u\x7b" ++ String.ofList (Nat.toDigits 16 c.toNat) ++ "\x7d")

/-- A text and how it is quoted. -/
inductive Quotes (text : String) : String → Prop
  | pieces {pieces : List String} : List.Forall₂ Escapes text.toList pieces →
      Quotes text ("\"" ++ String.join pieces ++ "\"")

/-- Whether the content under a tag is taken for text when it can be. -/
def Textual (tag : UInt8) : Prop :=
  tag ≠ 0x01 ∧ tag ≠ 0x02 ∧ tag ≠ 0x0A ∧ tag ≠ 0x05

/-- Whether content cannot be read as what its tag says, or is no text that can be shown. -/
inductive Unreadable : UInt8 → Bytes → Prop
  | boolean {bytes : Bytes} : bytes.length ≠ 1 → Unreadable 0x01 bytes
  | number {tag : UInt8} {bytes : Bytes} : tag = 0x02 ∨ tag = 0x0A →
      bytes.length = 0 ∨ 8 < bytes.length → Unreadable tag bytes
  | text {tag : UInt8} {bytes : Bytes} : Textual tag →
      (∀ text, bytes = Utf8.encode text → ∃ c ∈ text.toList, Control c) → Unreadable tag bytes

/-- A tag with content, and what is shown of the content. -/
inductive Shows : UInt8 → Bytes → String → Prop
  | false : Shows 0x01 [0x00] "false"
  | true {byte : UInt8} : byte ≠ 0x00 → Shows 0x01 [byte] "true"
  | number {tag : UInt8} {bytes : Bytes} : tag = 0x02 ∨ tag = 0x0A →
      1 ≤ bytes.length → bytes.length ≤ 8 →
      Shows tag bytes (toString (Integer.twosComplement bytes))
  | null {bytes : Bytes} : Shows 0x05 bytes ""
  | text {tag : UInt8} {text quoted : String} : Textual tag →
      (∀ c ∈ text.toList, ¬Control c) → Quotes text quoted →
      Shows tag (Utf8.encode text) quoted
  | bytes {tag : UInt8} {bytes : Bytes} {shown : String} : Unreadable tag bytes →
      Previews bytes shown → Shows tag bytes shown

/-- A list is related to just one other when each of its members is. -/
theorem forall₂_iff_eq_map {α β : Type} {related : α → β → Prop} {image : α → β} {left : List α}
    {right : List β} (one : ∀ member ∈ left, ∀ other, related member other ↔ other = image member) :
    List.Forall₂ related left right ↔ right = left.map image := by
  induction left generalizing right with
  | nil => exact List.forall₂_nil_left_iff
  | cons member left inductionHypothesis =>
      rw [List.forall₂_cons_left_iff, List.map_cons]
      constructor
      · rintro ⟨other, rest, first, others, rfl⟩
        rw [(one member List.mem_cons_self other).mp first,
          (inductionHypothesis fun member later => one member (List.mem_cons_of_mem _ later)).mp
            others]
      · rintro rfl
        exact ⟨_, _, (one member List.mem_cons_self _).mpr rfl,
          (inductionHypothesis fun member later => one member (List.mem_cons_of_mem _ later)).mpr
            rfl, rfl⟩

theorem escape_of_plain {c : Char} (quote : c ≠ '"') (backslash : c ≠ '\\')
    (plain : ¬Control c) :
    Quoted.escape c = if Shown.isShown c then String.singleton c
      else "\\u\x7b" ++ String.ofList (Nat.toDigits 16 c.toNat) ++ "\x7d" := by
  unfold Quoted.escape
  split
  · contradiction
  · contradiction
  · exact absurd (.inl (by decide)) plain
  · exact absurd (.inl (by decide)) plain
  · exact absurd (.inl (by decide)) plain
  · exact absurd (.inl (by decide)) plain
  · rfl

theorem escapes_iff {c : Char} (plain : ¬Control c) {piece : String} :
    Escapes c piece ↔ piece = Quoted.escape c := by
  constructor
  · intro escapes
    cases escapes with
    | quote => rfl
    | backslash => rfl
    | shown quote backslash shown => rw [escape_of_plain quote backslash plain, if_pos shown]
    | hidden hidden =>
        have differs (other : Char) (shown : Shown.isShown other = true) : c ≠ other := by
          rintro rfl
          rw [shown] at hidden
          cases hidden
        rw [escape_of_plain (differs _ (by decide)) (differs _ (by decide)) plain, hidden]
        rfl
  · rintro rfl
    by_cases quote : c = '"'
    · subst quote
      exact .quote
    by_cases backslash : c = '\\'
    · subst backslash
      exact .backslash
    rw [escape_of_plain quote backslash plain]
    split
    · next shown => exact .shown quote backslash shown
    · next hidden => exact .hidden (Bool.eq_false_iff.mpr hidden)

theorem quotes_iff {text quoted : String} (plain : ∀ c ∈ text.toList, ¬Control c) :
    Quotes text quoted ↔ quoted = Quoted.quote text := by
  have pieces_iff {pieces : List String} : List.Forall₂ Escapes text.toList pieces ↔
      pieces = text.toList.map Quoted.escape :=
    forall₂_iff_eq_map fun c member _ => escapes_iff (plain c member)
  constructor
  · rintro ⟨escapes⟩
    rw [pieces_iff.mp escapes, Quoted.quote]
  · rintro rfl
    exact .pieces (pieces_iff.mpr rfl)

theorem isControl_iff (c : Char) : isControl c = true ↔ Control c := by
  simp only [isControl, Control, Bool.or_eq_true, Bool.and_eq_true, decide_eq_true_eq]

theorem valueText_boolean (byte : UInt8) :
    valueText ⟨0x01, [byte]⟩ = if byte = 0x00 then "false" else "true" := by
  by_cases zero : byte = 0x00
  · subst zero
    rfl
  · have nonzero : (byte != 0) = true := bne_iff_ne.mpr zero
    rw [if_neg zero]
    exact if_pos nonzero

theorem valueText_number {tag : UInt8} {bytes : Bytes} (number : tag = 0x02 ∨ tag = 0x0A)
    (nonempty : 1 ≤ bytes.length) (short : bytes.length ≤ 8) :
    valueText ⟨tag, bytes⟩ = toString (Integer.twosComplement bytes) := by
  have same := (Integer.toInt_register nonempty short).symm
  have taken := Integer.decodeLong_eq_ok.mpr ⟨nonempty, short, same⟩
  rw [← Integer.value_eq_twosComplement, same]
  rcases number with rfl | rfl <;> simp only [valueText, asLong, taken] <;> rfl

theorem valueText_textual {tag : UInt8} (textual : Textual tag) (bytes : Bytes) :
    valueText ⟨tag, bytes⟩ = (Utf8.decode? bytes).elim (preview bytes) fun text =>
      if text.toList.any isControl then preview bytes else Quoted.quote text := by
  obtain ⟨boolean, integer, enumerated, null⟩ := textual
  simp only [valueText, Tag.boolean, Tag.integer, Tag.enumerated, Tag.null, boolean, integer,
    enumerated, null, or_self, if_false]
  cases Utf8.decode? bytes <;> rfl

theorem valueText_text {tag : UInt8} (textual : Textual tag) {text : String}
    (plain : ∀ c ∈ text.toList, ¬Control c) :
    valueText ⟨tag, Utf8.encode text⟩ = Quoted.quote text := by
  rw [valueText_textual textual, Utf8.decode?_encode, Option.elim_some, if_neg]
  intro controlled
  obtain ⟨c, member, control⟩ := List.any_eq_true.mp controlled
  exact plain c member ((isControl_iff c).mp control)

theorem valueText_unreadable {tag : UInt8} {bytes : Bytes} (unreadable : Unreadable tag bytes) :
    valueText ⟨tag, bytes⟩ = preview bytes := by
  cases unreadable with
  | boolean length =>
      rcases bytes with _ | ⟨byte, _ | ⟨next, rest⟩⟩
      · rfl
      · exact absurd rfl length
      · rfl
  | number number length =>
      have refused : Integer.decodeLong bytes = .error (.invalidLength .long bytes.length) := by
        cases taken : Integer.decodeLong bytes with
        | ok word =>
            obtain ⟨nonempty, short, -⟩ := Integer.decodeLong_eq_ok.mp taken
            omega
        | error error =>
            rw [Integer.decodeLong, Integer.decodeWithin] at taken
            split at taken
            · exact taken.symm
            · cases taken
      rcases number with rfl | rfl <;> simp only [valueText, asLong, refused] <;> rfl
  | text textual control =>
      rw [valueText_textual textual]
      cases decoded : Utf8.decode? bytes with
      | none => rfl
      | some text =>
          obtain ⟨c, member, controlled⟩ := control text (Utf8.encode_of_decode? decoded).symm
          exact if_pos (List.any_eq_true.mpr ⟨c, member, (isControl_iff c).mpr controlled⟩)

theorem shows_valueText (tag : UInt8) (bytes : Bytes) :
    Shows tag bytes (valueText ⟨tag, bytes⟩) := by
  have as_bytes (unreadable : Unreadable tag bytes) :
      Shows tag bytes (valueText ⟨tag, bytes⟩) := by
    rw [valueText_unreadable unreadable]
    exact .bytes unreadable (previews_iff.mpr rfl)
  by_cases boolean : tag = 0x01
  · subst boolean
    by_cases single : bytes.length = 1
    · obtain ⟨byte, rfl⟩ := List.length_eq_one_iff.mp single
      rw [valueText_boolean]
      split
      · next zero => exact zero ▸ .false
      · next nonzero => exact .true nonzero
    · exact as_bytes (.boolean single)
  by_cases number : tag = 0x02 ∨ tag = 0x0A
  · by_cases fits : 1 ≤ bytes.length ∧ bytes.length ≤ 8
    · rw [valueText_number number fits.1 fits.2]
      exact .number number fits.1 fits.2
    · exact as_bytes (.number number (by omega))
  by_cases null : tag = 0x05
  · subst null
    exact .null
  have textual : Textual tag :=
    ⟨boolean, fun integer => number (.inl integer), fun enumerated => number (.inr enumerated), null⟩
  by_cases printable : ∃ text, bytes = Utf8.encode text ∧ ∀ c ∈ text.toList, ¬Control c
  · obtain ⟨text, rfl, plain⟩ := printable
    rw [valueText_text textual plain]
    exact .text textual plain ((quotes_iff plain).mpr rfl)
  · refine as_bytes (.text textual fun text same => ?_)
    by_contra plain
    exact printable ⟨text, same, fun c member control => plain ⟨c, member, control⟩⟩

theorem shows_iff {tag : UInt8} {bytes : Bytes} {shown : String} :
    Shows tag bytes shown ↔ shown = valueText ⟨tag, bytes⟩ := by
  constructor
  · intro shows
    cases shows with
    | false => rfl
    | true nonzero => rw [valueText_boolean, if_neg nonzero]
    | number number nonempty short => exact (valueText_number number nonempty short).symm
    | null => rfl
    | text textual plain quotes => rw [valueText_text textual plain, (quotes_iff plain).mp quotes]
    | bytes unreadable previews =>
        rw [valueText_unreadable unreadable, previews_iff.mp previews]
  · rintro rfl
    exact shows_valueText tag bytes

/-! ### Lines -/

/-- A node and its line. -/
inductive Prints : Node → String → Prop
  | container {depth length : Nat} {tag : UInt8} {digits name : String} :
      Digits tag digits → Named tag name →
      Prints (.container depth tag length)
        (String.join (List.replicate depth "  ") ++ "0x" ++ digits ++ " " ++ name
          ++ " (" ++ toString length ++ " bytes)")
  | value {depth : Nat} {element : Element} {digits name shown : String} :
      Digits element.tag digits → Named element.tag name →
      Shows element.tag element.value shown →
      Prints (.value depth element)
        (String.join (List.replicate depth "  ") ++ "0x" ++ digits ++ " " ++ name
          ++ " " ++ shown)

theorem indent_eq (depth : Nat) :
    Node.line.indent depth = String.join (List.replicate depth "  ") := by
  induction depth with
  | zero => rfl
  | succ depth inductionHypothesis =>
      rw [List.replicate_succ, String.join_cons, ← inductionHypothesis]
      exact @String.ofList_append [' ', ' '] (List.replicate (2 * depth) ' ')

/-- The line that is printed for a node is the only one that follows the rules. -/
theorem prints_iff {node : Node} {line : String} : Prints node line ↔ line = node.line := by
  constructor
  · intro prints
    cases prints with
    | container digits name =>
        rw [Node.line, indent_eq, digits_iff.mp digits, named_iff.mp name]
        rfl
    | value digits name shows =>
        rw [Node.line, indent_eq, digits_iff.mp digits, named_iff.mp name, shows_iff.mp shows]
        rfl
  · rintro rfl
    cases node with
    | container depth tag length =>
        rw [Node.line, indent_eq]
        exact .container (digits_iff.mpr rfl) (named_iff.mpr rfl)
    | value depth element =>
        rw [Node.line, indent_eq]
        exact .value (digits_iff.mpr rfl) (named_iff.mpr rfl) (shows_iff.mpr rfl)

theorem prints_lines {nodes : List Node} {lines : List String} :
    List.Forall₂ Prints nodes lines ↔ lines = nodes.map Node.line :=
  forall₂_iff_eq_map fun _ _ _ => prints_iff

end DirectoryInterchange.Element.Outline

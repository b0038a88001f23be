import Mathlib.Data.List.TakeWhile
import DirectoryInterchange.Block.Decoding
import DirectoryInterchange.Proofs.Block.Grammar
import DirectoryInterchange.Proofs.Steps
import DirectoryInterchange.Proofs.Text.Utf8

/-!
Which texts are read as a control, and which control that is.

A text is cut where its number ends and in front of its first colon.  What
stands between says whether the control is critical, and the colon announces
its value, unless only blanks stand there that are not all spaces.
-/

namespace DirectoryInterchange.Block

/-! ### Texts that were split -/

theorem splitWhere_append
    {stop : Char → Bool} {before after : List Char} (passed : ∀ c ∈ before, stop c = false)
    (stopped : ∀ c ∈ after.head?, stop c = true) :
    splitWhere stop (before ++ after) = (before, after) := by
  have kept : ∀ c ∈ before, (!stop c) = true := fun c member => by rw [passed c member]; rfl
  rw [splitWhere, List.takeWhile_append_of_pos kept, List.dropWhile_append_of_pos kept]
  cases after with
  | nil => simp
  | cons c rest => simp [stopped c rfl]

theorem exists_splitWhere (stop : Char → Bool) (text : List Char) :
    ∃ before after, (∀ c ∈ before, stop c = false) ∧ (∀ c ∈ after.head?, stop c = true) ∧
      text = before ++ after := by
  refine ⟨text.takeWhile (!stop ·), text.dropWhile (!stop ·), ?_, ?_, ?_⟩
  · intro c member
    have passed := List.all_eq_true.mp List.all_takeWhile c member
    exact Bool.not_eq_true' _ ▸ passed
  · intro c first
    have stopped := List.head?_dropWhile_not (!stop ·) text
    rw [Option.mem_def.mp first] at stopped
    simpa using stopped
  · exact List.takeWhile_append_dropWhile.symm

/-! ### Values -/

section Values

variable (files : Files) (limit : Nat)

/-- Whether a reference leads to a file, not above the limit, with that content. -/
def Provides (url : String) (bytes : Bytes) : Prop :=
  ∃ path status, Line.filePath? url = some path ∧ files path = some status ∧
    status.size ≤ limit ∧ status.content = some bytes

/-- The bytes that the text behind a colon stands for. -/
inductive Denotes : List Char → Bytes → Prop
  | encoded {text : List Char} {bytes : Bytes}
      (decoded : Base64.decode? (Blank.trim Blank.isBlank text) = some bytes) :
      Denotes (':' :: text) bytes
  | file {url : List Char} {bytes : Bytes}
      (provided : Provides files limit (Blank.trimmed url) bytes) : Denotes ('<' :: url) bytes
  | plain {spaces text : List Char} (blanks : ∀ c ∈ spaces, c = ' ')
      (begins : ∀ c ∈ text.head?, c ≠ ' ')
      (neither : ∀ c ∈ (spaces ++ text).head?, c ≠ ':' ∧ c ≠ '<') :
      Denotes (spaces ++ text) (Utf8.encode (String.ofList text))

/-- The value that the end of a control stands for: none, or what a colon announces. -/
inductive Carries : List Char → Option Bytes → Prop
  | nothing : Carries [] none
  | value {text : List Char} {bytes : Bytes} (denoted : Denotes files limit text bytes) :
      Carries (':' :: text) (some bytes)

variable {files limit}

theorem Carries.nil_iff {value : Option Bytes} : Carries files limit [] value ↔ value = none := by
  constructor
  · intro carried
    cases carried
    rfl
  · rintro rfl
    exact .nothing

theorem Line.text_eq_ok_iff {line : Line} {what text : String} :
    line.text what = .ok text ↔ Utf8.decode? line.value = some text := by
  rw [Line.text]
  cases Utf8.decode? line.value with
  | none =>
      constructor
      · intro failed
        cases failed
      · intro absent
        cases absent
  | some found => rw [Except.ok.injEq, Option.some.injEq]

theorem readFile_eq_ok_iff {name url : String} {bytes : Bytes} :
    Line.readFile files limit name url = .ok bytes ↔ Provides files limit url bytes := by
  constructor
  · intro read
    rw [Line.readFile] at read
    split at read
    · cases read
    · next path located =>
        split at read
        · cases read
        · next status opened =>
            split at read
            · cases read
            · next fits =>
                split at read
                · cases read
                · next content =>
                    cases read
                    exact ⟨path, status, located, opened, Nat.le_of_not_lt fits, content⟩
  · rintro ⟨path, status, located, opened, fits, content⟩
    simp only [Line.readFile, located, opened, if_neg (Nat.not_lt_of_le fits), content]

theorem decodeValue_plain {name : String} {invalid : Record.Problem} {text : List Char}
    (neither : ∀ c ∈ text.head?, c ≠ ':' ∧ c ≠ '<') :
    Line.decodeValue files limit name invalid text = .ok (Line.plainValue text) := by
  rw [Line.decodeValue.eq_def]
  split
  · exact absurd rfl (neither ':' rfl).1
  · exact absurd rfl (neither '<' rfl).2
  · rfl

theorem decodeValue_eq_ok_iff {name : String} {invalid : Record.Problem} {text : List Char}
    {bytes : Bytes} :
    Line.decodeValue files limit name invalid text = .ok bytes ↔
      Denotes files limit text bytes := by
  constructor
  · intro decoded
    by_cases neither : ∀ c ∈ text.head?, c ≠ ':' ∧ c ≠ '<'
    · rw [decodeValue_plain neither] at decoded
      cases decoded
      obtain ⟨spaces, blanks, whole⟩ := Blank.exists_trimStart Blank.isSpace text
      have only_spaces : ∀ c ∈ spaces, c = ' ' := fun c member => beq_iff_eq.mp (blanks c member)
      have begins : ∀ c ∈ (Blank.trimStart Blank.isSpace text).head?, c ≠ ' ' := by
        intro c first
        have kept := Blank.not_blank_of_head_trimStart first
        exact beq_eq_false_iff_ne.mp kept
      rw [whole] at neither
      have denoted := @Denotes.plain files limit _ _ only_spaces begins neither
      rwa [← whole] at denoted
    · rw [Line.decodeValue.eq_def] at decoded
      split at decoded
      · split at decoded
        · next found =>
            cases decoded
            exact .encoded found
        · cases decoded
      · exact .file (readFile_eq_ok_iff.mp decoded)
      · next other_than_colon other_than_angle =>
          refine absurd (fun c first => ?_) neither
          obtain ⟨rest, rfl⟩ := List.head?_eq_some_iff.mp first
          refine ⟨?_, ?_⟩
          · rintro rfl
            exact other_than_colon rest rfl
          · rintro rfl
            exact other_than_angle rest rfl
  · intro denoted
    cases denoted with
    | encoded found => rw [Line.decodeValue, found]
    | file provided => exact readFile_eq_ok_iff.mpr provided
    | @plain spaces text blanks begins neither =>
        have spaces_blank : ∀ c ∈ spaces, Blank.isSpace c = true := fun c member =>
          beq_iff_eq.mpr (blanks c member)
        have kept : ∀ c ∈ text.head?, Blank.isSpace c = false := fun c first =>
          beq_eq_false_iff_ne.mpr (begins c first)
        rw [decodeValue_plain neither, Line.plainValue, Blank.trimStart_append spaces_blank,
          Blank.trimStart_of_head kept]

end Values

/-! ### The parts of a control -/

/-- What may stand at the end of a control: nothing, or a value behind a colon. -/
def IsTail (tail : List Char) : Prop :=
  ∀ c ∈ tail.head?, c = ':'

/-- A text behind leading blanks, cut behind a number and in front of the first colon. -/
structure Cut (text oid between tail : List Char) : Prop where
  whole : ∃ before, (∀ c ∈ before, Blank.isBlank c = true) ∧
    text = before ++ (oid ++ (between ++ tail))
  number : oid ∈ Grammar.oid
  apart : ∀ c ∈ between.head?, c = ' '
  uncut : ':' ∉ between
  ends : IsTail tail

def criticalWord : Bool → String
  | true => "true"
  | false => "false"

/-- What stands between the number and the first colon: only blanks, or a word. -/
inductive Criticality : List Char → Bool → Prop
  | absent {between : List Char} (blanks : ∀ c ∈ between, Blank.isBlank c = true) :
      Criticality between false
  | word {before word after : List Char} {critical : Bool}
      (leading : ∀ c ∈ before, Blank.isBlank c = true)
      (trailing : ∀ c ∈ after, Blank.isBlank c = true)
      (same : Ascii.sameLetters (String.ofList word) (criticalWord critical) = true) :
      Criticality (before ++ (word ++ after)) critical

/-- Whether the colon goes unnoticed: without a word, only spaces are passed over. -/
def Hides (between tail : List Char) : Prop :=
  tail ≠ [] ∧ (∀ c ∈ between, Blank.isBlank c = true) ∧ ∃ c ∈ between, c ≠ ' '

instance (between tail : List Char) : Decidable (Hides between tail) :=
  inferInstanceAs (Decidable (_ ∧ _ ∧ _))

/-! ### The value at the end -/

section Tail

variable (context : Context) {oid : String} {between tail : List Char} {value : Option Bytes}

theorem parseControlValue_of_head {text : List Char} (first : ∀ c ∈ text.head?, c ≠ ':') :
    parseControlValue context oid text = .ok none := by
  rw [parseControlValue.eq_def]
  split
  · exact absurd rfl (first ':' rfl)
  · rfl

theorem parseControlValue_eq_ok_iff (ends : IsTail tail) :
    parseControlValue context oid tail = .ok value ↔
      Carries context.files context.options.maximumFileSize tail value := by
  cases tail with
  | nil => rw [Carries.nil_iff, parseControlValue.eq_def, Except.ok.injEq, eq_comm]
  | cons c text =>
      obtain rfl := ends c rfl
      rw [parseControlValue, map_eq_ok]
      constructor
      · rintro ⟨bytes, decoded, rfl⟩
        exact .value (decodeValue_eq_ok_iff.mp decoded)
      · intro carried
        cases carried with
        | value denoted => exact ⟨_, decodeValue_eq_ok_iff.mpr denoted, rfl⟩

theorem head_of_trimStart (uncut : ':' ∉ between) :
    ∀ c ∈ (Blank.trimStart Blank.isSpace between).head?, c ≠ ':' := by
  rintro c first rfl
  exact uncut (List.dropWhile_sublist _ |>.mem (List.mem_of_head? first))

theorem trimStart_eq_nil_iff :
    Blank.trimStart Blank.isSpace between = [] ↔ ∀ c ∈ between, c = ' ' := by
  rw [Blank.trimStart, List.dropWhile_eq_nil_iff]
  exact forall₂_congr fun c member => beq_iff_eq

/-- Behind blanks alone, the colon is seen when they are spaces. -/
theorem parseControlValue_blanks
    (blanks : ∀ c ∈ between, Blank.isBlank c = true) (uncut : ':' ∉ between)
    (ends : IsTail tail) :
    parseControlValue context oid (Blank.trimStart Blank.isSpace between ++ tail) = .ok value ↔
      if Hides between tail then value = none
      else Carries context.files context.options.maximumFileSize tail value := by
  by_cases spaces : ∀ c ∈ between, c = ' '
  · have seen : ¬Hides between tail := by
      rintro ⟨-, -, c, member, other⟩
      exact other (spaces c member)
    rw [if_neg seen, trimStart_eq_nil_iff.mpr spaces, List.nil_append]
    exact parseControlValue_eq_ok_iff context ends
  · have stays : Blank.trimStart Blank.isSpace between ≠ [] := by
      rwa [Ne, trimStart_eq_nil_iff]
    have first : ∀ c ∈ (Blank.trimStart Blank.isSpace between ++ tail).head?, c ≠ ':' := by
      rw [List.head?_append_of_ne_nil _ stays]
      exact head_of_trimStart uncut
    rw [parseControlValue_of_head context first, Except.ok.injEq, eq_comm]
    by_cases empty : tail = []
    · rw [if_neg fun hidden => hidden.1 empty, empty]
      exact Carries.nil_iff.symm
    · push Not at spaces
      rw [if_pos ⟨empty, blanks, spaces⟩]

end Tail

/-! ### The word in between -/

theorem not_blank_of_sameLetters
    {word : List Char} {letters : String}
    (visible : ∀ c ∈ letters.toList, Blank.isBlank c = false)
    (same : Ascii.sameLetters (String.ofList word) letters = true)
    (lowered : Ascii.lower letters = letters) : ∀ c ∈ word, Blank.isBlank c = false := by
  intro c member
  have lower := congrArg String.toList ((Ascii.sameLetters_iff _ _).mp same)
  rw [lowered, Ascii.toList_lower, String.toList_ofList] at lower
  have inside : c.toLower ∈ letters.toList := lower ▸ List.mem_map_of_mem member
  by_cases upper : c.isUpper
  · have bounds : 0x41 ≤ c.toNat ∧ c.toNat ≤ 0x5A := of_decide_eq_true upper
    exact Line.isBlank_eq_false (by omega) (by omega)
  · have stays : c.toLower = c := dif_neg fun bounds => upper (decide_eq_true bounds)
    rw [stays] at inside
    exact visible c inside

theorem trimmed_eq_empty_iff {text : List Char} :
    Blank.trimmed text = "" ↔ ∀ c ∈ text, Blank.isBlank c = true := by
  rw [← Blank.trim_eq_nil_iff, Blank.trimmed]
  exact String.ofList_eq_empty_iff

variable {between tail : List Char} {critical : Bool}

theorem not_blank_of_criticalWord (critical : Bool) :
    ∀ c ∈ (criticalWord critical).toList, Blank.isBlank c = false := by
  have all : (criticalWord critical).toList.all (!Blank.isBlank ·) = true := by
    cases critical <;> rfl
  simpa using all

theorem trimmed_word
    {before word after : List Char} (leading : ∀ c ∈ before, Blank.isBlank c = true)
    (trailing : ∀ c ∈ after, Blank.isBlank c = true)
    (same : Ascii.sameLetters (String.ofList word) (criticalWord critical) = true) :
    Blank.trimmed (before ++ (word ++ after)) = String.ofList word := by
  have lowered : Ascii.lower (criticalWord critical) = criticalWord critical := by
    cases critical <;> rfl
  have visible := not_blank_of_sameLetters (not_blank_of_criticalWord critical) same lowered
  have nonempty : word ≠ [] := by
    rintro rfl
    cases critical <;> cases same
  have first : ∀ c ∈ (word ++ after).head?, Blank.isBlank c = false := by
    rw [List.head?_append_of_ne_nil _ nonempty]
    exact fun c first => visible c (List.mem_of_head? first)
  have last : ∀ c ∈ word.getLast?, Blank.isBlank c = false := fun c last =>
    visible c (List.mem_of_getLast? last)
  rw [Blank.trimmed, Blank.trim, Blank.trimStart_append leading, Blank.trimStart_of_head first,
    Blank.trimEnd_append word trailing, Blank.trimEnd_of_last last]

theorem criticality_iff :
    Criticality between critical ↔
      (Blank.trimmed between = "" ∧ critical = false) ∨
        Ascii.sameLetters (Blank.trimmed between) (criticalWord critical) = true := by
  constructor
  · intro stated
    cases stated with
    | absent blanks => exact .inl ⟨trimmed_eq_empty_iff.mpr blanks, rfl⟩
    | word leading trailing same =>
        rw [trimmed_word leading trailing same]
        exact .inr same
  · rintro (⟨empty, rfl⟩ | same)
    · exact .absent (trimmed_eq_empty_iff.mp empty)
    · obtain ⟨before, after, leading, trailing, whole⟩ := Blank.exists_trim Blank.isBlank between
      rw [whole]
      exact .word leading trailing same

theorem criticalWord_inj
    {word : String} {left right : Bool}
    (left_same : Ascii.sameLetters word (criticalWord left) = true)
    (right_same : Ascii.sameLetters word (criticalWord right) = true) : left = right := by
  rw [Ascii.sameLetters_iff] at left_same right_same
  have lowered := left_same.symm.trans right_same
  cases left <;> cases right <;> first | rfl | exact absurd lowered (by decide)

theorem trimmed_trimStart (text : List Char) :
    Blank.trimmed (Blank.trimStart Blank.isSpace text) = Blank.trimmed text := by
  obtain ⟨spaces, blanks, whole⟩ := Blank.exists_trimStart Blank.isSpace text
  have leading : ∀ c ∈ spaces, Blank.isBlank c = true := by
    intro c member
    rw [beq_iff_eq.mp (blanks c member)]
    rfl
  conv => rhs; rw [whole]
  rw [Blank.trimmed, Blank.trimmed, Blank.trim, Blank.trim, Blank.trimStart_append leading]

/-- Without a word the text stays as it is, and behind one the colon comes next. -/
theorem parseCriticality_eq_ok_iff
    (uncut : ':' ∉ between) (ends : IsTail tail) {rest : List Char} :
    parseCriticality (Blank.trimStart Blank.isSpace between ++ tail) = .ok (critical, rest) ↔
      Criticality between critical ∧
        rest = if Blank.trimmed between = "" then Blank.trimStart Blank.isSpace between ++ tail
          else tail := by
  have passed : ∀ c ∈ Blank.trimStart Blank.isSpace between, (c == ':') = false := by
    intro c member
    rw [beq_eq_false_iff_ne]
    rintro rfl
    exact uncut ((List.dropWhile_sublist _).mem member)
  have stopped : ∀ c ∈ tail.head?, (c == ':') = true := fun c first => by simp [ends c first]
  rw [parseCriticality, splitWhere_append passed stopped, criticality_iff]
  dsimp only
  rw [trimmed_trimStart]
  constructor
  · intro read
    split at read
    · next empty =>
        cases read
        exact ⟨.inl ⟨empty, rfl⟩, (if_pos empty).symm⟩
    · next stated =>
        split at read
        · next yes =>
            cases read
            exact ⟨.inr yes, (if_neg stated).symm⟩
        · split at read
          · next no =>
              cases read
              exact ⟨.inr no, (if_neg stated).symm⟩
          · cases read
  · rintro ⟨⟨empty, rfl⟩ | same, rfl⟩
    · rw [if_pos empty, if_pos empty]
    · have stated : Blank.trimmed between ≠ "" := by
        intro empty
        rw [empty] at same
        cases critical <;> exact absurd same (by decide)
      rw [if_neg stated, if_neg stated]
      cases critical with
      | true => exact if_pos same
      | false =>
          have other : ¬Ascii.sameLetters (Blank.trimmed between) "true" = true := fun yes =>
            Bool.false_ne_true (criticalWord_inj same yes)
          rw [if_neg other]
          exact if_pos same

/-! ### Whole controls -/

section Whole

variable (context : Context) {line : Line} {text : String} {oid : List Char}

/-- What is done behind a number. -/
def readBehind (oid : String) (rest : List Char) : Parsed Control := do
  let (critical, rest) ← parseCriticality (Blank.trimStart Blank.isSpace rest)
  let value ← parseControlValue context oid rest
  return { oid, critical, value }

theorem parseControl_of_split
    (decoded : Utf8.decode? line.value = some text) {before rest : List Char}
    (leading : ∀ c ∈ before, Blank.isBlank c = true)
    (first : ∀ c ∈ (oid ++ rest).head?, Blank.isBlank c = false)
    (passed : ∀ c ∈ oid, (c == ' ' || c == ':') = false)
    (stopped : ∀ c ∈ rest.head?, (c == ' ' || c == ':') = true)
    (whole : text.toList = before ++ (oid ++ rest)) :
    parseControl context line =
      if Line.isNumericOid oid then readBehind context (String.ofList oid) rest
      else .error (.invalidOid (String.ofList oid)) := by
  have front : Blank.trimStart Blank.isBlank text.toList = oid ++ rest := by
    rw [whole, Blank.trimStart_append leading, Blank.trimStart_of_head first]
  rw [parseControl, Line.text, decoded]
  simp only [ok_bind, front, splitWhere_append passed stopped]
  cases Line.isNumericOid oid <;> rfl

theorem passed_of_oid (numeric : Line.isNumericOid oid = true) :
    ∀ c ∈ oid, (c == ' ' || c == ':') = false := by
  intro c member
  have bounds := Line.toNat_of_descriptionCharacter
    (Line.isDescriptionCharacter_of_oid numeric member)
  rw [Bool.or_eq_false_iff, beq_eq_false_iff_ne, beq_eq_false_iff_ne]
  refine ⟨?_, ?_⟩
  · rintro rfl
    exact absurd bounds.1 (by decide)
  · rintro rfl
    exact bounds.2.2 rfl

variable {between tail : List Char}

theorem trimStart_tail (ends : IsTail tail) :
    Blank.trimStart Blank.isSpace (between ++ tail)
      = Blank.trimStart Blank.isSpace between ++ tail := by
  obtain ⟨spaces, blanks, whole⟩ := Blank.exists_trimStart Blank.isSpace between
  have first : ∀ c ∈ (Blank.trimStart Blank.isSpace between ++ tail).head?,
      Blank.isSpace c = false := by
    intro c found
    cases stays : Blank.trimStart Blank.isSpace between with
    | nil =>
        rw [stays, List.nil_append] at found
        rw [ends c found]
        rfl
    | cons other rest =>
        rw [stays] at found
        cases found
        exact @Blank.not_blank_of_head_trimStart Blank.isSpace between c (by rw [stays]; rfl)
  conv => lhs; rw [whole]
  rw [List.append_assoc, Blank.trimStart_append blanks, Blank.trimStart_of_head first]

theorem parseControlValue_behind
    (uncut : ':' ∉ between) (ends : IsTail tail) {number : String} {value : Option Bytes} :
    parseControlValue context number
        (if Blank.trimmed between = "" then Blank.trimStart Blank.isSpace between ++ tail
          else tail) = .ok value ↔
      if Hides between tail then value = none
      else Carries context.files context.options.maximumFileSize tail value := by
  split
  · next empty =>
      exact parseControlValue_blanks context (trimmed_eq_empty_iff.mp empty) uncut ends
  · next stated =>
      rw [if_neg fun hidden => stated (trimmed_eq_empty_iff.mpr hidden.2.1)]
      exact parseControlValue_eq_ok_iff context ends

theorem readBehind_eq_ok_iff
    (uncut : ':' ∉ between) (ends : IsTail tail) {number : String} {control : Control} :
    readBehind context number (between ++ tail) = .ok control ↔
      control.oid = number ∧ Criticality between control.critical ∧
        if Hides between tail then control.value = none
        else Carries context.files context.options.maximumFileSize tail control.value := by
  rw [readBehind, trimStart_tail ends, bind_eq_ok]
  constructor
  · rintro ⟨⟨critical, rest⟩, criticality, behind⟩
    obtain ⟨stated, rfl⟩ := (parseCriticality_eq_ok_iff uncut ends).mp criticality
    obtain ⟨value, parsed, built⟩ := bind_eq_ok.mp behind
    cases built
    exact ⟨rfl, stated, (parseControlValue_behind context uncut ends).mp parsed⟩
  · rintro ⟨rfl, stated, value⟩
    refine ⟨⟨control.critical, _⟩, (parseCriticality_eq_ok_iff uncut ends).mpr ⟨stated, rfl⟩, ?_⟩
    refine bind_eq_ok.mpr ⟨control.value, ?_, rfl⟩
    exact (parseControlValue_behind context uncut ends).mpr value

theorem Cut.parseControl_eq
    (cut : Cut text.toList oid between tail) (decoded : Utf8.decode? line.value = some text) :
    parseControl context line
      = readBehind context (String.ofList oid) (between ++ tail) := by
  obtain ⟨before, leading, whole⟩ := cut.whole
  have numeric := Grammar.isNumericOid_iff.mpr cut.number
  have first : ∀ c ∈ (oid ++ (between ++ tail)).head?, Blank.isBlank c = false := fun c found =>
    Line.not_blank_of_descriptionCharacter (Line.head_of_oid numeric _ c found)
  have stopped : ∀ c ∈ (between ++ tail).head?, (c == ' ' || c == ':') = true := by
    intro c found
    cases between with
    | nil =>
        rw [cut.ends c found]
        rfl
    | cons other rest =>
        cases found
        rw [cut.apart _ rfl]
        rfl
  rw [parseControl_of_split context decoded leading first (passed_of_oid numeric) stopped whole,
    if_pos numeric]

theorem exists_cut
    (decoded : Utf8.decode? line.value = some text) {control : Control}
    (read : parseControl context line = .ok control) :
    ∃ oid between tail, Cut text.toList oid between tail := by
  obtain ⟨before, leading, front⟩ := Blank.exists_trimStart Blank.isBlank text.toList
  obtain ⟨oid, rest, passed, stopped, split⟩ :=
    exists_splitWhere (fun c => c == ' ' || c == ':') (Blank.trimStart Blank.isBlank text.toList)
  obtain ⟨between, tail, uncut, colon, rfl⟩ := exists_splitWhere (· == ':') rest
  have first : ∀ c ∈ (oid ++ (between ++ tail)).head?, Blank.isBlank c = false := fun c found =>
    Blank.not_blank_of_head_trimStart (split ▸ found)
  rw [split] at front
  rw [parseControl_of_split context decoded leading first passed stopped front] at read
  split at read
  · next numeric =>
      refine ⟨oid, between, tail, ⟨before, leading, front⟩, Grammar.isNumericOid_iff.mp numeric,
        ?_, ?_, ?_⟩
      · intro c found
        have stops := stopped c (List.mem_head?_append_of_mem_head? found)
        have inside := uncut c (List.mem_of_head? found)
        simp_all
      · exact fun member => absurd (uncut ':' member) (by decide)
      · exact fun c found => beq_iff_eq.mp (colon c found)
  · cases read

/-- A text is read as a control just when it is cut like that, and the value is what
the end of the text carries unless its colon goes unnoticed. -/
theorem parseControl_iff_cut (context : Context) (line : Line) (control : Control) :
    parseControl context line = .ok control ↔
      ∃ text between tail, Utf8.decode? line.value = some text ∧
        Cut text.toList control.oid.toList between tail ∧ Criticality between control.critical ∧
        if Hides between tail then control.value = none
        else Carries context.files context.options.maximumFileSize tail control.value := by
  constructor
  · intro read
    obtain ⟨text, found, -⟩ := bind_eq_ok.mp read
    have decoded := Line.text_eq_ok_iff.mp found
    obtain ⟨oid, between, tail, cut⟩ := exists_cut context decoded read
    rw [cut.parseControl_eq context decoded,
      readBehind_eq_ok_iff context cut.uncut cut.ends] at read
    obtain ⟨same, stated, value⟩ := read
    have spelled : control.oid.toList = oid := by rw [same, String.toList_ofList]
    exact ⟨text, between, tail, decoded, spelled ▸ cut, stated, value⟩
  · rintro ⟨text, between, tail, decoded, cut, stated, value⟩
    rw [cut.parseControl_eq context decoded, readBehind_eq_ok_iff context cut.uncut cut.ends]
    exact ⟨String.ofList_toList.symm, stated, value⟩

end Whole

theorem colon_mem_iff
    {text oid between tail : List Char} (cut : Cut text oid between tail) :
    ':' ∈ text ↔ tail ≠ [] := by
  obtain ⟨before, leading, rfl⟩ := cut.whole
  have absent_before : ':' ∉ before := fun member => absurd (leading ':' member) (by decide)
  have absent_oid : ':' ∉ oid := fun member =>
    absurd (passed_of_oid (Grammar.isNumericOid_iff.mpr cut.number) ':' member) (by decide)
  rw [List.mem_append, List.mem_append, List.mem_append, or_iff_right absent_before,
    or_iff_right absent_oid, or_iff_right cut.uncut]
  constructor
  · exact List.ne_nil_of_mem
  · intro stated
    obtain ⟨c, rest, rfl⟩ := List.exists_cons_of_ne_nil stated
    obtain rfl := cut.ends c rfl
    exact List.mem_cons_self

/-- The value behind a tab is lost, though a control is read. -/
theorem not_carries_behind_tab :
    ¬∀ (context : Context) (line : Line) (control : Control),
      parseControl context line = .ok control →
        ∃ text between tail, Utf8.decode? line.value = some text ∧
          Cut text.toList control.oid.toList between tail ∧
          Criticality between control.critical ∧
          Carries context.files context.options.maximumFileSize tail control.value := by
  intro carries
  obtain ⟨text, between, tail, decoded, cut, -, carried⟩ :=
    carries ⟨{}, fun _ => none⟩ ⟨"control", Utf8.encode "1.2.3 \t: x"⟩ ⟨"1.2.3", false, none⟩ rfl
  rw [Utf8.decode?_encode, Option.some.injEq] at decoded
  have stated := (colon_mem_iff cut).mp (decoded ▸ by decide)
  cases carried
  exact stated rfl

end DirectoryInterchange.Block

import DirectoryInterchange.Proofs.Block.Stripping
import DirectoryInterchange.Proofs.Block.WellFormed

/-!
Blocks that are read with repeated values rejected.

They are read just where none is repeated, and as they are where repeated
values stay.
-/

namespace DirectoryInterchange.Block

/-! ### Runs of which one gives only fine answers -/

/-- Whether of two runs one succeeds just where the answer of the other is fine,
and with the same answer. -/
def Sifts {Value : Type} (fine : Value → Prop) (whole sifted : Parsed Value) : Prop :=
  ∀ value, sifted = .ok value ↔ whole = .ok value ∧ fine value

namespace Sifts

variable {Value Other : Type} {fine : Value → Prop} {fineAfter : Other → Prop}
variable {whole sifted : Parsed Value}

theorem of_fine (all : ∀ value, whole = .ok value → fine value) : Sifts fine whole whole :=
  fun value => ⟨fun answered => ⟨answered, all value answered⟩, And.left⟩

/-- Steps sift when no fine answer comes behind one that is not. -/
theorem bind
    (first : Sifts fine whole sifted) {following siftedFollowing : Value → Parsed Other}
    (each : ∀ value, whole = .ok value → fine value →
      Sifts fineAfter (following value) (siftedFollowing value))
    (behind : ∀ value other, whole = .ok value → following value = .ok other →
      fineAfter other → fine value) :
    Sifts fineAfter (whole >>= following) (sifted >>= siftedFollowing) := by
  intro other
  rw [bind_eq_ok, bind_eq_ok]
  constructor
  · rintro ⟨value, answered, followed⟩
    obtain ⟨answered, good⟩ := (first value).mp answered
    obtain ⟨followed, goodAfter⟩ := (each value answered good other).mp followed
    exact ⟨⟨value, answered, followed⟩, goodAfter⟩
  · rintro ⟨⟨value, answered, followed⟩, goodAfter⟩
    have good := behind value other answered followed goodAfter
    exact ⟨value, (first value).mpr ⟨answered, good⟩,
      (each value answered good other).mpr ⟨followed, goodAfter⟩⟩

/-- The same steps may follow when their answers are as fine as what is in front of them. -/
theorem through
    (first : Sifts fine whole sifted) {following : Value → Parsed Other}
    (agree : ∀ value other, whole = .ok value → following value = .ok other →
      (fineAfter other ↔ fine value)) :
    Sifts fineAfter (whole >>= following) (sifted >>= following) :=
  first.bind
    (fun value answered good => of_fine fun other followed =>
      (agree value other answered followed).mpr good)
    fun value other answered followed => (agree value other answered followed).mp

theorem after
    (step : Parsed Other) {following siftedFollowing : Other → Parsed Value}
    (each : ∀ value, Sifts fine (following value) (siftedFollowing value)) :
    Sifts fine (step >>= following) (step >>= siftedFollowing) :=
  (of_fine fun _ _ => trivial).bind (fun value _ _ => each value) fun _ _ _ _ _ => trivial

theorem map
    (first : Sifts fine whole sifted) {change : Value → Other}
    (agree : ∀ value, fineAfter (change value) ↔ fine value) :
    Sifts fineAfter (whole.map change) (sifted.map change) := by
  have bound (step : Parsed Value) :
      step.map change = step >>= fun value => .ok (change value) := by cases step <;> rfl
  rw [bound, bound]
  refine first.through fun value other _ followed => ?_
  cases followed
  exact agree value

/-- Runs sift step by step. -/
theorem foldlM {State Item : Type} {fine : State → Prop}
    {first second : State → Item → Parsed State}
    (each : ∀ state, fine state → ∀ item, Sifts fine (first state item) (second state item))
    (behind : ∀ state item next, first state item = .ok next → fine next → fine state)
    (items : List Item) {state : State} (start : fine state) :
    Sifts fine (items.foldlM first state) (items.foldlM second state) := by
  have back (rest : List Item) : ∀ state last, rest.foldlM first state = .ok last →
      fine last → fine state := by
    induction rest with
    | nil =>
        intro state last run good
        cases run
        exact good
    | cons item rest inductionHypothesis =>
        intro state last run good
        rw [List.foldlM_cons] at run
        obtain ⟨next, stepped, run⟩ := bind_eq_ok.mp run
        exact behind state item next stepped (inductionHypothesis next last run good)
  induction items generalizing state with
  | nil =>
      exact of_fine fun last run => by
        cases run
        exact start
  | cons item rest inductionHypothesis =>
      rw [List.foldlM_cons, List.foldlM_cons]
      exact (each state start item).bind (fun next _ good => inductionHypothesis good)
        fun next last _ run good => back rest next last run good

end Sifts

/-! ### Values -/

def Unrepeated (rule : MatchingRule) (values : List Bytes) : Prop :=
  values.Pairwise fun first second => rule.same first second = false

/-- Whether no attribute has two values that are the same. -/
def AllUnrepeated (rule : MatchingRule) (attributes : List Attribute) : Prop :=
  ∀ attr ∈ attributes, Unrepeated rule attr.values

theorem unrepeated_concat_iff {rule : MatchingRule} {values : List Bytes} {value : Bytes} :
    Unrepeated rule (values ++ [value]) ↔
      Unrepeated rule values ∧ values.any (rule.same · value) = false := by
  rw [Unrepeated, List.pairwise_append, List.any_eq_false]
  simp [Unrepeated]

theorem allUnrepeated_nil (rule : MatchingRule) : AllUnrepeated rule [] :=
  fun _ member => by cases member

theorem allUnrepeated_cons_iff
    {rule : MatchingRule} {attr : Attribute} {attributes : List Attribute} :
    AllUnrepeated rule (attr :: attributes) ↔
      Unrepeated rule attr.values ∧ AllUnrepeated rule attributes :=
  List.forall_mem_cons

namespace Values

variable {rule : MatchingRule}

theorem extend_reject
    {attr : Attribute} (unrepeated : Unrepeated rule attr.values) (value : Bytes) :
    Sifts (fun extended => Unrepeated rule extended.values) (extend .retain rule attr value)
      (extend .reject rule attr value) := by
  have good := @unrepeated_concat_iff rule attr.values value
  rw [extend_retain, extend]
  split
  · next repeated =>
      intro extended
      constructor
      · intro added
        cases added
      · rintro ⟨added, fine⟩
        cases added
        exact absurd repeated (Bool.eq_false_iff.mp (good.mp fine).2)
  · next fresh =>
      refine Sifts.of_fine fun extended added => ?_
      cases added
      exact good.mpr ⟨unrepeated, Bool.eq_false_iff.mpr fresh⟩

theorem add_reject
    (name : String) (value : Bytes) {attributes : List Attribute}
    (unrepeated : AllUnrepeated rule attributes) :
    Sifts (AllUnrepeated rule) (add .retain rule name value attributes)
      (add .reject rule name value attributes) := by
  induction attributes with
  | nil =>
      refine Sifts.of_fine fun added done => ?_
      cases done
      intro attr member
      rw [List.mem_singleton.mp member]
      exact List.pairwise_singleton _ _
  | cons attr rest inductionHypothesis =>
      obtain ⟨first, others⟩ := allUnrepeated_cons_iff.mp unrepeated
      rw [add, add]
      split
      · refine (extend_reject first value).map fun extended => ?_
        rw [allUnrepeated_cons_iff]
        exact and_iff_left others
      · refine (inductionHypothesis others).map fun added => ?_
        rw [allUnrepeated_cons_iff]
        exact and_iff_right first

theorem unrepeated_of_add
    {name : String} {value : Bytes} {attributes added : List Attribute}
    (done : add .retain rule name value attributes = .ok added)
    (unrepeated : AllUnrepeated rule added) : AllUnrepeated rule attributes := by
  induction attributes generalizing added with
  | nil => exact allUnrepeated_nil rule
  | cons attr rest inductionHypothesis =>
      rw [add] at done
      split at done
      · rw [extend_retain] at done
        cases done
        obtain ⟨first, others⟩ := allUnrepeated_cons_iff.mp unrepeated
        exact allUnrepeated_cons_iff.mpr ⟨(unrepeated_concat_iff.mp first).1, others⟩
      · obtain ⟨others, adding, rfl⟩ := map_eq_ok.mp done
        obtain ⟨first, fine⟩ := allUnrepeated_cons_iff.mp unrepeated
        exact allUnrepeated_cons_iff.mpr ⟨first, inductionHypothesis adding fine⟩

end Values

/-! ### Lines -/

variable (context : Context)

theorem parseAttributes_reject (lines : List String) :
    Sifts (AllUnrepeated context.options.rule) (parseAttributes (context.under .retain) lines)
      (parseAttributes (context.under .reject) lines) := by
  refine Sifts.foldlM (fun attributes unrepeated raw => ?_)
    (fun attributes raw added done fine => ?_) lines (allUnrepeated_nil _)
  · exact Sifts.after _ fun line => Values.add_reject line.name line.value unrepeated
  · obtain ⟨line, -, done⟩ := bind_eq_ok.mp done
    exact Values.unrepeated_of_add done fine

theorem foldlM_modify_reject
    (kind : ModificationKind) (name : String) (lines : List String) :
    Sifts (AllUnrepeated context.options.rule)
      (lines.foldlM ((context.under .retain).modify kind name) [])
      (lines.foldlM ((context.under .reject).modify kind name) []) := by
  refine Sifts.foldlM (fun attributes unrepeated raw => ?_)
    (fun attributes raw added done fine => ?_) lines (allUnrepeated_nil _)
  · refine Sifts.after _ fun line => ?_
    dsimp only
    split
    · exact Sifts.of_fine fun added done => by cases done
    · exact Values.add_reject name line.value unrepeated
  · obtain ⟨line, -, done⟩ := bind_eq_ok.mp done
    simp only at done
    split at done
    · cases done
    · exact Values.unrepeated_of_add done fine

theorem unrepeated_flatMap_iff
    {name : String} {attributes : List Attribute} {done : List String}
    (modifying : Modifying context name attributes done) (rule : MatchingRule) :
    Unrepeated rule (attributes.flatMap (·.values)) ↔ AllUnrepeated rule attributes := by
  rcases modifying with ⟨rfl, -⟩ | ⟨values, rfl, -⟩
  · exact ⟨fun _ => allUnrepeated_nil rule, fun _ => List.Pairwise.nil⟩
  · rw [List.flatMap_singleton, AllUnrepeated, List.forall_mem_singleton]

theorem parseModifiedValues_reject
    (kind : ModificationKind) (name : String) (lines : List String) :
    Sifts (Unrepeated context.options.rule)
      (parseModifiedValues (context.under .retain) kind name lines)
      (parseModifiedValues (context.under .reject) kind name lines) := by
  rw [parseModifiedValues_eq, parseModifiedValues_eq]
  refine (foldlM_modify_reject context kind name lines).through fun attributes values run done => ?_
  cases done
  exact unrepeated_flatMap_iff _ (modifying_of_foldlM run) context.options.rule

theorem values_of_checked
    {lines : List String} {found : ModificationKind × String} {values : List Bytes}
    {modification : Modification} (done : checked lines found values = .ok modification) :
    modification.target.values = values := by
  rw [checked] at done
  split at done
  · cases done
  · split at done
    · cases done
    · cases done
      rfl

theorem parseModification_reject (header : String) (lines : List String) :
    Sifts (fun modification => Unrepeated context.options.rule modification.target.values)
      (parseModification (context.under .retain) header lines)
      (parseModification (context.under .reject) header lines) := by
  rw [parseModification_eq, parseModification_eq]
  refine Sifts.after (parseHeader context header) fun found => ?_
  refine (parseModifiedValues_reject context found.1 found.2 lines).through
    fun values modification _ done => ?_
  rw [values_of_checked done]

theorem parseModifications_reject (lines : List String) :
    Sifts (fun modifications => ∀ modification ∈ modifications,
        Unrepeated context.options.rule modification.target.values)
      (parseModifications (context.under .retain) lines)
      (parseModifications (context.under .reject) lines) := by
  induction lines using parseModifications.induct with
  | case1 =>
      rw [parseModifications, parseModifications]
      refine Sifts.of_fine fun modifications done => ?_
      cases done
      exact fun modification member => by cases member
  | case2 header rest inductionHypothesis =>
      rw [parseModifications, parseModifications]
      refine (parseModification_reject context header _).bind (fun first _ fine => ?_)
        fun first modifications _ followed fine => ?_
      · refine inductionHypothesis.through fun others modifications _ done => ?_
        cases done
        rw [List.forall_mem_cons]
        exact and_iff_right fine
      · obtain ⟨others, -, done⟩ := bind_eq_ok.mp followed
        cases done
        exact fine first List.mem_cons_self

/-! ### Records -/

theorem parseChange_reject (keyword : String) (lines : List String) :
    Sifts (fun kind => AllUnrepeated context.options.rule kind.targets)
      (parseChange (context.under .retain) keyword lines)
      (parseChange (context.under .reject) keyword lines) := by
  rw [parseChange, parseChange]
  split
  · refine (parseAttributes_reject context lines).through fun attributes kind _ done => ?_
    split at done
    · cases done
    · cases done
      exact Iff.rfl
  split
  · refine Sifts.of_fine fun kind done => ?_
    split at done
    · cases done
    · cases done
      exact allUnrepeated_nil _
  split
  · refine (parseModifications_reject context lines).through fun modifications kind _ done => ?_
    split at done
    · cases done
    · cases done
      rw [AllUnrepeated, Change.targets, List.forall_mem_map]
  split
  · refine @Sifts.of_fine _ _ (parseModifyDn context lines) fun kind done => ?_
    obtain ⟨newRdn, deleteOldRdn, newSuperior, rfl⟩ := modifyDn_of_parse done
    exact allUnrepeated_nil _
  · exact Sifts.of_fine fun kind done => by cases done

theorem parseBody_reject (dn : String) (controls : List Control) (lines : List String) :
    Sifts (fun record => AllUnrepeated context.options.rule record.targets)
      (parseBody (context.under .retain) dn controls lines)
      (parseBody (context.under .reject) dn controls lines) := by
  rw [parseBody, parseBody]
  refine Sifts.after (lines.head?.bindM (parseChangeType context)) fun keyword => ?_
  cases keyword with
  | some keyword =>
      refine (parseChange_reject context keyword (lines.drop 1)).through
        fun kind record _ done => ?_
      cases done
      exact Iff.rfl
  | none =>
      cases controls with
      | cons control others => exact Sifts.of_fine fun record done => by cases done
      | nil =>
          refine (parseAttributes_reject context lines).through fun attributes record _ done => ?_
          cases done
          exact Iff.rfl

theorem parseRecord_reject (lines : List String) :
    Sifts (fun record => AllUnrepeated context.options.rule record.targets)
      (parseRecord (context.under .retain) lines)
      (parseRecord (context.under .reject) lines) := by
  cases lines with
  | nil => exact Sifts.of_fine fun record done => by cases done
  | cons first rest =>
      rw [parseRecord, parseRecord, parseControls_under, parseControls_under]
      refine Sifts.after (parseDn context first) fun dn => ?_
      exact Sifts.after _ fun found => parseBody_reject context dn found.1 found.2

theorem parse_reject (block : Block) :
    Sifts (fun record => AllUnrepeated context.options.rule record.targets)
      (parse (context.under .retain) block) (parse (context.under .reject) block) := by
  rw [parse, parse]
  split
  · exact Sifts.of_fine fun record done => by cases done
  · exact Sifts.after _ fun lines => parseRecord_reject context lines

theorem decode_reject (block : Block) (record : Record) :
    block.decode (context.under .reject) = .ok record ↔
      block.decode (context.under .retain) = .ok record
        ∧ AllUnrepeated context.options.rule record.targets := by
  rw [decode_eq_ok_iff, decode_eq_ok_iff]
  exact parse_reject context block record

end DirectoryInterchange.Block

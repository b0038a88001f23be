import DirectoryInterchange.Proofs.Block.Gathering
import DirectoryInterchange.Proofs.Block.Image

/-!
Blocks that are read with repeated values stripped.

What comes of them is what comes of them where repeated values stay, with only
the first of the values that are the same.
-/

namespace DirectoryInterchange

/-! ### Records with other values -/

section MapValues

variable (change : List Bytes → List Bytes)

def Attribute.mapValues (attr : Attribute) : Attribute :=
  { attr with values := change attr.values }

def Modification.mapValues (modification : Modification) : Modification :=
  { modification with target := modification.target.mapValues change }

def Change.mapValues : Change → Change
  | .add attributes => .add (attributes.map (·.mapValues change))
  | .modify modifications => .modify (modifications.map (·.mapValues change))
  | kind => kind

def Record.mapValues : Record → Record
  | .entry dn attributes => .entry dn (attributes.map (·.mapValues change))
  | .change dn controls kind => .change dn controls (kind.mapValues change)

end MapValues

namespace MatchingRule

variable (rule : MatchingRule)

/-- The first of all values that are the same. -/
def thin : List Bytes → List Bytes :=
  firsts rule.same

theorem thin_concat (values : List Bytes) (value : Bytes) :
    rule.thin (values ++ [value])
      = if (rule.thin values).any (rule.same · value) then rule.thin values
        else rule.thin values ++ [value] := by
  rw [thin, firsts_concat, any_firsts rule.same_equivalence]

theorem thin_isEmpty (values : List Bytes) : (rule.thin values).isEmpty = values.isEmpty := by
  cases values <;> rfl

def thinAll (attributes : List Attribute) : List Attribute :=
  attributes.map (·.mapValues rule.thin)

end MatchingRule

namespace Block

/-! ### Values -/

namespace Values

variable (rule : MatchingRule)

theorem extend_strip (attr : Attribute) (value : Bytes) :
    extend .strip rule (attr.mapValues rule.thin) value
      = (extend .retain rule attr value).map (·.mapValues rule.thin) := by
  have thinned := congrArg (Attribute.mk attr.name) (rule.thin_concat attr.values value)
  rw [extend_retain, extend]
  refine .trans ?_ (congrArg Except.ok thinned.symm)
  split
  · next repeated => exact congrArg Except.ok (congrArg (Attribute.mk _) (if_pos repeated).symm)
  · next fresh => exact congrArg Except.ok (congrArg (Attribute.mk _) (if_neg fresh).symm)

theorem add_strip (name : String) (value : Bytes) (attributes : List Attribute) :
    add .strip rule name value (rule.thinAll attributes)
      = (add .retain rule name value attributes).map rule.thinAll := by
  induction attributes with
  | nil => rfl
  | cons attr rest inductionHypothesis =>
      have named : (attr.mapValues rule.thin).hasName name = attr.hasName name := rfl
      rw [MatchingRule.thinAll, List.map_cons, add, add, named]
      split
      · rw [extend_strip, extend_retain]
        rfl
      · rw [← MatchingRule.thinAll, inductionHypothesis]
        cases add .retain rule name value rest <;> rfl

end Values

variable (context : Context)

theorem collect_strip (attributes : List Attribute) (raw : String) :
    (context.under .strip).collect (context.options.rule.thinAll attributes) raw
      = ((context.under .retain).collect attributes raw).map context.options.rule.thinAll := by
  rw [Context.collect, Context.collect, map_after_bind]
  simp only [Context.line_under, Context.addValue_under, Values.add_strip]

theorem parseAttributes_strip (lines : List String) :
    parseAttributes (context.under .strip) lines
      = (parseAttributes (context.under .retain) lines).map context.options.rule.thinAll :=
  foldlM_of_steps (collect_strip context) lines []

theorem modify_strip
    (kind : ModificationKind) (name : String) (attributes : List Attribute) (raw : String) :
    (context.under .strip).modify kind name (context.options.rule.thinAll attributes) raw
      = ((context.under .retain).modify kind name attributes raw).map
          context.options.rule.thinAll := by
  rw [Context.modify, Context.modify, Context.line_under, Context.line_under]
  cases context.line raw with
  | error problem => rfl
  | ok line =>
      rw [ok_bind, ok_bind, Context.addValue_under, Context.addValue_under, Values.add_strip]
      split <;> rfl

theorem flatMap_thinAll
    {name : String} {attributes : List Attribute} {done : List String}
    (modifying : Modifying context name attributes done) (rule : MatchingRule) :
    (rule.thinAll attributes).flatMap (·.values) = rule.thin (attributes.flatMap (·.values)) := by
  rcases modifying with ⟨rfl, -⟩ | ⟨values, rfl, -⟩
  · rfl
  · rw [MatchingRule.thinAll, List.map_singleton, List.flatMap_singleton, List.flatMap_singleton]
    rfl

theorem parseModifiedValues_eq (kind : ModificationKind) (name : String) (lines : List String) :
    parseModifiedValues context kind name lines
      = lines.foldlM (context.modify kind name) [] >>= fun attributes =>
          .ok (attributes.flatMap (·.values)) := rfl

theorem parseModifiedValues_strip (kind : ModificationKind) (name : String) (lines : List String) :
    parseModifiedValues (context.under .strip) kind name lines
      = (parseModifiedValues (context.under .retain) kind name lines).map
          context.options.rule.thin := by
  have folded := foldlM_of_steps (modify_strip context kind name) lines []
  have start : context.options.rule.thinAll [] = [] := rfl
  rw [start] at folded
  rw [parseModifiedValues_eq, parseModifiedValues_eq, folded]
  cases collected : lines.foldlM ((context.under .retain).modify kind name) [] with
  | error problem => rfl
  | ok attributes =>
      have modifying := modifying_of_foldlM collected
      exact congrArg Except.ok (flatMap_thinAll _ modifying context.options.rule)

/-- A modification with those values, if its kind allows them. -/
def checked (lines : List String) (found : ModificationKind × String) (values : List Bytes) :
    Parsed Modification :=
  if found.1 = .add ∧ values.isEmpty then .error (.addWithoutValues found.2)
  else if found.1 = .increment ∧ lines.length ≠ 1 then
    .error (.incrementWithoutOneValue found.2)
  else .ok { kind := found.1, target := { name := found.2, values } }

theorem parseModification_eq (header : String) (lines : List String) :
    parseModification context header lines
      = parseHeader context header >>= fun found =>
          parseModifiedValues context found.1 found.2 lines >>= checked lines found := by
  rw [parseModification]
  cases parseHeader context header with
  | error problem => rfl
  | ok found =>
      rw [ok_bind, ok_bind]
      refine congrArg (parseModifiedValues context found.1 found.2 lines >>= ·) ?_
      funext values
      rw [checked]
      split
      · rfl
      · split <;> rfl

theorem checked_thin (lines : List String) (found : ModificationKind × String)
    (rule : MatchingRule) (values : List Bytes) :
    checked lines found (rule.thin values)
      = (checked lines found values).map (·.mapValues rule.thin) := by
  rw [checked, checked, MatchingRule.thin_isEmpty]
  split
  · rfl
  · split <;> rfl

theorem parseModification_strip (header : String) (lines : List String) :
    parseModification (context.under .strip) header lines
      = (parseModification (context.under .retain) header lines).map
          (·.mapValues context.options.rule.thin) := by
  have headed (policy : Policy) :
      parseHeader (context.under policy) header = parseHeader context header := rfl
  simp only [parseModification_eq, headed, map_after_bind, parseModifiedValues_strip,
    bind_after_map, checked_thin]

theorem parseModifications_strip (lines : List String) :
    parseModifications (context.under .strip) lines
      = (parseModifications (context.under .retain) lines).map
          (·.map (·.mapValues context.options.rule.thin)) := by
  induction lines using parseModifications.induct with
  | case1 => rw [parseModifications, parseModifications]; rfl
  | case2 header rest inductionHypothesis =>
      rw [parseModifications, parseModifications, parseModification_strip, inductionHypothesis]
      simp only [map_after_bind, bind_after_map]
      rfl

theorem parseModifyDn_strip (lines : List String) :
    parseModifyDn (context.under .strip) lines
      = (parseModifyDn (context.under .retain) lines).map
          (·.mapValues context.options.rule.thin) := by
  have under (policy : Policy) :
      parseModifyDn (context.under policy) lines = parseModifyDn context lines := rfl
  rw [under, under]
  cases parsed : parseModifyDn context lines with
  | error problem => rfl
  | ok kind =>
      obtain ⟨newRdn, deleteOldRdn, newSuperior, rfl⟩ := modifyDn_of_parse parsed
      rfl

theorem parseChange_strip (keyword : String) (lines : List String) :
    parseChange (context.under .strip) keyword lines
      = (parseChange (context.under .retain) keyword lines).map
          (·.mapValues context.options.rule.thin) := by
  rw [parseChange, parseChange]
  split
  · rw [parseAttributes_strip]
    cases parseAttributes (context.under .retain) lines with
    | error problem => rfl
    | ok attributes => cases attributes <;> rfl
  split
  · cases lines <;> rfl
  split
  · rw [parseModifications_strip]
    cases parseModifications (context.under .retain) lines with
    | error problem => rfl
    | ok modifications => cases modifications <;> rfl
  split
  · exact parseModifyDn_strip context lines
  · rfl

theorem parseBody_strip (dn : String) (controls : List Control) (lines : List String) :
    parseBody (context.under .strip) dn controls lines
      = (parseBody (context.under .retain) dn controls lines).map
          (·.mapValues context.options.rule.thin) := by
  have announced (policy : Policy) :
      parseChangeType (context.under policy) = parseChangeType context := rfl
  rw [parseBody, parseBody, announced, announced]
  cases lines.head?.bindM (parseChangeType context) with
  | error problem => rfl
  | ok keyword =>
      cases keyword with
      | some keyword =>
          simp only [ok_bind, parseChange_strip, bind_after_map, map_after_bind]
          rfl
      | none =>
          cases controls with
          | nil =>
              simp only [ok_bind, parseAttributes_strip, bind_after_map]
              cases parseAttributes (context.under .retain) lines <;> rfl
          | cons control others => rfl

theorem parseControls_under (policy : Policy) (lines : List String) :
    parseControls (context.under policy) lines = parseControls context lines := by
  induction lines with
  | nil => rfl
  | cons raw rest inductionHypothesis =>
      rw [parseControls, parseControls, inductionHypothesis]
      rfl

theorem parseRecord_strip (lines : List String) :
    parseRecord (context.under .strip) lines
      = (parseRecord (context.under .retain) lines).map
          (·.mapValues context.options.rule.thin) := by
  have named (policy : Policy) : parseDn (context.under policy) = parseDn context := rfl
  cases lines with
  | nil => rfl
  | cons first rest =>
      simp only [parseRecord, named, parseControls_under, map_after_bind, parseBody_strip]

theorem parse_strip (block : Block) :
    parse (context.under .strip) block
      = (parse (context.under .retain) block).map (·.mapValues context.options.rule.thin) := by
  rw [parse, parse]
  split
  · rfl
  · simp only [map_after_bind, parseRecord_strip]
    rfl

theorem decode_strip (block : Block) :
    block.decode (context.under .strip)
      = (block.decode (context.under .retain)).map
          (·.mapValues context.options.rule.thin) := by
  rw [decode, decode, parse_strip]
  cases parse (context.under .retain) block <;> rfl

end Block

end DirectoryInterchange

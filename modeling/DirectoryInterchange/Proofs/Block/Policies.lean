import DirectoryInterchange.Proofs.Block.Rejecting

/-!
One block under the three policies about repeated values.

Retaining gathers the lines by name.  Stripping gives the same with the first
of each value only, and rejecting the same or nothing.
-/

namespace DirectoryInterchange

/-- How many lines of a record stand in front of those with its values: the
distinguished name, and the controls and the kind of a change. -/
def Record.leadingLines : Record → Nat
  | entry .. => 1
  | change _ controls _ => controls.length + 2

namespace Block

variable (context : Context)

/-- The lines of a block behind those that lead a record. -/
def bodyLines (block : Block) (record : Record) : Parsed (List Line) := do
  let raws ← block.lines.mapM (applyTrailing context.options.trailingSpaces)
  (raws.drop record.leadingLines).mapM context.line

variable {context} {record : Record} {attributes : List Attribute}

/-! ### Retaining -/

theorem drop_of_parseControls
    {lines rest : List String} {controls : List Control}
    (parsed : parseControls context lines = .ok (controls, rest)) :
    rest = lines.drop controls.length := by
  induction lines generalizing controls with
  | nil =>
      cases parsed
      rfl
  | cons raw lines inductionHypothesis =>
      rw [parseControls] at parsed
      obtain ⟨line, -, parsed⟩ := bind_eq_ok.mp parsed
      split at parsed
      · obtain ⟨control, -, parsed⟩ := bind_eq_ok.mp parsed
        obtain ⟨⟨others, behind⟩, more, parsed⟩ := bind_eq_ok.mp parsed
        cases parsed
        exact inductionHypothesis more
      · cases parsed
        rfl

theorem parseAttributes_of_parseChange
    {keyword : String} {lines : List String}
    (parsed : parseChange context keyword lines = .ok (.add attributes)) :
    parseAttributes context lines = .ok attributes := by
  rw [parseChange] at parsed
  split at parsed
  · obtain ⟨found, collected, parsed⟩ := bind_eq_ok.mp parsed
    split at parsed
    · cases parsed
    · cases parsed
      exact collected
  split at parsed
  · split at parsed <;> cases parsed
  split at parsed
  · obtain ⟨modifications, -, parsed⟩ := bind_eq_ok.mp parsed
    split at parsed <;> cases parsed
  split at parsed
  · obtain ⟨newRdn, deleteOldRdn, newSuperior, impossible⟩ := modifyDn_of_parse parsed
    cases impossible
  · cases parsed

/-- The attributes of a record come from the lines behind its leading ones. -/
theorem parseAttributes_of_parseRecord
    {lines : List String} (parsed : parseRecord context lines = .ok record)
    (found : attributes ∈ record.attributes?) :
    parseAttributes context (lines.drop record.leadingLines) = .ok attributes := by
  cases lines with
  | nil => cases parsed
  | cons first rest =>
      rw [parseRecord] at parsed
      obtain ⟨dn, -, parsed⟩ := bind_eq_ok.mp parsed
      obtain ⟨⟨controls, body⟩, controlled, parsed⟩ := bind_eq_ok.mp parsed
      have behind := drop_of_parseControls controlled
      have parsed : parseBody context dn controls body = .ok record := parsed
      rw [parseBody] at parsed
      obtain ⟨keyword, -, parsed⟩ := bind_eq_ok.mp parsed
      cases keyword with
      | some keyword =>
          obtain ⟨kind, changed, parsed⟩ := bind_eq_ok.mp parsed
          cases parsed
          cases kind with
          | add own =>
              cases found
              rw [behind, List.drop_drop] at changed
              exact parseAttributes_of_parseChange changed
          | _ => cases found
      | none =>
          cases controls with
          | cons control others => cases parsed
          | nil =>
              obtain ⟨own, collected, parsed⟩ := bind_eq_ok.mp parsed
              cases parsed
              cases found
              rw [behind] at collected
              exact collected

theorem gather_bodyLines
    {block : Block} (decoded : block.decode (context.under .retain) = .ok record)
    (found : attributes ∈ record.attributes?) :
    (block.bodyLines context record).map gather = .ok attributes := by
  have parsed := decode_eq_ok_iff.mp decoded
  rw [parse] at parsed
  split at parsed
  · cases parsed
  · obtain ⟨raws, kept, parsed⟩ := bind_eq_ok.mp parsed
    have collected := parseAttributes_of_parseRecord parsed found
    rw [parseAttributes_retain] at collected
    have kept : block.lines.mapM (applyTrailing context.options.trailingSpaces) = .ok raws := kept
    rw [bodyLines, kept]
    exact collected

/-! ### The policies side by side -/

/-- What stripping and rejecting make of a block, by what retaining makes of it. -/
theorem decode_under_policies (context : Context) (block : Block) :
    block.decode (context.under .strip)
        = (block.decode (context.under .retain)).map
            (·.mapValues (firsts context.options.rule.same)) ∧
      (∀ record, block.decode (context.under .reject) = .ok record ↔
        block.decode (context.under .retain) = .ok record ∧
          ∀ attr ∈ record.targets, attr.values.Pairwise fun first second =>
            context.options.rule.same first second = false) ∧
      ∀ record, block.decode (context.under .retain) = .ok record →
        ∀ attributes ∈ record.attributes?,
          (block.bodyLines context record).map gather = .ok attributes :=
  ⟨decode_strip context block, decode_reject context block,
    fun _ decoded _ found => gather_bodyLines decoded found⟩

/-- Values of one attribute under two spellings, one of them twice. -/
def repeating : Block where
  lines := ["dn: a", "cn: X", "sn: z", "CN: y", "cn:  x"]

theorem decode_under_policies_repeating :
    let context : Context := ⟨{}, fun _ => none⟩
    let record := Record.entry "a" [⟨"cn", [[0x58], [0x79], [0x78]]⟩, ⟨"sn", [[0x7A]]⟩]
    repeating.decode (context.under .retain) = .ok record ∧
      repeating.decode (context.under .strip)
        = .ok (.entry "a" [⟨"cn", [[0x58], [0x79]]⟩, ⟨"sn", [[0x7A]]⟩]) ∧
      repeating.decode (context.under .reject) ≠ .ok record ∧
      (repeating.bodyLines context record).map gather
        = .ok [⟨"cn", [[0x58], [0x79], [0x78]]⟩, ⟨"sn", [[0x7A]]⟩] := by
  intro context record
  obtain ⟨stripped, rejected, gathered⟩ := decode_under_policies context repeating
  have retained : repeating.decode (context.under .retain) = .ok record := by decide +kernel
  refine ⟨retained, ?_, fun same => ?_, gathered record retained _ rfl⟩
  · rw [stripped, retained]
    decide +kernel
  · have apart := ((rejected record).mp same).2 ⟨"cn", [[0x58], [0x79], [0x78]]⟩ (by decide)
    revert apart
    decide +kernel

end Block

end DirectoryInterchange

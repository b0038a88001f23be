/-!
Steps that may fail, one after another: what a sequence of them that succeeds
went through.
-/

namespace DirectoryInterchange

variable {Problem First Second : Type}

@[simp] theorem ok_bind (value : First) (following : First → Except Problem Second) :
    ((.ok value : Except Problem First) >>= following) = following value := rfl

@[simp] theorem error_bind (problem : Problem) (following : First → Except Problem Second) :
    ((.error problem : Except Problem First) >>= following) = .error problem := rfl

@[simp] theorem pure_eq_ok (value : First) : (pure value : Except Problem First) = .ok value := rfl

@[simp] theorem throw_eq_error (problem : Problem) :
    (throw problem : Except Problem First) = .error problem := rfl

theorem bind_eq_ok {step : Except Problem First} {following : First → Except Problem Second}
    {result : Second} :
    (step >>= following) = .ok result ↔
      ∃ value, step = .ok value ∧ following value = .ok result := by
  cases step with
  | error problem =>
      constructor
      · intro failed
        cases failed
      · rintro ⟨value, absent, -⟩
        cases absent
  | ok value =>
      constructor
      · exact fun followed => ⟨value, rfl, followed⟩
      · rintro ⟨other, same, followed⟩
        cases same
        exact followed

theorem map_eq_ok {step : Except Problem First} {change : First → Second} {result : Second} :
    step.map change = .ok result ↔ ∃ value, step = .ok value ∧ change value = result := by
  cases step with
  | error problem =>
      constructor
      · intro failed
        cases failed
      · rintro ⟨value, absent, -⟩
        cases absent
  | ok value =>
      constructor
      · exact fun changed => ⟨value, rfl, Except.ok.inj changed⟩
      · rintro ⟨other, same, changed⟩
        cases same
        exact congrArg Except.ok changed

theorem bind_after_map (step : Except Problem First) (change : First → First)
    (following : First → Except Problem Second) :
    (step.map change >>= following) = step >>= fun value => following (change value) := by
  cases step <;> rfl

theorem map_after_bind (step : Except Problem First)
    (following : First → Except Problem Second) (change : Second → Second) :
    (step >>= following).map change = step >>= fun value => (following value).map change := by
  cases step <;> rfl

end DirectoryInterchange

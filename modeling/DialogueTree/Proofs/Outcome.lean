/-!
# Outcomes

How programs that may fail go on from a success and from a failure.
-/

namespace DialogueTree.Outcome

variable {ε ε' α β : Type}

@[simp] theorem map_ok (f : α → β) (a : α) : f <$> (.ok a : Except ε α) = .ok (f a) := rfl

@[simp] theorem map_error (f : α → β) (e : ε) : f <$> (.error e : Except ε α) = .error e := rfl

@[simp] theorem bind_ok (a : α) (f : α → Except ε β) : ((.ok a : Except ε α) >>= f) = f a := rfl

@[simp] theorem bind_error (e : ε) (f : α → Except ε β) :
    ((.error e : Except ε α) >>= f) = .error e := rfl

@[simp] theorem throw_eq (e : ε) : (throw e : Except ε α) = .error e := rfl

theorem bind_eq_error {x : Except ε α} {f : α → Except ε β} {e : ε} :
    x >>= f = .error e ↔ x = .error e ∨ ∃ a, x = .ok a ∧ f a = .error e := by
  cases x <;> simp

theorem bind_eq_ok {x : Except ε α} {f : α → Except ε β} {b : β} :
    x >>= f = .ok b ↔ ∃ a, x = .ok a ∧ f a = .ok b := by
  cases x <;> simp

theorem map_eq_error {x : Except ε α} {f : α → β} {e : ε} : f <$> x = .error e ↔ x = .error e := by
  cases x <;> simp

@[simp] theorem mapError_ok (f : ε → ε') (a : α) :
    (.ok a : Except ε α).mapError f = .ok a := rfl

@[simp] theorem mapError_error (f : ε → ε') (e : ε) :
    (.error e : Except ε α).mapError f = .error (f e) := rfl

theorem mapError_eq_ok {x : Except ε α} {f : ε → ε'} {a : α} :
    x.mapError f = .ok a ↔ x = .ok a := by
  cases x <;> simp

@[simp] theorem toOption_ok (a : α) : (.ok a : Except ε α).toOption = some a := rfl

@[simp] theorem toOption_error (e : ε) : (.error e : Except ε α).toOption = none := rfl

theorem toOption_eq_some {x : Except ε α} {a : α} : x.toOption = some a ↔ x = .ok a := by
  cases x <;> simp [Except.toOption]

theorem toOption_eq_none {x : Except ε α} : x.toOption = none ↔ ∃ e, x = .error e := by
  cases x <;> simp [Except.toOption]

/-- Steps one after another fail where the first of them fails. -/
theorem foldlM_eq_error {step : β → α → Except ε β} {b : β} {as : List α} {e : ε} :
    as.foldlM step b = .error e ↔ ∃ before a rest b', as = before ++ a :: rest ∧
      before.foldlM step b = .ok b' ∧ step b' a = .error e := by
  constructor
  · intro h
    induction as generalizing b with
    | nil => cases h
    | cons a as ih =>
      rw [List.foldlM_cons, bind_eq_error] at h
      rcases h with h | ⟨b₁, hb₁, h⟩
      · exact ⟨[], a, as, b, rfl, rfl, h⟩
      · obtain ⟨before, a', rest, b', rfl, hbefore, h⟩ := ih h
        refine ⟨a :: before, a', rest, b', rfl, ?_, h⟩
        rw [List.foldlM_cons, hb₁, bind_ok, hbefore]
  · rintro ⟨before, a, rest, b', rfl, hbefore, h⟩
    rw [List.foldlM_append, hbefore, bind_ok, List.foldlM_cons, h, bind_error]

end DialogueTree.Outcome

/-!
# Programs that work in place

A program changes a state step by step and may fail on the way. What it has changed before it fails
stays changed, so that a failure leaves the state alone only where everything that may fail comes
before the first change.

Results:
* `InPlace.exec_bind`: programs one after another.
* `InPlace.whole`: what a program comes to that does all of a change or nothing.
-/

namespace DialogueTree

/-- A program that changes a state and may fail. -/
abbrev InPlace (σ ε α : Type) := ExceptT ε (StateM σ) α

namespace InPlace

variable {σ ε α β : Type}

/-- What a program comes to, and the state after it. -/
def exec (x : InPlace σ ε α) (s : σ) : Except ε α × σ := (x.run.run s).run

/-- Asks for something that the state may not have. -/
def ask (f : σ → Except ε α) : InPlace σ ε α := do ExceptT.mk (pure (f (← get)))

/-- Goes no further where a change is not allowed. -/
def refuseIf (p : Prop) [Decidable p] (e : ε) : InPlace σ ε Unit := if p then throw e else pure ()

/-- What a program comes to that does all of a change or nothing. -/
def whole (s : σ) : Except ε σ → Except ε Unit × σ
  | .ok s' => (.ok (), s')
  | .error e => (.error e, s)

theorem exec_bind (x : InPlace σ ε α) (f : α → InPlace σ ε β) (s : σ) :
    (x >>= f).exec s = match x.exec s with
      | (.ok a, s') => (f a).exec s'
      | (.error e, s') => (.error e, s') := by
  have hrun : (x >>= f).exec s = match x.exec s with
      | (r, s') => exec (ExceptT.mk (ExceptT.bindCont f r)) s' := rfl
  rw [hrun]
  rcases x.exec s with ⟨⟨e⟩ | ⟨a⟩, s'⟩ <;> rfl

@[simp] theorem exec_get (s : σ) : exec (get : InPlace σ ε σ) s = (.ok s, s) := rfl

@[simp] theorem exec_modify (f : σ → σ) (s : σ) :
    exec (modify f : InPlace σ ε PUnit) s = (.ok (), f s) := rfl

@[simp] theorem exec_ask (f : σ → Except ε α) (s : σ) : (ask f).exec s = (f s, s) := rfl

theorem exec_refuseIf (p : Prop) [Decidable p] (e : ε) (s : σ) :
    (refuseIf p e).exec s = (if p then .error e else .ok (), s) := by
  unfold refuseIf
  split <;> rfl

end InPlace

end DialogueTree

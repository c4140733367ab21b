/-!
# `DeviceRegistry.Proofs.Steps`: computations that can fail, step by step

Readers and decoders are computations in `Except`. The `simp` lemmas run a step whose result is
known. `except_bind_eq_ok` and its companions take a computation that has succeeded apart into the
steps that have, `except_bind_eq_error` one that has failed into those before the failure.
-/

set_option autoImplicit false

namespace DeviceRegistry

variable {ε ε' α β : Type}

/-- A first step whose result is known hands it to the second one, so a reader is run step by step
by rewriting with what is known of each step. -/
@[simp]
theorem except_bind_ok (a : α) (f : α → Except ε β) : (Except.ok a >>= f) = f a := rfl

/-- A first step that is known to fail decides the result of both, whatever would come after it. -/
@[simp]
theorem except_bind_error (e : ε) (f : α → Except ε β) : (Except.error e >>= f) = .error e := rfl

/-- In `Except` to return a value is to succeed with it, which rewriting needs where a computation
ends in `pure`. -/
@[simp]
theorem except_pure (a : α) : (pure a : Except ε α) = .ok a := rfl

/-- A result that is known is changed at once, so that a decoder with a conversion behind it can be
run by rewriting. -/
@[simp]
theorem except_map_ok (a : α) (f : α → β) : (Except.ok a : Except ε α).map f = .ok (f a) := rfl

/-- A failure stays what it is when only the result would be changed, and so the conversion behind a
decoder is never reached. -/
@[simp]
theorem except_map_error (e : ε) (f : α → β) : (Except.error e).map f = .error e := rfl

/-- Two steps in a row succeed when the first does and the second does with its result. Nearly every
proof about a successful reader or decoder starts by taking it apart with this. -/
theorem except_bind_eq_ok {x : Except ε α} {f : α → Except ε β} {b : β} :
    (x >>= f) = .ok b ↔ ∃ a, x = .ok a ∧ f a = .ok b := by
  cases x with
  | error e => simp
  | ok a => simp

/-- Two steps in a row fail when the first does, or when the first succeeds and the second fails
with its result. It takes apart the statements on which errors can occur. -/
theorem except_bind_eq_error {x : Except ε α} {f : α → Except ε β} {e : ε} :
    (x >>= f) = .error e ↔ x = .error e ∨ ∃ a, x = .ok a ∧ f a = .error e := by
  cases x with
  | error e' => simp
  | ok a => simp

/-- A changed result comes from a result: a conversion neither makes a failure succeed nor invents a
value. -/
theorem except_map_eq_ok {x : Except ε α} {f : α → β} {b : β} :
    x.map f = .ok b ↔ ∃ a, x = .ok a ∧ f a = b := by
  cases x with
  | error e => simp
  | ok a => simp

/-- Changing the error does not touch a result, so statements on success need not look at how a
layer reports the errors of the layer below it. -/
theorem except_mapError_eq_ok {x : Except ε α} {f : ε → ε'} {a : α} :
    x.mapError f = .ok a ↔ x = .ok a := by
  cases x with
  | error e =>
    show Except.error (f e) = .ok a ↔ _
    simp
  | ok b =>
    show Except.ok b = .ok a ↔ _
    simp

/-- A result that is there is the result. Equality of options of results can be decided where
equality of computations that fail cannot, so concrete runs are stated by `toOption` first. -/
theorem except_eq_ok_of_toOption {x : Except ε α} {a : α} (h : x.toOption = some a) :
    x = .ok a := by
  cases x with
  | error e => cases h
  | ok b => exact congrArg Except.ok (Option.some.inj h)

end DeviceRegistry

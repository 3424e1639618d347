import KotlinStubs.Event
import KotlinStubs.Fault
import KotlinStubs.Kotlin.Descriptor

/-!
# Translations

A `Translation α` is the outcome of translating something: a result or the fault that ended it,
with the events and the rejections noted up to there.  Both lists outlive a fault.

* The laws of monads hold (`LawfulMonad Translation`).
* `bindWith` is `bind` for a continuation that needs to know where its argument comes from.
* `rescue` goes on after a fault that ends one statement only.
-/

namespace KotlinStubs

/-- A result or a fault, with what was noted on the way. -/
structure Translation (α : Type) where
  log : List Event := []
  rejections : List Rejection := []
  result : Except Fault α

namespace Translation

variable {α β : Type}

/-- What comes after the events and rejections of `x`. -/
def after (x : Translation α) (y : Translation β) : Translation β :=
  ⟨x.log ++ y.log, x.rejections ++ y.rejections, y.result⟩

/-- Continues with the result of `x`; the continuation learns that it is this result. -/
def bindWith (x : Translation α) (f : (a : α) → x.result = .ok a → Translation β) :
    Translation β :=
  match h : x.result with
  | .ok a => x.after (f a h)
  | .error e => ⟨x.log, x.rejections, .error e⟩

instance : Monad Translation where
  pure a := ⟨[], [], .ok a⟩
  bind x f := x.bindWith fun a _ => f a

/-- Notes an event. -/
def note (e : Event) : Translation Unit := ⟨[e], [], .ok ()⟩

/-- Records a rejection. -/
def reject (r : Rejection) : Translation Unit := ⟨[], [r], .ok ()⟩

/-- Ends the translation. -/
def fail (e : Fault) : Translation α := ⟨[], [], .error e⟩

/-- Goes on after a fault of `x` that ends one statement only, given with its line; what `x` has
noted is kept. -/
def rescue (x : Translation α) (recover : Fault → Nat → Translation α) : Translation α :=
  match x.result with
  | .error e =>
    match e.line? with
    | some line => x.after (recover e line)
    | none => x
  | .ok _ => x

/-! ## Laws -/

@[simp] theorem log_pure (a : α) : (pure a : Translation α).log = [] := rfl

@[simp] theorem rejections_pure (a : α) : (pure a : Translation α).rejections = [] := rfl

@[simp] theorem result_pure (a : α) : (pure a : Translation α).result = .ok a := rfl

theorem bindWith_ok {x : Translation α} {f : (a : α) → x.result = .ok a → Translation β} {a : α}
    (h : x.result = .ok a) : x.bindWith f = x.after (f a h) := by
  unfold bindWith
  split
  · next b hb => cases Except.ok.inj (h.symm.trans hb); rfl
  · next e he => rw [h] at he; cases he

theorem bindWith_error {x : Translation α} {f : (a : α) → x.result = .ok a → Translation β}
    {e : Fault} (h : x.result = .error e) :
    x.bindWith f = ⟨x.log, x.rejections, .error e⟩ := by
  unfold bindWith
  split
  · next b hb => rw [h] at hb; cases hb
  · next e' he => rw [h] at he; cases he; rfl

theorem bind_ok {x : Translation α} {f : α → Translation β} {a : α} (h : x.result = .ok a) :
    (x >>= f) = x.after (f a) :=
  bindWith_ok h

theorem bind_error {x : Translation α} {f : α → Translation β} {e : Fault}
    (h : x.result = .error e) : (x >>= f) = ⟨x.log, x.rejections, .error e⟩ :=
  bindWith_error h

/-- A composite translation succeeds just if both of its parts do. -/
@[simp] theorem result_bind_eq_ok {x : Translation α} {f : α → Translation β} {b : β} :
    (x >>= f).result = .ok b ↔ ∃ a, x.result = .ok a ∧ (f a).result = .ok b := by
  cases h : x.result with
  | error e => simp [bind_error h]
  | ok a => simp [bind_ok h, after]

instance : LawfulMonad Translation := LawfulMonad.mk' Translation
  (by
    intro α x
    cases h : x.result with
    | error e => exact (bind_error h).trans (by rw [← h])
    | ok a =>
      refine (bind_ok h).trans ?_
      cases x
      cases h
      simp [after])
  (by
    intro α β a f
    refine (bind_ok (x := pure a) rfl).trans ?_
    simp only [after, log_pure, rejections_pure, List.nil_append])
  (by
    intro α β γ x f g
    cases h : x.result with
    | error e => rw [bind_error h, bind_error h, bind_error rfl]
    | ok a =>
      rw [bind_ok h, bind_ok h]
      cases hf : (f a).result with
      | error e => rw [bind_error (x := x.after (f a)) hf, bind_error hf]; rfl
      | ok b =>
        rw [bind_ok (x := x.after (f a)) hf, bind_ok hf]
        simp [after, List.append_assoc])

@[simp] theorem result_map_eq_ok {x : Translation α} {f : α → β} {b : β} :
    (f <$> x).result = .ok b ↔ ∃ a, x.result = .ok a ∧ f a = b := by
  rw [map_eq_pure_bind, result_bind_eq_ok]
  simp only [result_pure, Except.ok.injEq]

end Translation

end KotlinStubs

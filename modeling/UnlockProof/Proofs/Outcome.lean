/-!
# Outcomes that may be failures

A computation in several steps succeeds exactly if each of its steps does, and it fails with the
failure of its first step that fails. A check lets pass exactly what does not meet its condition.
The statements take a computation apart step by step. Where only the kind of a failure matters, it
is enough that no step fails otherwise.
-/

namespace UnlockProof.Outcome

variable {ε ε' α β : Type}

theorem bind_eq_ok_iff {x : Except ε α} {f : α → Except ε β} {b : β} :
    x >>= f = .ok b ↔ ∃ a, x = .ok a ∧ f a = .ok b := by
  cases x with
  | error e => simp [bind, Except.bind]
  | ok a => simp [bind, Except.bind]

theorem map_eq_ok_iff {x : Except ε α} {f : α → β} {b : β} :
    x.map f = .ok b ↔ ∃ a, x = .ok a ∧ f a = b := by
  cases x with
  | error e => simp [Except.map]
  | ok a => simp [Except.map]

@[simp] theorem mapError_error {e : ε} {f : ε → ε'} :
    (.error e : Except ε α).mapError f = .error (f e) := rfl

@[simp] theorem mapError_ok {a : α} {f : ε → ε'} : (.ok a : Except ε α).mapError f = .ok a := rfl

theorem mapError_eq_ok_iff {x : Except ε α} {f : ε → ε'} {a : α} :
    x.mapError f = .ok a ↔ x = .ok a := by
  cases x with
  | error e => simp
  | ok a => simp

theorem pure_eq_ok_iff {a b : α} : (pure a : Except ε α) = .ok b ↔ a = b := by
  simp [pure, Except.pure]

/-- A check fails if its condition holds and otherwise lets the computation go on. -/
theorem check_eq_ok_iff {c : Prop} [Decidable c] {e : ε} {next : Unit → Except ε α}
    {x : Except ε α} {a : α} :
    (if c then throw e >>= next else x) = .ok a ↔ ¬ c ∧ x = .ok a := by
  by_cases hc : c
  · simp [hc, bind, Except.bind, throw, throwThe, MonadExceptOf.throw]
  · simp [hc]

variable {e : ε} {p : ε → Prop}

theorem bind_eq_error_iff {x : Except ε α} {f : α → Except ε β} :
    x >>= f = .error e ↔ x = .error e ∨ ∃ a, x = .ok a ∧ f a = .error e := by
  cases x with
  | error e' => simp [bind, Except.bind]
  | ok a => simp [bind, Except.bind]

theorem map_eq_error_iff {x : Except ε α} {f : α → β} : x.map f = .error e ↔ x = .error e := by
  cases x with
  | error e' => simp [Except.map]
  | ok a => simp [Except.map]

theorem mapError_eq_error_iff {x : Except ε' α} {f : ε' → ε} :
    x.mapError f = .error e ↔ ∃ e', x = .error e' ∧ f e' = e := by
  cases x with
  | error e' => simp
  | ok a => simp

theorem pure_ne_error {a : α} : (pure a : Except ε α) ≠ .error e := nofun

theorem check_eq_error_iff {c : Prop} [Decidable c] {e' : ε} {next : Unit → Except ε α}
    {x : Except ε α} :
    (if c then throw e' >>= next else x) = .error e ↔ c ∧ e' = e ∨ ¬ c ∧ x = .error e := by
  by_cases hc : c
  · simp [hc, bind, Except.bind, throw, throwThe, MonadExceptOf.throw]
  · simp [hc]

/-- A computation as a check, without its result. -/
def asCheck (x : Except ε α) : Except ε Unit := x.map fun _ => ()

theorem asCheck_eq_ok_iff {x : Except ε α} : asCheck x = .ok () ↔ ∃ a, x = .ok a := by
  rw [asCheck, map_eq_ok_iff]
  simp only [and_true]

theorem asCheck_eq_error_iff {x : Except ε α} : asCheck x = .error e ↔ x = .error e :=
  map_eq_error_iff

/-- A step is a check of its own if its result does not matter to the failures behind it. -/
theorem asCheck_bind {x : Except ε α} {f : α → Except ε β} {rest : Except ε Unit}
    (h : ∀ a, asCheck (f a) = rest) : asCheck (x >>= f) = asCheck x >>= fun _ => rest := by
  cases x with
  | error e => rfl
  | ok a => exact h a

theorem forM_eq_ok_iff {xs : List α} {f : α → Except ε Unit} :
    xs.forM f = .ok () ↔ ∀ x ∈ xs, f x = .ok () := by
  induction xs with
  | nil => simp [pure, Except.pure]
  | cons x xs ih =>
      rw [List.forM, bind_eq_ok_iff, List.forall_mem_cons]
      constructor
      · rintro ⟨⟨⟩, hx, hxs⟩
        exact ⟨hx, ih.mp hxs⟩
      · rintro ⟨hx, hxs⟩
        exact ⟨(), hx, ih.mpr hxs⟩

theorem forM_congr {xs : List α} {f g : α → Except ε Unit} (h : ∀ x ∈ xs, f x = g x) :
    xs.forM f = xs.forM g := by
  induction xs with
  | nil => rfl
  | cons x xs ih =>
      obtain ⟨hx, hxs⟩ := List.forall_mem_cons.mp h
      rw [List.forM, List.forM, hx, ih hxs]

/-- Checks in a row fail as the first of them that fails. -/
theorem forM_eq_error_iff {xs : List α} {f : α → Except ε Unit} :
    xs.forM f = .error e ↔ ∃ before x after, xs = before ++ x :: after ∧
      (∀ y ∈ before, f y = .ok ()) ∧ f x = .error e := by
  induction xs with
  | nil => simp [pure, Except.pure]
  | cons x xs ih =>
      rw [List.forM, bind_eq_error_iff]
      constructor
      · rintro (hx | ⟨⟨⟩, hx, hxs⟩)
        · exact ⟨[], x, xs, rfl, nofun, hx⟩
        · obtain ⟨before, y, after, rfl, hbefore, hy⟩ := ih.mp hxs
          exact ⟨x :: before, y, after, rfl, List.forall_mem_cons.mpr ⟨hx, hbefore⟩, hy⟩
      · rintro ⟨before, y, after, hsplit, hbefore, hy⟩
        cases before with
        | nil =>
            obtain ⟨rfl, rfl⟩ := List.cons.inj hsplit
            exact Or.inl hy
        | cons z before =>
            obtain ⟨rfl, rfl⟩ := List.cons.inj hsplit
            obtain ⟨hx, hbefore⟩ := List.forall_mem_cons.mp hbefore
            exact Or.inr ⟨(), hx, ih.mpr ⟨before, y, after, rfl, hbefore, hy⟩⟩

/-- Says that a computation fails in one way only, if at all. -/
def FailsOnly (p : ε → Prop) (x : Except ε α) : Prop := ∀ e, x = .error e → p e

@[simp] theorem failsOnly_ok {a : α} : FailsOnly p (.ok a : Except ε α) := nofun

@[simp] theorem failsOnly_pure {a : α} : FailsOnly p (pure a : Except ε α) := nofun

@[simp] theorem failsOnly_error_iff : FailsOnly p (.error e : Except ε α) ↔ p e := by
  simp [FailsOnly]

@[simp] theorem failsOnly_throw_iff : FailsOnly p (throw e : Except ε α) ↔ p e :=
  failsOnly_error_iff

theorem failsOnly_bind_iff {x : Except ε α} {f : α → Except ε β} :
    FailsOnly p (x >>= f) ↔ FailsOnly p x ∧ ∀ a, x = .ok a → FailsOnly p (f a) := by
  cases x with
  | error e => simp [FailsOnly, bind, Except.bind]
  | ok a => simp [FailsOnly, bind, Except.bind]

theorem failsOnly_map_iff {x : Except ε α} {f : α → β} :
    FailsOnly p (x.map f) ↔ FailsOnly p x := by
  cases x with
  | error e => simp [Except.map]
  | ok a => simp [Except.map]

theorem FailsOnly.mapError {f : ε' → ε} (h : ∀ e, p (f e)) (x : Except ε' α) :
    FailsOnly p (x.mapError f) := by
  cases x with
  | error e => exact failsOnly_error_iff.mpr (h e)
  | ok a => exact failsOnly_ok

end UnlockProof.Outcome

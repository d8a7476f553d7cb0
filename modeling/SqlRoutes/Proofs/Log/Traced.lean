import SqlRoutes.Log.Record

namespace SqlRoutes

/-- The error, if the outcome is one, has the property. -/
def Throws {ε α : Type} (outcome : Except ε α) (P : ε → Prop) : Prop :=
  ∀ e, outcome = .error e → P e

section Throws

variable {ε ε' α β : Type} {P : ε → Prop}

theorem throws_ok (a : α) : Throws (.ok a : Except ε α) P := by
  intro e failed
  cases failed

theorem throws_error {e : ε} : Throws (.error e : Except ε α) P ↔ P e := by
  constructor
  · intro all
    exact all e rfl
  · intro holds other same
    obtain rfl := Except.error.inj same
    exact holds

theorem Throws.mono {Q : ε → Prop} {outcome : Except ε α} (all : Throws outcome P)
    (weaker : ∀ e, P e → Q e) : Throws outcome Q :=
  fun e failed => weaker e (all e failed)

theorem Throws.bind {x : Except ε α} {f : α → Except ε β} (first : Throws x P)
    (second : ∀ a, x = .ok a → Throws (f a) P) : Throws (x >>= f) P := by
  cases x with
  | ok a => exact second a rfl
  | error e => exact throws_error.2 (first e rfl)

theorem throws_mapError {f : ε' → ε} {x : Except ε' α} :
    Throws (x.mapError f) P ↔ Throws x fun e => P (f e) := by
  cases x with
  | ok a => exact iff_of_true (throws_ok a) (throws_ok a)
  | error e =>
    constructor
    · intro all
      exact throws_error.2 (all (f e) rfl)
    · intro all
      exact throws_error.2 (all e rfl)

theorem throws_mapM {f : α → Except ε β} {items : List α}
    (each : ∀ item ∈ items, Throws (f item) P) : Throws (items.mapM f) P := by
  induction items with
  | nil => exact throws_ok []
  | cons item items ih =>
    obtain ⟨first, others⟩ := List.forall_mem_cons.1 each
    rw [List.mapM_cons]
    exact first.bind fun _ _ => (ih others).bind fun _ _ => throws_ok _

end Throws

theorem mapError_mapError {ε ε' ε'' α : Type} (f : ε → ε') (g : ε' → ε'') (x : Except ε α) :
    (x.mapError f).mapError g = x.mapError fun e => g (f e) := by
  cases x <;> rfl

theorem mapError_bind {ε ε' α β : Type} (f : ε → ε') (x : Except ε α) (g : α → Except ε β) :
    (x >>= g).mapError f = x.mapError f >>= fun a => (g a).mapError f := by
  cases x <;> rfl

theorem mapError_eq_ok {ε ε' α : Type} {f : ε → ε'} {x : Except ε α} {a : α} :
    x.mapError f = .ok a ↔ x = .ok a := by
  cases x with
  | ok b =>
    constructor
    · intro same
      exact congrArg Except.ok (Except.ok.inj same)
    · intro same
      exact congrArg Except.ok (Except.ok.inj same)
  | error e =>
    constructor
    · intro same
      cases same
    · intro same
      cases same

namespace Log.Traced

variable {ε ε' α β : Type}

@[simp] theorem outcome_pure (a : α) : (pure a : Traced ε α).outcome = .ok a := rfl

@[simp] theorem outcome_log (record : Record) : (log record : Traced ε Unit).outcome = .ok () := rfl

@[simp] theorem outcome_fail (e : ε) : (fail e : Traced ε α).outcome = .error e := rfl

@[simp] theorem outcome_ofExcept (outcome : Except ε α) :
    (ofExcept outcome).outcome = outcome := rfl

@[simp] theorem outcome_mapError (f : ε → ε') (x : Traced ε α) :
    (x.mapError f).outcome = x.outcome.mapError f := rfl

theorem outcome_bind (x : Traced ε α) (f : α → Traced ε β) :
    (x >>= f).outcome = x.outcome >>= fun a => (f a).outcome := by
  change (Traced.bind x f).outcome = _
  unfold Traced.bind
  cases x.outcome with
  | ok a => rfl
  | error e => rfl

theorem outcome_bind_of_ok {x : Traced ε α} {a : α} (ran : x.outcome = .ok a)
    (f : α → Traced ε β) : (x >>= f).outcome = (f a).outcome := by
  rw [outcome_bind, ran]
  rfl

theorem outcome_bind_eq_ok {x : Traced ε α} {f : α → Traced ε β} {b : β} :
    (x >>= f).outcome = .ok b ↔ ∃ a, x.outcome = .ok a ∧ (f a).outcome = .ok b := by
  rw [outcome_bind]
  cases x.outcome with
  | ok a => simp [Bind.bind, Except.bind]
  | error e => simp [Bind.bind, Except.bind]

theorem outcome_mapError_eq_ok {f : ε → ε'} {x : Traced ε α} {a : α} :
    (x.mapError f).outcome = .ok a ↔ x.outcome = .ok a :=
  mapError_eq_ok

theorem outcome_mapError_bind_of_ok {x : Traced ε α} {a : α} (ran : x.outcome = .ok a)
    (f : ε → ε') (g : α → Traced ε' β) : (x.mapError f >>= g).outcome = (g a).outcome :=
  outcome_bind_of_ok (outcome_mapError_eq_ok.2 ran) g

theorem outcome_mapError_bind_of_error {x : Traced ε α} {e : ε} (failed : x.outcome = .error e)
    (f : ε → ε') (g : α → Traced ε' β) : (x.mapError f >>= g).outcome = .error (f e) := by
  rw [outcome_bind, outcome_mapError, failed]
  rfl

section Records

variable {x : Traced ε α} {records : List Record} {a : α} {e : ε} (f : α → Traced ε β)

theorem bind_of_ok (ran : x = ⟨records, .ok a⟩) :
    x >>= f = ⟨records ++ (f a).records, (f a).outcome⟩ := by
  rw [ran]
  rfl

theorem bind_of_error (failed : x = ⟨records, .error e⟩) : x >>= f = ⟨records, .error e⟩ := by
  rw [failed]
  rfl

theorem bind_of_silent (ran : x = ⟨[], .ok a⟩) : x >>= f = f a := by
  rw [ran]
  rfl

theorem bind_pure_eq (x : Traced ε α) (f : α → β) :
    (x >>= fun a => pure (f a)) = ⟨x.records, x.outcome.map f⟩ := by
  obtain ⟨records, outcome⟩ := x
  cases outcome with
  | error e => rfl
  | ok a => exact congrArg (mk · _) (List.append_nil records)

theorem ofExcept_bind (outcome : Except ε α) (f : α → Except ε β) :
    ofExcept (outcome >>= f) = ofExcept outcome >>= fun a => ofExcept (f a) := by
  cases outcome <;> rfl

theorem bind_assoc {γ : Type} (x : Traced ε α) (g : β → Traced ε γ) :
    x >>= f >>= g = x >>= fun a => f a >>= g := by
  obtain ⟨records, outcome⟩ := x
  cases outcome with
  | error e => rfl
  | ok a =>
    rw [bind_of_ok f rfl, bind_of_ok _ rfl]
    cases ran : (f a).outcome with
    | error e =>
      have first : f a = ⟨(f a).records, .error e⟩ := by rw [← ran]
      rw [bind_of_error g rfl, bind_of_error g first]
    | ok b =>
      have first : f a = ⟨(f a).records, .ok b⟩ := by rw [← ran]
      rw [bind_of_ok g rfl, bind_of_ok g first, List.append_assoc]

end Records

end Log.Traced

end SqlRoutes

import Mathlib.Data.List.Forall2

/-!
# Results of steps that may fail

* `bind_eq_ok`: a sequence succeeds when each of its steps does.
* `bind_eq_error`: it fails as its first step does, or else as the rest does.
* `mapM_eq_ok`: a step taken for every element of a list succeeds when it does for each of them.
* `mapM_eq_error`: it fails as the step does for one of them.
* `run_bind_eq`: what a step has changed before a failure stays changed.
-/

namespace NativeBridge

variable {ε α β : Type}

theorem bind_eq_ok {first : Except ε α} {next : α → Except ε β} {result : β} :
    first >>= next = .ok result ↔ ∃ value, first = .ok value ∧ next value = .ok result := by
  cases first with
  | error fault => simp [bind, Except.bind]
  | ok value => simp [bind, Except.bind]

theorem bind_eq_error {first : Except ε α} {next : α → Except ε β} {fault : ε} :
    first >>= next = .error fault ↔
      first = .error fault ∨ ∃ value, first = .ok value ∧ next value = .error fault := by
  cases first with
  | error other => simp [bind, Except.bind]
  | ok value => simp [bind, Except.bind]

theorem bind_pure_eq_error {first : Except ε α} {f : α → β} {fault : ε} :
    (first >>= fun value => pure (f value)) = .error fault ↔ first = .error fault := by
  cases first with
  | error other => simp [bind, Except.bind]
  | ok value => simp [bind, Except.bind, pure, Except.pure]

theorem pure_eq_ok {value result : α} :
    (pure value : Except ε α) = .ok result ↔ value = result := by
  simp [pure, Except.pure]

theorem mapM_eq_ok {step : α → Except ε β} {elements : List α} {results : List β} :
    elements.mapM step = .ok results ↔
      List.Forall₂ (fun element result => step element = .ok result) elements results := by
  induction elements generalizing results with
  | nil =>
      rw [List.mapM_nil, pure_eq_ok, List.forall₂_nil_left_iff]
      exact eq_comm
  | cons element rest ih =>
      rw [List.mapM_cons, List.forall₂_cons_left_iff]
      simp only [bind_eq_ok, pure_eq_ok, ih]
      constructor
      · rintro ⟨result, taken, others, remaining, rfl⟩
        exact ⟨result, others, taken, remaining, rfl⟩
      · rintro ⟨result, others, taken, remaining, rfl⟩
        exact ⟨result, taken, others, remaining, rfl⟩

theorem mapM_eq_error {step : α → Except ε β} {elements : List α} {fault : ε}
    (failed : elements.mapM step = .error fault) :
    ∃ element ∈ elements, step element = .error fault := by
  induction elements with
  | nil => cases failed
  | cons element rest ih =>
      rw [List.mapM_cons] at failed
      cases taken : step element with
      | error other =>
          rw [taken] at failed
          cases failed
          exact ⟨element, List.mem_cons_self, taken⟩
      | ok result =>
          rw [taken] at failed
          cases remaining : rest.mapM step with
          | error other =>
              rw [remaining] at failed
              cases failed
              obtain ⟨later, member, stopped⟩ := ih remaining
              exact ⟨later, List.mem_cons_of_mem _ member, stopped⟩
          | ok results =>
              rw [remaining] at failed
              cases failed

theorem toOption_eq_some {attempt : Except ε α} {value : α}
    (made : attempt.toOption = some value) : attempt = .ok value := by
  cases attempt with
  | error fault => cases made
  | ok other => rw [Option.some.inj made]

theorem map_eq_ok {first : Except ε α} {f : α → β} {result : β} :
    f <$> first = .ok result ↔ ∃ value, first = .ok value ∧ f value = result := by
  cases first with
  | error fault => simp [Functor.map, Except.map]
  | ok value => simp [Functor.map, Except.map]

theorem run_bind_eq {σ : Type} (action : ExceptT ε (StateM σ) α) (next : α → ExceptT ε (StateM σ) β)
    (before : σ) :
    (action >>= next).run.run before = match action.run.run before with
      | (.ok value, after) => (next value).run.run after
      | (.error fault, after) => (.error fault, after) := by
  simp only [ExceptT.run_bind, StateT.run_bind]
  show (match StateT.run (ExceptT.run action) before with | (result, after) => _) = _
  rcases StateT.run (ExceptT.run action) before with ⟨_ | value, after⟩ <;> rfl

theorem forall₂_getElem? {related : α → β → Prop} {elements : List α} {others : List β}
    (pairs : List.Forall₂ related elements others) {index : Nat} {element : α}
    (found : elements[index]? = some element) :
    ∃ other, others[index]? = some other ∧ related element other := by
  obtain ⟨inside, rfl⟩ := List.getElem?_eq_some_iff.mp found
  have inside' := pairs.length_eq ▸ inside
  exact ⟨others[index], List.getElem?_eq_getElem inside', pairs.get inside inside'⟩

theorem forall₂_mem {related : α → β → Prop} {elements : List α} {others : List β}
    (pairs : List.Forall₂ related elements others) {other : β} (member : other ∈ others) :
    ∃ element ∈ elements, related element other := by
  obtain ⟨index, found⟩ := List.mem_iff_getElem?.mp member
  obtain ⟨element, same, holds⟩ := forall₂_getElem? (List.Forall₂.flip pairs) found
  exact ⟨element, List.mem_of_getElem? same, holds⟩

end NativeBridge

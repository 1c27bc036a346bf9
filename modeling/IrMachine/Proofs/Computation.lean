import IrMachine.Machine

/-!
# Rules for computations

How results of `Except` and of `Run` are taken apart and put together. A sequence of computations
succeeds exactly when each of them does, and a loop over a list is reasoned about by what holds
after each prefix of the list (`Run.forM_ok`), without looking at the loop again.
-/

namespace IrMachine

section Results

variable {ε α β : Type}

theorem pure_eq_ok_iff {value result : α} :
    (pure value : Except ε α) = .ok result ↔ result = value :=
  ⟨fun h => (Except.ok.inj h).symm, fun h => h ▸ rfl⟩

theorem bind_eq_ok_iff {first : Except ε α} {next : α → Except ε β} {result : β} :
    first >>= next = .ok result ↔ ∃ value, first = .ok value ∧ next value = .ok result := by
  cases first with
  | error fault => simp [Bind.bind, Except.bind]
  | ok value => simp [Bind.bind, Except.bind]

theorem map_eq_ok_iff {first : Except ε α} {change : α → β} {result : β} :
    first.map change = .ok result ↔ ∃ value, first = .ok value ∧ change value = result := by
  cases first with
  | error fault => simp [Except.map]
  | ok value => simp [Except.map]

theorem bind_eq_error_iff {first : Except ε α} {next : α → Except ε β} {fault : ε} :
    first >>= next = .error fault ↔
      first = .error fault ∨ ∃ value, first = .ok value ∧ next value = .error fault := by
  cases first with
  | error fault => simp [Bind.bind, Except.bind]
  | ok value => simp [Bind.bind, Except.bind]

theorem map_eq_error_iff {first : Except ε α} {change : α → β} {fault : ε} :
    first.map change = .error fault ↔ first = .error fault := by
  cases first with
  | error fault => simp [Except.map]
  | ok value => simp [Except.map]

theorem mapError_eq_ok_iff {ε' : Type} {result : Except ε α} {change : ε → ε'} {value : α} :
    result.mapError change = .ok value ↔ result = .ok value := by
  cases result with
  | error fault => exact ⟨nofun, nofun⟩
  | ok found =>
      show (Except.ok found : Except ε' α) = .ok value ↔ Except.ok found = .ok value
      rw [Except.ok.injEq, Except.ok.injEq]

theorem toOption_eq_some_iff {result : Except ε α} {value : α} :
    result.toOption = some value ↔ result = .ok value := by
  cases result with
  | error fault => simp [Except.toOption]
  | ok value => simp [Except.toOption]

/-- Working through a list succeeds exactly when every element is acceptable, and gives the answers
in order. -/
theorem mapM_eq_ok_iff {step : α → Except ε β} {inputs : List α} {results : List β}
    (accepts : α → Prop) (answer : α → β)
    (spec : ∀ input ∈ inputs, ∀ result,
      step input = .ok result ↔ accepts input ∧ result = answer input) :
    inputs.mapM step = .ok results ↔
      (∀ input ∈ inputs, accepts input) ∧ results = inputs.map answer := by
  induction inputs generalizing results with
  | nil =>
      rw [List.mapM_nil, List.map_nil, pure_eq_ok_iff]
      simp
  | cons input inputs ih =>
      obtain ⟨first, others⟩ := List.forall_mem_cons.mp spec
      rw [List.mapM_cons, bind_eq_ok_iff, List.forall_mem_cons, List.map_cons]
      constructor
      · rintro ⟨value, ran, rest⟩
        obtain ⟨values, ranRest, final⟩ := bind_eq_ok_iff.mp rest
        obtain ⟨accepted, rfl⟩ := (first value).mp ran
        obtain ⟨acceptedRest, rfl⟩ := (ih others).mp ranRest
        exact ⟨⟨accepted, acceptedRest⟩, pure_eq_ok_iff.mp final⟩
      · rintro ⟨⟨accepted, acceptedRest⟩, rfl⟩
        refine ⟨answer input, (first _).mpr ⟨accepted, rfl⟩, bind_eq_ok_iff.mpr ?_⟩
        exact ⟨inputs.map answer, (ih others).mpr ⟨acceptedRest, rfl⟩, rfl⟩

end Results

namespace Run

variable {α β : Type} {machine after : Machine}

theorem on_bind_ok {first : Run α} {next : α → Run β} {value : α}
    (h : first.on machine = (.ok value, after)) :
    (first >>= next).on machine = (next value).on after := by
  rw [on_bind, h]

theorem on_bind_error {first : Run α} {next : α → Run β} {fault : Fault}
    (h : first.on machine = (.error fault, after)) :
    (first >>= next).on machine = (.error fault, after) := by
  rw [on_bind, h]

/-- The loop rule. What holds of the empty prefix and is carried over every element holds of the
whole list, and the loop does not fail. -/
theorem forM_ok {body : α → Run Unit} {items : List α}
    (holds : List α → Machine → Prop) (start : holds [] machine)
    (step : ∀ done item rest current, items = done ++ item :: rest → holds done current →
      ∃ next, (body item).on current = (.ok (), next) ∧ holds (done ++ [item]) next) :
    ∃ final, (items.forM body).on machine = (.ok (), final) ∧ holds items final := by
  -- The induction is on what is still to be done; the prefix is what the rule speaks about.
  have loop : ∀ rest done current, items = done ++ rest → holds done current →
      ∃ final, (rest.forM body).on current = (.ok (), final) ∧ holds items final := by
    intro rest
    induction rest with
    | nil =>
        intro done current split reached
        rw [List.append_nil] at split
        exact ⟨current, rfl, split ▸ reached⟩
    | cons item rest ih =>
        intro done current split reached
        obtain ⟨next, ran, carried⟩ := step done item rest current split reached
        obtain ⟨final, others, finished⟩ := ih (done ++ [item]) next (by simpa using split) carried
        refine ⟨final, ?_, finished⟩
        rw [List.forM_eq_forM, List.forM_cons, on_bind_ok ran, ← List.forM_eq_forM]
        exact others
  exact loop items [] machine rfl start

end Run

end IrMachine

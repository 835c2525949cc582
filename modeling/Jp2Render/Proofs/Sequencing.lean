/-!
Computations that may fail, one after the other. Each lemma takes a sequence apart without looking
into its parts; so a sequence is seen to fail in some way just where one of its parts does.
-/

namespace Jp2Render

variable {ε ε' α β : Type}

theorem ok_bind (value : α) (next : α → Except ε β) : (.ok value >>= next) = next value := rfl

theorem error_bind (fault : ε) (next : α → Except ε β) : (.error fault >>= next) = .error fault := rfl

theorem mapError_ok (change : ε → ε') (value : α) :
    (.ok value : Except ε α).mapError change = .ok value := rfl

theorem mapError_error (change : ε → ε') (fault : ε) :
    (.error fault : Except ε α).mapError change = .error (change fault) := rfl

theorem bind_eq_ok_iff {first : Except ε α} {next : α → Except ε β} {result : β} :
    (first >>= next) = .ok result ↔ ∃ value, first = .ok value ∧ next value = .ok result := by
  cases first with
  | error fault =>
      refine ⟨nofun, ?_⟩
      rintro ⟨_, impossible, _⟩
      cases impossible
  | ok value =>
      refine ⟨fun rest => ⟨value, rfl, rest⟩, ?_⟩
      rintro ⟨_, ⟨⟩, rest⟩
      exact rest

theorem bind_eq_error_iff {first : Except ε α} {next : α → Except ε β} {fault : ε} :
    (first >>= next) = .error fault ↔
      first = .error fault ∨ ∃ value, first = .ok value ∧ next value = .error fault := by
  cases first with
  | error first =>
      refine ⟨fun same => .inl (by injection same with same; rw [same]), ?_⟩
      rintro (⟨⟨⟩⟩ | ⟨_, impossible, _⟩)
      · rfl
      · cases impossible
  | ok value =>
      refine ⟨fun rest => .inr ⟨value, rfl, rest⟩, ?_⟩
      rintro (impossible | ⟨_, ⟨⟩, rest⟩)
      · cases impossible
      · exact rest

theorem pure_eq_ok_iff {value result : α} :
    (pure value : Except ε α) = .ok result ↔ value = result := by
  refine ⟨fun same => ?_, fun same => same ▸ rfl⟩
  injection same

theorem exists_eq_ok {first : Except ε α} (succeeds : first.isOk = true) :
    ∃ value, first = .ok value := by
  cases first with
  | error fault => cases succeeds
  | ok value => exact ⟨value, rfl⟩

theorem toOption_eq_some_iff {first : Except ε α} {value : α} :
    first.toOption = some value ↔ first = .ok value := by
  cases first with
  | error fault =>
      show none = some value ↔ _
      simp
  | ok other =>
      show some other = some value ↔ _
      rw [Option.some.injEq, Except.ok.injEq]

theorem mapError_eq_ok_iff {change : ε → ε'} {first : Except ε α} {result : α} :
    first.mapError change = .ok result ↔ first = .ok result := by
  cases first <;> simp [mapError_ok, mapError_error]

theorem mapError_eq_error_iff {change : ε → ε'} {first : Except ε α} {fault : ε'} :
    first.mapError change = .error fault ↔ ∃ cause, first = .error cause ∧ change cause = fault := by
  cases first <;> simp [mapError_ok, mapError_error]

theorem map_eq_ok_iff {change : α → β} {first : Except ε α} {result : β} :
    first.map change = .ok result ↔ ∃ value, first = .ok value ∧ change value = result := by
  cases first <;> simp [Except.map]

/-- Fails, with a fault of the given ones. -/
def FailsWith (counts : ε → Prop) (outcome : Except ε α) : Prop :=
  ∃ fault, outcome = .error fault ∧ counts fault

variable {counts : ε → Prop}

@[simp] theorem not_failsWith_ok (value : α) : ¬ FailsWith counts (.ok value) := nofun

@[simp] theorem failsWith_error {fault : ε} :
    FailsWith counts (.error fault : Except ε α) ↔ counts fault := by
  constructor
  · rintro ⟨_, ⟨⟩, counted⟩
    exact counted
  · exact fun counted => ⟨fault, rfl, counted⟩

theorem not_failsWith_error {fault : ε} (fine : ¬ counts fault) :
    ¬ FailsWith counts (.error fault : Except ε α) := mt failsWith_error.mp fine

theorem not_counts_of_failed {outcome : Except ε α} {fault : ε} (fine : ¬ FailsWith counts outcome)
    (failed : outcome = .error fault) : ¬ counts fault := fun counted => fine ⟨fault, failed, counted⟩

instance [DecidablePred counts] : (outcome : Except ε α) → Decidable (FailsWith counts outcome)
  | .error _ => decidable_of_iff _ failsWith_error.symm
  | .ok value => .isFalse (not_failsWith_ok value)

@[simp] theorem not_failsWith_pure (value : α) : ¬ FailsWith counts (pure value : Except ε α) := nofun

@[simp] theorem failsWith_throw {fault : ε} :
    FailsWith counts (throw fault : Except ε α) ↔ counts fault := failsWith_error

theorem failsWith_bind {first : Except ε α} {next : α → Except ε β} :
    FailsWith counts (first >>= next) ↔
      FailsWith counts first ∨ ∃ value, first = .ok value ∧ FailsWith counts (next value) := by
  constructor
  · rintro ⟨fault, failed, counted⟩
    rcases bind_eq_error_iff.mp failed with failed | ⟨value, done, failed⟩
    · exact .inl ⟨fault, failed, counted⟩
    · exact .inr ⟨value, done, fault, failed, counted⟩
  · rintro (⟨fault, failed, counted⟩ | ⟨value, done, fault, failed, counted⟩)
    · exact ⟨fault, bind_eq_error_iff.mpr (.inl failed), counted⟩
    · exact ⟨fault, bind_eq_error_iff.mpr (.inr ⟨value, done, failed⟩), counted⟩

theorem failsWith_bind_left {first : Except ε α} {next : α → Except ε β}
    (fine : ∀ value, ¬ FailsWith counts (next value)) :
    FailsWith counts (first >>= next) ↔ FailsWith counts first := by
  rw [failsWith_bind]
  refine or_iff_left ?_
  rintro ⟨value, -, failed⟩
  exact fine value failed

theorem not_failsWith_bind {first : Except ε α} {next : α → Except ε β}
    (fine : ¬ FailsWith counts first) (rest : ∀ value, ¬ FailsWith counts (next value)) :
    ¬ FailsWith counts (first >>= next) := by
  rw [failsWith_bind]
  rintro (failed | ⟨value, -, failed⟩)
  · exact fine failed
  · exact rest value failed

theorem not_failsWith_throw_bind {fault : ε} (fine : ¬ counts fault) (next : α → Except ε β) :
    ¬ FailsWith counts (throw fault >>= next) :=
  fun failed => fine (failsWith_error.mp failed)

theorem failsWith_mapError {counts : ε' → Prop} {change : ε → ε'} {first : Except ε α} :
    FailsWith counts (first.mapError change) ↔ FailsWith (fun fault => counts (change fault)) first := by
  cases first with
  | error fault => rw [mapError_error, failsWith_error, failsWith_error]
  | ok value => simp only [mapError_ok, not_failsWith_ok]

theorem failsWith_map {change : α → β} {first : Except ε α} :
    FailsWith counts (first.map change) ↔ FailsWith counts first := by
  cases first with
  | error fault => simp only [Except.map, failsWith_error]
  | ok value => simp only [Except.map, not_failsWith_ok]

theorem failsWith_congr {counts' : ε → Prop} (same : ∀ fault, counts fault ↔ counts' fault)
    {outcome : Except ε α} : FailsWith counts outcome ↔ FailsWith counts' outcome := by
  unfold FailsWith
  simp only [same]

theorem not_failsWith (never : ∀ fault, ¬ counts fault) (outcome : Except ε α) :
    ¬ FailsWith counts outcome := by
  rintro ⟨fault, -, counted⟩
  exact never fault counted

abbrev Fails (outcome : Except ε α) : Prop := FailsWith (fun _ => True) outcome

theorem failsWith_of_all (all : ∀ fault, counts fault) {outcome : Except ε α} :
    FailsWith counts outcome ↔ Fails outcome :=
  failsWith_congr fun fault => iff_of_true (all fault) trivial

theorem exists_ok_of_not_fails {outcome : Except ε α} (fine : ¬ Fails outcome) :
    ∃ value, outcome = .ok value := by
  cases outcome with
  | error fault => exact absurd (failsWith_error.mpr trivial) fine
  | ok value => exact ⟨value, rfl⟩

theorem fails_bind {first : Except ε α} {next : α → Except ε β} {rest : Prop}
    (same : ∀ value, first = .ok value → (Fails (next value) ↔ rest)) :
    Fails (first >>= next) ↔ Fails first ∨ rest := by
  cases first with
  | error fault => exact iff_of_true (failsWith_error.mpr trivial) (.inl (failsWith_error.mpr trivial))
  | ok value =>
      rw [ok_bind, same value rfl]
      exact ⟨.inr, fun failed => failed.resolve_left (not_failsWith_ok value)⟩

def Yields (fair : ε → Prop) (good : α → Prop) : Except ε α → Prop
  | .ok value => good value
  | .error fault => fair fault

section Yields

variable {fair : ε → Prop} {good : α → Prop} {better : β → Prop}

theorem Yields.bind {first : Except ε α} {next : α → Except ε β} (begins : Yields fair good first)
    (rest : ∀ value, good value → Yields fair better (next value)) :
    Yields fair better (first >>= next) := by
  cases first with
  | error fault => exact begins
  | ok value => exact rest value begins

theorem Yields.of_ok {outcome : Except ε α} {value : α} (yields : Yields fair good outcome)
    (done : outcome = .ok value) : good value := by
  rw [done] at yields
  exact yields

theorem Yields.of_error {outcome : Except ε α} {fault : ε} (yields : Yields fair good outcome)
    (failed : outcome = .error fault) : fair fault := by
  rw [failed] at yields
  exact yields

end Yields

theorem not_failsWith_of_ok {outcome : Except ε α} {value : α} (done : outcome = .ok value) :
    ¬ FailsWith counts outcome := by
  rw [done]
  exact not_failsWith_ok value

end Jp2Render

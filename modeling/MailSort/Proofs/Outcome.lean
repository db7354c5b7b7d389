/-! # Outcomes

When a computation that is made of steps succeeds, each of which may fail: every step has to
succeed, and the result is what the last one makes of the others.
-/

namespace MailSort

namespace Outcome

variable {ε φ α β γ : Type}

theorem bind_eq_ok_iff {first : Except ε α} {next : α → Except ε β} {result : β} :
    (first >>= next) = .ok result ↔ ∃ value, first = .ok value ∧ next value = .ok result := by
  cases first <;> simp [bind, Except.bind]

theorem isOk_iff {outcome : Except ε α} : outcome.isOk ↔ ∃ value, outcome = .ok value := by
  cases outcome <;> simp [Except.isOk, Except.toBool]

theorem pure_eq_ok_iff {value result : α} :
    (pure value : Except ε α) = .ok result ↔ value = result := by
  simp [pure, Except.pure]

theorem map_eq_bind (change : α → β) (outcome : Except ε α) :
    outcome.map change = outcome >>= fun value => pure (change value) := by
  cases outcome <;> rfl

theorem map_eq_ok_iff {change : α → β} {outcome : Except ε α} {result : β} :
    outcome.map change = .ok result ↔ ∃ value, outcome = .ok value ∧ change value = result := by
  cases outcome <;> simp [Except.map]

theorem map_eq_error_iff {change : α → β} {outcome : Except ε α} {fault : ε} :
    outcome.map change = .error fault ↔ outcome = .error fault := by
  cases outcome <;> simp [Except.map]

theorem mapError_eq_ok_iff {wrap : ε → φ} {outcome : Except ε α} {result : α} :
    outcome.mapError wrap = .ok result ↔ outcome = .ok result := by
  cases outcome with
  | ok value =>
    show (.ok value : Except φ α) = .ok result ↔ _
    simp
  | error cause => exact ⟨nofun, nofun⟩

/-- Steps of which each succeeds do so one after the other. -/
theorem mapM_eq_ok {step : α → Except ε β} {result : α → β} {inputs : List α}
    (each : ∀ input ∈ inputs, step input = .ok (result input)) :
    inputs.mapM step = .ok (inputs.map result) := by
  induction inputs with
  | nil => rfl
  | cons input inputs ih =>
    rw [List.forall_mem_cons] at each
    rw [List.mapM_cons, each.1, ih each.2]
    rfl

/-- Two steps for each of some inputs can be taken input by input. -/
theorem mapM_bind_eq_ok {first : α → Except ε β} {next : β → Except ε γ} {inputs : List α}
    {values : List β} {results : List γ} (firstly : inputs.mapM first = .ok values)
    (secondly : values.mapM next = .ok results) :
    inputs.mapM (fun input => first input >>= next) = .ok results := by
  induction inputs generalizing values results with
  | nil =>
    rw [List.mapM_nil, pure_eq_ok_iff] at firstly
    subst firstly
    exact secondly
  | cons input inputs ih =>
    simp only [List.mapM_cons, bind_eq_ok_iff, pure_eq_ok_iff] at firstly
    obtain ⟨value, made, values, others, rfl⟩ := firstly
    simp only [List.mapM_cons, bind_eq_ok_iff, pure_eq_ok_iff] at secondly ⊢
    obtain ⟨result, finished, results, rest, rfl⟩ := secondly
    exact ⟨result, ⟨value, made, finished⟩, results, ih others rest, rfl⟩

/-- A second step for each result is a single step for each input, if it is what the input needs
    once the first step has succeeded. -/
theorem mapM_eq_of_mapM {first : α → Except ε β} {next : β → Except ε γ} {whole : α → Except ε γ}
    {inputs : List α} {values : List β}
    (agree : ∀ input value, first input = .ok value → next value = whole input)
    (made : inputs.mapM first = .ok values) : values.mapM next = inputs.mapM whole := by
  induction inputs generalizing values with
  | nil =>
    rw [List.mapM_nil, pure_eq_ok_iff] at made
    subst made
    rfl
  | cons input inputs ih =>
    simp only [List.mapM_cons, bind_eq_ok_iff, pure_eq_ok_iff] at made
    obtain ⟨value, here, others, rest, rfl⟩ := made
    rw [List.mapM_cons, List.mapM_cons, agree input value here, ih rest]

/-- Steps that only change the results of others succeed with them. -/
theorem mapM_eq_map_of_mapM {step : α → Except ε β} {other : α → Except ε γ} {change : β → γ}
    {inputs : List α} {results : List β}
    (agree : ∀ input result, step input = .ok result → other input = .ok (change result))
    (made : inputs.mapM step = .ok results) : inputs.mapM other = .ok (results.map change) := by
  induction inputs generalizing results with
  | nil =>
    rw [List.mapM_nil, pure_eq_ok_iff] at made
    subst made
    rfl
  | cons input inputs ih =>
    simp only [List.mapM_cons, bind_eq_ok_iff, pure_eq_ok_iff] at made
    obtain ⟨result, here, others, rest, rfl⟩ := made
    rw [List.mapM_cons, agree input result here, ih rest]
    rfl

/-- Steps for some inputs can be taken before any of the inputs is changed for its result. -/
theorem mapM_map_eq_zipWith (step : α → Except ε β) (change : α → β → γ) (inputs : List α) :
    inputs.mapM (fun input => (step input).map (change input)) =
      (inputs.mapM step).map (List.zipWith change inputs) := by
  induction inputs with
  | nil => rfl
  | cons input inputs ih =>
    rw [List.mapM_cons, List.mapM_cons, ih]
    cases step input with
    | error fault => rfl
    | ok result => cases inputs.mapM step <;> rfl

theorem length_of_mapM {step : α → Except ε β} {inputs : List α} {results : List β}
    (made : inputs.mapM step = .ok results) : results.length = inputs.length := by
  induction inputs generalizing results with
  | nil =>
    rw [List.mapM_nil, pure_eq_ok_iff] at made
    subst made
    rfl
  | cons input inputs ih =>
    simp only [List.mapM_cons, bind_eq_ok_iff, pure_eq_ok_iff] at made
    obtain ⟨result, _, others, rest, rfl⟩ := made
    rw [List.length_cons, List.length_cons, ih rest]

/-- Steps that succeed for a list of inputs succeed for each of them, so others that succeed
    whenever they do succeed for the list as well. -/
theorem exists_mapM_of_mapM {step : α → Except ε β} {other : α → Except ε γ} {inputs : List α}
    {results : List β}
    (follows : ∀ input result, step input = .ok result → ∃ value, other input = .ok value)
    (made : inputs.mapM step = .ok results) : ∃ values, inputs.mapM other = .ok values := by
  induction inputs generalizing results with
  | nil => exact ⟨[], rfl⟩
  | cons input inputs ih =>
    simp only [List.mapM_cons, bind_eq_ok_iff, pure_eq_ok_iff] at made
    obtain ⟨result, here, others, rest, rfl⟩ := made
    obtain ⟨value, done⟩ := follows input result here
    obtain ⟨values, finished⟩ := ih rest
    refine ⟨value :: values, ?_⟩
    simp only [List.mapM_cons, bind_eq_ok_iff, pure_eq_ok_iff]
    exact ⟨value, done, values, finished, rfl⟩

/-- Steps of one state that stand for steps of another do so one after the other. -/
theorem foldlM_map {step : β → α → Except ε β} {other : γ → α → Except ε γ} {read : β → γ}
    {inputs : List α}
    (commutes : ∀ input ∈ inputs, ∀ state, other (read state) input = (step state input).map read)
    (state : β) : inputs.foldlM other (read state) = (inputs.foldlM step state).map read := by
  induction inputs generalizing state with
  | nil => rfl
  | cons input inputs ih =>
    rw [List.foldlM_cons, List.foldlM_cons, commutes input List.mem_cons_self]
    cases step state input with
    | error fault => rfl
    | ok next => exact ih (fun later member => commutes later (List.mem_cons_of_mem _ member)) next

/-! ## Faults that no step raises -/

variable {fault : ε}

theorem bind_ne_error {first : Except ε α} {next : α → Except ε β} (firstly : first ≠ .error fault)
    (secondly : ∀ value, next value ≠ .error fault) : (first >>= next) ≠ .error fault := by
  cases first with
  | ok value => exact secondly value
  | error other =>
    intro same
    exact firstly (congrArg Except.error (Except.error.inj same))

theorem mapM_ne_error {step : α → Except ε β} (never : ∀ input, step input ≠ .error fault)
    (inputs : List α) : inputs.mapM step ≠ .error fault := by
  induction inputs with
  | nil => nofun
  | cons input inputs ih =>
    rw [List.mapM_cons]
    exact bind_ne_error (never input) fun _ => bind_ne_error ih fun _ => nofun

theorem foldlM_ne_error {step : β → α → Except ε β}
    (never : ∀ value input, step value input ≠ .error fault) (inputs : List α) (value : β) :
    inputs.foldlM step value ≠ .error fault := by
  induction inputs generalizing value with
  | nil => nofun
  | cons input inputs ih =>
    rw [List.foldlM_cons]
    exact bind_ne_error (never value input) ih

/-! ## Results for lists of inputs -/

theorem exists_of_mem_mapM {step : α → Except ε β} {inputs : List α} {results : List β}
    {result : β} (made : inputs.mapM step = .ok results) (member : result ∈ results) :
    ∃ input ∈ inputs, step input = .ok result := by
  induction inputs generalizing results with
  | nil =>
    rw [List.mapM_nil, pure_eq_ok_iff] at made
    subst made
    contradiction
  | cons input inputs ih =>
    simp only [List.mapM_cons, bind_eq_ok_iff, pure_eq_ok_iff] at made
    obtain ⟨first, here, others, rest, rfl⟩ := made
    obtain rfl | later := List.mem_cons.1 member
    · exact ⟨input, List.mem_cons_self, here⟩
    · obtain ⟨input, found, there⟩ := ih rest later
      exact ⟨input, List.mem_cons_of_mem _ found, there⟩

theorem exists_mem_of_mapM {step : α → Except ε β} {inputs : List α} {results : List β}
    {input : α} (made : inputs.mapM step = .ok results) (member : input ∈ inputs) :
    ∃ result ∈ results, step input = .ok result := by
  induction inputs generalizing results with
  | nil => contradiction
  | cons first inputs ih =>
    simp only [List.mapM_cons, bind_eq_ok_iff, pure_eq_ok_iff] at made
    obtain ⟨result, here, others, rest, rfl⟩ := made
    obtain rfl | later := List.mem_cons.1 member
    · exact ⟨result, List.mem_cons_self, here⟩
    · obtain ⟨found, inside, there⟩ := ih rest later
      exact ⟨found, List.mem_cons_of_mem _ inside, there⟩

theorem map_eq_of_mapM {step : α → Except ε β} {read : β → α} {inputs : List α} {results : List β}
    (reads : ∀ input result, step input = .ok result → read result = input)
    (made : inputs.mapM step = .ok results) : results.map read = inputs := by
  induction inputs generalizing results with
  | nil =>
    rw [List.mapM_nil, pure_eq_ok_iff] at made
    subst made
    rfl
  | cons input inputs ih =>
    simp only [List.mapM_cons, bind_eq_ok_iff, pure_eq_ok_iff] at made
    obtain ⟨first, here, others, rest, rfl⟩ := made
    rw [List.map_cons, reads input first here, ih rest]

end Outcome

end MailSort

/-! Computations that may fail. A sequence succeeds when each of its steps does; these facts open the
definitions written in that way, and carry what each step keeps over to a whole fold. A sequence fails
when one of its steps does, and where all steps fail with errors of one kind alone, so does it. -/

namespace IdentityBridge.Outcome

variable {ε α β σ : Type}

@[simp] theorem bind_eq_ok {m : Except ε α} {f : α → Except ε β} {b : β} :
    m >>= f = .ok b ↔ ∃ a, m = .ok a ∧ f a = .ok b := by
  cases m <;> simp [bind, Except.bind]

@[simp] theorem ok_bind (a : α) (f : α → Except ε β) : Except.ok a >>= f = f a := rfl

@[simp] theorem error_bind (e : ε) (f : α → Except ε β) : Except.error e >>= f = .error e := rfl

@[simp] theorem pure_eq (a : α) : (pure a : Except ε α) = .ok a := rfl

theorem throw_eq (e : ε) : (throw e : Except ε α) = .error e := rfl

theorem toOption_eq_some {m : Except ε α} {a : α} : m.toOption = some a ↔ m = .ok a := by
  cases m <;> simp [Except.toOption]

theorem isOk_map (x : Except ε α) (f : α → β) : (x.map f).isOk = x.isOk := by cases x <;> rfl

/-- What no step loses holds of the result of a fold. -/
theorem foldlM_keeps {P : σ → Prop} {f : σ → α → Except ε σ} {list : List α}
    (hf : ∀ s, ∀ a ∈ list, ∀ s', P s → f s a = .ok s' → P s') {s s' : σ} (hs : P s)
    (h : list.foldlM f s = .ok s') : P s' := by
  induction list generalizing s with
  | nil =>
    cases h
    exact hs
  | cons a rest ih =>
    rw [List.foldlM_cons, bind_eq_ok] at h
    obtain ⟨s₁, h₁, h⟩ := h
    exact ih (fun s a ha => hf s a (List.mem_cons_of_mem _ ha)) (hf s a List.mem_cons_self s₁ hs h₁) h

/-- No step of a fold that succeeds has failed. -/
theorem exists_of_mem_foldlM {f : σ → α → Except ε σ} {list : List α} {s s' : σ}
    (h : list.foldlM f s = .ok s') {a : α} (ha : a ∈ list) : ∃ s₁ s₂, f s₁ a = .ok s₂ := by
  induction list generalizing s with
  | nil => cases ha
  | cons first rest ih =>
    rw [List.foldlM_cons, bind_eq_ok] at h
    obtain ⟨s₁, h₁, h⟩ := h
    rcases List.mem_cons.1 ha with rfl | ha
    · exact ⟨s, s₁, h₁⟩
    · exact ih h ha

/-- Each result of a map comes from a member of the list. -/
theorem exists_of_mem_mapM {f : α → Except ε β} {list : List α} {results : List β}
    (h : list.mapM f = .ok results) {b : β} (hb : b ∈ results) : ∃ a ∈ list, f a = .ok b := by
  induction list generalizing results with
  | nil =>
    cases h
    cases hb
  | cons a rest ih =>
    rw [List.mapM_cons, bind_eq_ok] at h
    obtain ⟨first, hf, h⟩ := h
    obtain ⟨more, hm, h⟩ := bind_eq_ok.1 h
    cases h
    rcases List.mem_cons.1 hb with rfl | hb
    · exact ⟨a, List.mem_cons_self, hf⟩
    · obtain ⟨a', ha', hf'⟩ := ih hm hb
      exact ⟨a', List.mem_cons_of_mem _ ha', hf'⟩

/-- Where each result tells what it is the result of, the results of a map tell the list. -/
theorem map_of_mapM {f : α → Except ε β} {g : β → α} (hg : ∀ a b, f a = .ok b → g b = a)
    {list : List α} {results : List β} (h : list.mapM f = .ok results) : results.map g = list := by
  induction list generalizing results with
  | nil =>
    cases h
    rfl
  | cons a rest ih =>
    rw [List.mapM_cons, bind_eq_ok] at h
    obtain ⟨first, hf, h⟩ := h
    obtain ⟨more, hm, h⟩ := bind_eq_ok.1 h
    cases h
    rw [List.map_cons, hg a first hf, ih hm]

/-! ### Errors -/

/-- A computation ends with an error. -/
def Fails (m : Except ε α) : Prop := ∃ e, m = .error e

@[simp] theorem fails_error (e : ε) : Fails (.error e : Except ε α) := ⟨e, rfl⟩

@[simp] theorem not_fails_ok (a : α) : ¬ Fails (.ok a : Except ε α) := by rintro ⟨_, ⟨⟩⟩

theorem toOption_eq_none {m : Except ε α} : m.toOption = none ↔ Fails m := by
  cases m <;> simp [Except.toOption]

theorem bind_eq_error {m : Except ε α} {f : α → Except ε β} {e : ε} :
    m >>= f = .error e ↔ m = .error e ∨ ∃ a, m = .ok a ∧ f a = .error e := by
  cases m <;> simp

theorem fails_bind {m : Except ε α} {f : α → Except ε β} :
    Fails (m >>= f) ↔ Fails m ∨ ∃ a, m = .ok a ∧ Fails (f a) := by
  cases m <;> simp

/-- A map fails when it fails for a member of the list. -/
theorem fails_mapM {f : α → Except ε β} {list : List α} :
    Fails (list.mapM f) ↔ ∃ a ∈ list, Fails (f a) := by
  induction list with
  | nil => simp
  | cons a rest ih =>
    simp only [List.mapM_cons, fails_bind, List.mem_cons, exists_eq_or_imp, ← ih]
    cases f a with
    | error e => simp
    | ok b => simp

/-- A map that fails has an error that it fails with for a member of the list. -/
theorem exists_of_mapM_error {f : α → Except ε β} {list : List α} {e : ε}
    (h : list.mapM f = .error e) : ∃ a ∈ list, f a = .error e := by
  induction list with
  | nil => cases h
  | cons a rest ih =>
    rw [List.mapM_cons, bind_eq_error] at h
    rcases h with h | ⟨b, -, h⟩
    · exact ⟨a, List.mem_cons_self, h⟩
    · rcases bind_eq_error.1 h with h | ⟨_, _, ⟨⟩⟩
      obtain ⟨a', ha', hf⟩ := ih h
      exact ⟨a', List.mem_cons_of_mem _ ha', hf⟩

/-! ### Kinds of errors -/

/-- Whatever error a computation ends with is of one kind. -/
def FailsOnly (P : ε → Prop) (m : Except ε α) : Prop := ∀ e, m = .error e → P e

variable {P : ε → Prop}

theorem failsOnly_ok (a : α) : FailsOnly P (.ok a) := by
  rintro e ⟨⟩

theorem failsOnly_error {e : ε} (h : P e) : FailsOnly P (.error e : Except ε α) := by
  rintro _ ⟨⟩
  exact h

theorem FailsOnly.bind {m : Except ε α} {f : α → Except ε β} (hm : FailsOnly P m)
    (hf : ∀ a, FailsOnly P (f a)) : FailsOnly P (m >>= f) := by
  cases m with
  | error e => exact failsOnly_error (hm e rfl)
  | ok a => exact hf a

theorem FailsOnly.map {m : Except ε α} (hm : FailsOnly P m) (f : α → β) :
    FailsOnly P (m.map f) := by
  cases m with
  | error e => exact failsOnly_error (hm e rfl)
  | ok a => exact failsOnly_ok (f a)

theorem FailsOnly.foldlM {f : σ → α → Except ε σ} (hf : ∀ s a, FailsOnly P (f s a)) (s : σ)
    (list : List α) : FailsOnly P (list.foldlM f s) := by
  induction list generalizing s with
  | nil => exact failsOnly_ok s
  | cons a rest ih =>
    rw [List.foldlM_cons]
    exact (hf s a).bind fun s => ih s

theorem FailsOnly.filterMapM {f : α → Except ε (Option β)} (hf : ∀ a, FailsOnly P (f a))
    (list : List α) : FailsOnly P (list.filterMapM f) := by
  have loop (list : List α) (found : List β) : FailsOnly P (List.filterMapM.loop f list found) := by
    induction list generalizing found with
    | nil => exact failsOnly_ok _
    | cons a rest ih =>
      refine (hf a).bind fun b => ?_
      cases b with
      | none => exact ih found
      | some b => exact ih (b :: found)
  exact loop list []

end IdentityBridge.Outcome

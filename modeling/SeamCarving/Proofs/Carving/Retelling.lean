import SeamCarving.Proofs.Carving.Run

/-!
# Retelling a computation

Two computations may run alike while they are about different pictures: what one reports and comes to is then the
retelling of what the other reports and comes to, and they fail with the same error. Main statement: if each step of
one loop retells the step of another, the whole loop retells the other (`foldlM_eq_retold`).
-/

namespace SeamCarving.Traced

variable {α β γ δ : Type} {tell : Event → Event} {carry : α → β}

/-- The computation with its events told in other words and its result carried over. Errors stay. -/
def retold (tell : Event → Event) (carry : α → β) (traced : Traced α) : Traced β :=
  ⟨traced.events.map tell, traced.outcome.map carry⟩

theorem retold_id (traced : Traced α) : traced.retold id id = traced := by
  obtain ⟨events, outcome⟩ := traced
  cases outcome <;> simp [retold, Except.map]

theorem retold_retold {tell' : Event → Event} {carry' : β → γ} (traced : Traced α) :
    (traced.retold tell carry).retold tell' carry' = traced.retold (tell' ∘ tell) (carry' ∘ carry) := by
  obtain ⟨events, outcome⟩ := traced
  cases outcome <;> simp [retold, Except.map]

/-- A result that is carried over and then back is what it was. -/
theorem retold_bind_pure {back : β → α} (restores : ∀ result, back (carry result) = result)
    (traced : Traced α) : (traced.retold id carry >>= fun told => pure (back told)) = traced := by
  obtain ⟨events, outcome⟩ := traced
  rw [bind_pure]
  cases outcome <;> simp [retold, Except.map, restores]

/-- A computation in two parts is retold part by part. -/
theorem bind_eq_retold {first : Traced α} {next : α → Traced γ} {next' : β → Traced δ} {carry' : γ → δ}
    (later : ∀ result, next' (carry result) = (next result).retold tell carry') :
    first.retold tell carry >>= next' = (first >>= next).retold tell carry' := by
  obtain ⟨events, outcome⟩ := first
  cases outcome with
  | error error => rfl
  | ok result =>
      calc (⟨events, .ok result⟩ : Traced α).retold tell carry >>= next'
        _ = ⟨events.map tell ++ (next' (carry result)).events, (next' (carry result)).outcome⟩ := rfl
        _ = ⟨(events ++ (next result).events).map tell, (next result).outcome.map carry'⟩ := by
          rw [later, List.map_append]
          rfl

/-- A loop whose steps retell those of another loop retells the other loop. -/
theorem foldlM_eq_retold {reword : γ → δ} {step : α → γ → Traced α} {step' : β → δ → Traced β}
    (retells : ∀ state entry, step' (carry state) (reword entry) = (step state entry).retold tell carry)
    (entries : List γ) (state : α) :
    (entries.map reword).foldlM step' (carry state) = (entries.foldlM step state).retold tell carry := by
  induction entries generalizing state with
  | nil => rfl
  | cons entry entries ih =>
      rw [List.map_cons, List.foldlM_cons, List.foldlM_cons, retells]
      exact bind_eq_retold ih

end SeamCarving.Traced

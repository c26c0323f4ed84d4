import LiveLint.Proofs.Desk.Effects

/-!
# The settings of a desk

A desk works with the settings that it was given last. Its coordinator hands them to the sessions
that it starts, and nothing that happens to these or to it changes them (`settings_step`).
-/

namespace LiveLint

/-- Only a change of the settings changes them. -/
theorem Coordinator.settings_step {η : Type} (c : Coordinator η) {e : Event η}
    (he : ∀ s, e ≠ .configure s) : (c.step e).1.settings = c.settings := by
  cases e with
  | supersede =>
    unfold step
    dsimp only
    split <;> rfl
  | accept text host => rfl
  | deliver id o =>
    unfold step deliver
    dsimp only
    split
    · rfl
    · split <;> rfl
  | spawnFailed id e =>
    unfold step spawnFailed
    dsimp only
    split
    · rfl
    · split <;> rfl
  | configure s => exact absurd rfl (he s)

namespace Desk

section

variable {σ : Type} [LintSession σ]

/-! ## The coordinator and its sessions -/

/-- The sessions do not reach the coordinator. -/
theorem coordinator_raw (d : Desk σ) (id : Nat) (e : Session.Event Unit) :
    (d.raw id e).1.coordinator = d.coordinator := by
  unfold raw
  split <;> rfl

/-- A session that is dismissed is none of the coordinator's concern any more. -/
theorem coordinator_dismiss (d : Desk σ) (id : Nat) :
    (d.dismiss id).1.coordinator = d.coordinator :=
  (coordinator_raw _ id .release).trans (d.coordinator_raw id .cancel)

/-- Doing what the coordinator says does not change the coordinator. -/
theorem coordinator_obeyOne (d : Desk σ) (effect : Coordinator.Effect Host) :
    (d.obeyOne effect).1.coordinator = d.coordinator := by
  cases effect with
  | release id => exact d.coordinator_raw id .release
  | dismiss id => exact d.coordinator_dismiss id
  | _ => rfl

/-- Doing all that the coordinator says does not change it either. -/
theorem coordinator_obey (d : Desk σ) (effects : List (Coordinator.Effect Host)) :
    (d.obey effects).1.coordinator = d.coordinator := by
  induction effects generalizing d with
  | nil => rfl
  | cons effect rest ih =>
    have hone := d.coordinator_obeyOne effect
    unfold obey
    generalize d.obeyOne effect = p at hone
    obtain ⟨d', notes, raised⟩ := p
    cases raised with
    | some f => exact hone
    | none => exact (ih d').trans hone

/-- The settings stay through every other event of the coordinator. -/
theorem settings_coordinate (d : Desk σ) {e : Coordinator.Event Host}
    (he : ∀ s, e ≠ .configure s) :
    (d.coordinate e).1.coordinator.settings = d.coordinator.settings := by
  have hstep := d.coordinator.settings_step he
  rw [← hstep]
  exact congrArg Coordinator.settings (coordinator_obey _ _)

/-- The settings stay when a check is canceled. -/
theorem settings_cancel (d : Desk σ) :
    d.cancel.1.coordinator.settings = d.coordinator.settings := by
  have hstep := d.coordinator.settings_step (e := .supersede) fun _ h => nomatch h
  unfold cancel
  split
  · rename_i heq
    rw [coordinator_dismiss, ← hstep, heq]
  · rename_i heq
    rw [← hstep, heq]

/-! ## What is seen to for a session -/

/-- The settings stay, whatever a session does. -/
theorem settings_absorbOne (d : Desk σ) (id : Nat) (effect : Session.Effect Unit) :
    (d.absorbOne id effect).1.coordinator.settings = d.coordinator.settings := by
  cases effect with
  | called c o =>
    have hcoordinate := d.settings_coordinate (e := .deliver id o) fun _ h => nomatch h
    change (d.deliver id o).1.coordinator.settings = _
    unfold deliver
    generalize d.coordinate (.deliver id o) = p at hcoordinate
    obtain ⟨d', notes, raised⟩ := p
    cases raised with
    | none => exact hcoordinate
    | some f =>
      dsimp only
      split <;> exact hcoordinate
  | returned ticket result =>
    rcases result with (e | f) | u
    · exact d.settings_coordinate (e := .spawnFailed id e) fun _ h => nomatch h
    all_goals rfl
  | _ => rfl

/-- The settings stay through all that a session does. -/
theorem settings_absorb (d : Desk σ) (id : Nat) (effects : List (Session.Effect Unit)) :
    (d.absorb id effects).1.coordinator.settings = d.coordinator.settings := by
  induction effects generalizing d with
  | nil => rfl
  | cons effect rest ih => exact (ih _).trans (d.settings_absorbOne id effect)

/-- The settings stay through a step of a session. -/
theorem settings_sessionStep (d : Desk σ) (id : Nat) (e : Session.Event Unit) :
    (d.sessionStep id e).1.coordinator.settings = d.coordinator.settings :=
  (settings_absorb _ id _).trans (congrArg Coordinator.settings (d.coordinator_raw id e))

/-- The settings stay when a check is requested. -/
theorem settings_request (d : Desk σ) (make : Factory σ) (system : System) (ticket : Nat)
    (text : Text) (host : Host) :
    (d.request make system ticket text host).1.coordinator.settings = d.coordinator.settings := by
  have hstart := settings_sessionStep (σ := σ)
  unfold request
  dsimp only
  rw [hstart, hstart]
  exact (d.cancel.1.coordinator.settings_step (e := .accept text host) fun _ h => nomatch h).trans
    d.settings_cancel

end

/-! ## Events -/

/-- Every event but a change of the settings leaves them as they are. -/
theorem settings_step (d : Desk (Session Unit)) {x : Event} (hx : ∀ s, x ≠ .configure s) :
    (d.step x).1.coordinator.settings = d.coordinator.settings := by
  cases x with
  | request system ticket text host => exact d.settings_request Session.make system ticket text host
  | cancel => exact d.settings_cancel
  | configure s => exact absurd rfl (hx s)
  | session id oc =>
    let started := (d.sessionStep id oc.event).1
    have hcalled : (started.callBack id).1.coordinator.settings = started.coordinator.settings :=
      Machine.run_invariant
        (P := fun d' : Desk (Session Unit) =>
          d'.coordinator.settings = started.coordinator.settings)
        (fun d' e h => (d'.settings_sessionStep id e).trans h) rfl _
    exact hcalled.trans (d.settings_sessionStep id oc.event)

end Desk

end LiveLint

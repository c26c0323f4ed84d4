import LiveLint.Proofs.Desk.Turn

/-!
# One check in flight

At every moment of a desk's life the session in the slot is the newest, and it is the only one that
has not ended. Nobody forgets a process: those of every other session have ended or were killed, and
one that comes after its session was canceled is killed on arrival, before the call of `start` that
asked for it returns.
-/

namespace LiveLint

namespace Session

variable {κ : Type}

/-- A process that comes after its session was canceled. -/
theorem spawned_of_canceled {s : Session κ} {ticket : Nat} {call : StartCall}
    (hcanceled : s.status = .canceled) (hcall : s.startCall? ticket = some call)
    (hplace : call.place = .spawning) (child : Child) :
    ∃ s' line, s.spawned ticket child = (s', [.log line]) ∧
      s'.children = s.children ++ [child.kill] ∧ s'.calling = s.calling := by
  have hhears := spawned_cases s ticket child
  generalize hp : s.spawned ticket child = p at hhears
  cases hhears with
  | ignored =>
    obtain ⟨name, executable, place⟩ := call
    cases hplace
    simp [spawned, hcall, hcanceled] at hp
  | late line _ _ _ => exact ⟨_, line, rfl, rfl, rfl⟩
  | spawned line _ _ hopen => exact absurd hcanceled hopen

end Session

namespace Desk

variable {d : Desk (Session Unit)}

/-- A process for a canceled session is killed in the step in which it comes, and nobody returns. -/
theorem Sound.step_spawned_of_canceled (h : Sound d) {id ticket : Nat} {s : Session Unit}
    {call : StartCall} (hs : d.session? id = some s) (hcanceled : s.status = .canceled)
    (hcall : s.startCall? ticket = some call) (hplace : call.place = .spawning) (child : Child) :
    ∃ s' line, d.step (.session id (.spawned ticket child)) = (d.put id s', [.log line]) ∧
      s'.children = s.children ++ [child.kill] := by
  obtain ⟨s', line, hspawned, hchildren, hcalling⟩ :=
    Session.spawned_of_canceled hcanceled hcall hplace child
  have hstep : s.step (Session.Occurrence.spawned ticket child).event = (s', [.log line]) :=
    hspawned
  have hs' : (d.put id s').session? id = some s' := session?_put_self hs
  refine ⟨s', line, ?_, hchildren⟩
  rw [step_session, sessionStep_of_session hs hstep]
  change (((d.put id s').callBack id).1, [.log line] ++ ((d.put id s').callBack id).2) = _
  rw [callBack_of_calling_nil hs' (hcalling.trans (h.driven id s hs).1.calling)]
  rfl

/-- In every state of a desk's life the session in the slot is the newest one and the only one that
waits or runs; the numbers of checks increase; the processes of all other sessions are stopped; and
a process that comes for a canceled session is killed before the call that asked for it returns. -/
theorem one_session_in_flight (settings : Settings) (parser : OutputParser) (channel : Channel)
    (es : List Event) :
    let after := fun es => (Machine.run step (opened settings parser channel) es).1
    let d := after es
    (∀ id s, (id, s) ∈ d.sessions →
      (s.status.isTerminal = false ↔ d.coordinator.slot = some id)) ∧
    (∀ id, d.coordinator.slot = some id →
      (∃ s, (id, s) ∈ d.sessions) ∧ ∀ p ∈ d.sessions, p.1 ≤ id) ∧
    ((∀ id s, (id, s) ∈ d.sessions → s.checkId = some (id : Int)) ∧
      (d.sessions.map Prod.fst).Pairwise (· < ·) ∧
      ∀ first rest, es = first ++ rest →
        (after first).sessions.map Prod.fst <+: d.sessions.map Prod.fst) ∧
    (∀ id s, (id, s) ∈ d.sessions → d.coordinator.slot ≠ some id →
      ∀ c ∈ s.children, c.Stopped) ∧
    ∀ id s ticket call, (id, s) ∈ d.sessions → s.status = .canceled →
      s.startCall? ticket = some call → call.place = .spawning → ∀ child,
        ∃ s' line, d.step (.session id (.spawned ticket child)) = (d.put id s', [.log line]) ∧
          s'.children = s.children ++ [child.kill] ∧ child.kill.Stopped := by
  intro after d
  have h : Sound d := sound_run settings parser channel es
  have hfound {id : Nat} {s : Session Unit} (hmem : (id, s) ∈ d.sessions) :
      d.session? id = some s := session?_of_mem h.increasing hmem
  refine ⟨fun id s hmem => h.current id s (hfound hmem), fun id hslot => ?_,
    ⟨fun id s hmem => (h.driven id s (hfound hmem)).2, h.increasing, ?_⟩, ?_, ?_⟩
  · obtain ⟨hnext, s, hs⟩ := h.newest id hslot
    refine ⟨⟨s, mem_of_session? hs⟩, fun p hp => ?_⟩
    have := h.requested.lt_of_mem hp
    omega
  · rintro first rest rfl
    simp only [d, after, Machine.run_append]
    exact ((sound_run settings parser channel first).later_run rest).ids
  · intro id s hmem hslot
    have hterminal : s.status.isTerminal := by
      simpa using (h.current id s (hfound hmem)).not.2 hslot
    exact (h.driven id s (hfound hmem)).1.stopped hterminal
  · intro id s ticket call hmem hcanceled hcall hplace child
    obtain ⟨s', line, hstep, hchildren⟩ :=
      h.step_spawned_of_canceled (hfound hmem) hcanceled hcall hplace child
    exact ⟨s', line, hstep, hchildren, child.stopped_kill⟩

/-- A second request while the process of the first one is still being created. -/
def overtaken : List Event :=
  let system : System := { find := fun _ => some "/bin/lint", environment := [] }
  [.request system 1 [] (.caller 1), .request system 2 [] (.caller 2)]

/-- The process of an overtaken check comes late and is killed as it comes. -/
theorem late_process_of_overtaken_check :
    let d := (Machine.run step (opened {} {} .log) overtaken).1
    d.coordinator.slot = some 2 ∧
      ∃ s s' line, (1, s) ∈ d.sessions ∧
        d.step (.session 1 (.spawned 1 { pid := 7 })) = (d.put 1 s', [.log line]) ∧
        s'.children = s.children ++ [Child.kill { pid := 7 }] := by
  intro d
  obtain ⟨s, call, hmem, hcanceled, hcall, hplace⟩ : ∃ s call, (1, s) ∈ d.sessions ∧
      s.status = .canceled ∧ s.startCall? 1 = some call ∧ call.place = .spawning :=
    ⟨_, _, mem_of_session? (show d.session? 1 = some _ from rfl), rfl, rfl, rfl⟩
  obtain ⟨-, -, -, -, hlate⟩ := one_session_in_flight {} {} .log overtaken
  obtain ⟨s', line, hstep, hchildren, -⟩ := hlate 1 s 1 call hmem hcanceled hcall hplace { pid := 7 }
  exact ⟨rfl, s, s', line, hmem, hstep, hchildren⟩

end Desk

end LiveLint

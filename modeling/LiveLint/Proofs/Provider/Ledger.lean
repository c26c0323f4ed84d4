import LiveLint.Proofs.Provider.Machine
import Mathlib.Data.List.Basic

/-!
# Operations on buffers

A host works on its buffers in any order: it asks for their desks, has them checked, changes their
dialects and closes them; and things happen at the desks that were opened for them, also when the
buffer is closed by then. A ledger is a provider of which it is known for whom each desk was opened
(`Ledger.step`). What belongs to one buffer is a ledger by itself (`Ledger.part`): a desk that
changes changes in the part of its owner, and a buffer that is opened or forgotten is so in its own
part only.
-/

namespace LiveLint

namespace Provider

/-- What is done with a buffer whose desks have events of type `ε`. -/
inductive Operation (ε : Type) where
  /-- The desk of the buffer is asked for, and given settings if there are any. -/
  | deskFor (settings : Option Settings)
  | check (system : System) (ticket : Nat) (text : Text) (host : Host)
  | setDialect (dialect : Value)
  | close
  /-- Something happens at a desk of the buffer: the first that was opened for it, or a later
  one. -/
  | desk (n : Nat) (e : ε)

/-- What is seen of a buffer. -/
inductive Observation where
  /-- Something leaves the `n`-th of its desks. -/
  | note (n : Nat) (note : Note)
  | dialect (result : Except Fault Settings)
  | closed (wasOpen : Bool)

attribute [ext] Provider

/-- A provider, with the buffer that each of its desks was opened for. -/
@[ext]
structure Ledger (σ : Type) where
  provider : Provider σ
  owners : List BufferId := []

namespace Ledger

/-- The numbers of the desks that were opened for a buffer, the oldest first. -/
def desksOf (owners : List BufferId) (b : BufferId) : List Nat :=
  (List.range owners.length).filter fun k => owners[k]? == some b

/-- What is seen, and of which buffer. Nobody waits for diagnostics here. -/
def observe (owners : List BufferId) : Seen → Option (BufferId × Observation)
  | .note (.desk k n) => owners[k]?.map fun b => (b, .note ((desksOf owners b).idxOf k) n)
  | .note (.checked ..) => none
  | .dialect b result => some (b, .dialect result)
  | .closed b wasOpen => some (b, .closed wasOpen)

variable {σ ε : Type}

def opened (settings : Settings) (parser : OutputParser) (channel : Channel) : Ledger σ :=
  { provider := .opened settings parser channel }

/-- The event of the provider that an operation is. -/
def event? (w : Ledger σ) (b : BufferId) : Operation ε → Option (Event ε)
  | .deskFor settings => some (.deskFor b settings)
  | .check system ticket text host => some (.check system ticket b text host)
  | .setDialect dialect => some (.setDialect b dialect)
  | .close => some (.close b)
  | .desk n e => (desksOf w.owners b)[n]?.map fun k => .desk k e

/-- What the provider has become by an operation on a buffer, for whom a desk may have been
opened. -/
def grow (w : Ledger σ) (b : BufferId) (p : Provider σ) : Ledger σ where
  provider := p
  owners := if p.desks.length = w.provider.desks.length then w.owners else w.owners ++ [b]

/-- What is seen of the buffers. -/
def sees (w : Ledger σ) (seen : List Seen) : Ledger σ × List (BufferId × Observation) :=
  (w, seen.filterMap (observe w.owners))

/-- One operation. -/
def step [LintSession σ] (make : Desk.Factory σ) (act : Desk σ → ε → Desk σ × List Note)
    (w : Ledger σ) (o : BufferId × Operation ε) : Ledger σ × List (BufferId × Observation) :=
  match w.event? o.1 o.2 with
  | none => (w, [])
  | some e =>
    let (p, seen) := w.provider.step make act e
    (w.grow o.1 p).sees seen

/-- What belongs to a buffer: its desks, and whether it is open and at which of them. -/
def part (w : Ledger σ) (b : BufferId) : Ledger σ where
  provider :=
    { w.provider with
      registry := (w.provider.registry.filter fun r => r.1 == b).map fun r =>
        (b, (desksOf w.owners b).idxOf r.2)
      desks := (desksOf w.owners b).map fun k => w.provider.desks.getD k {} }
  owners := List.replicate (desksOf w.owners b).length b

/-! ## The desks of a buffer -/

section

variable {owners : List BufferId} {b c : BufferId} {k : Nat}

/-- The desks of a buffer are those that it owns. -/
theorem mem_desksOf : k ∈ desksOf owners b ↔ owners[k]? = some b := by
  simp only [desksOf, List.mem_filter, List.mem_range, beq_iff_eq, and_iff_right_iff_imp]
  intro hk
  obtain ⟨hlt, -⟩ := List.getElem?_eq_some_iff.1 hk
  exact hlt

/-- Where nothing stands twice, each place is that of what stands there. -/
theorem idxOf_of_getElem? {ks : List Nat} (hnodup : ks.Nodup) {n : Nat} (hk : ks[n]? = some k) :
    ks.idxOf k = n := by
  obtain ⟨hn, rfl⟩ := List.getElem?_eq_some_iff.1 hk
  exact hnodup.idxOf_getElem n hn

/-- No desk is among those of a buffer twice. -/
theorem nodup_desksOf (owners : List BufferId) (b : BufferId) : (desksOf owners b).Nodup :=
  List.nodup_range.filter _

/-- A new desk is the last one of the buffer that it was opened for. -/
theorem desksOf_append (owners : List BufferId) (b c : BufferId) :
    desksOf (owners ++ [c]) b
      = desksOf owners b ++ if c = b then [owners.length] else [] := by
  have hold : (List.range owners.length).filter (fun k => (owners ++ [c])[k]? == some b)
      = desksOf owners b := by
    refine List.filter_congr fun k hk => ?_
    rw [List.getElem?_append_left (List.mem_range.1 hk)]
  rw [desksOf, List.length_append, List.length_singleton, List.range_succ, List.filter_append, hold]
  congr 1
  by_cases hcb : c = b <;> simp [hcb]

/-- A buffer that owns all desks has all their numbers. -/
theorem desksOf_replicate (n : Nat) (b : BufferId) :
    desksOf (List.replicate n b) b = List.range n := by
  rw [desksOf, List.length_replicate, List.filter_eq_self]
  intro k hk
  simp [List.mem_range.1 hk]

end

/-! ## Ledgers and their parts -/

/-- Every desk has an owner, every open buffer its desk, and nobody waits for diagnostics. -/
structure Sound (w : Ledger σ) : Prop where
  owned : w.owners.length = w.provider.desks.length
  registered : ∀ r ∈ w.provider.registry, w.owners[r.2]? = some r.1
  alone : w.provider.oneShots = []

variable {w : Ledger σ} {b c : BufferId} {k : Nat}

/-- A new ledger has no desk that could be without an owner. -/
theorem sound_opened (settings : Settings) (parser : OutputParser) (channel : Channel) :
    Sound (opened settings parser channel : Ledger σ) where
  owned := rfl
  registered _ hr := by cases hr
  alone := rfl

/-- The desk of an open buffer was opened for it. -/
theorem Sound.owner_of_deskOf? (h : Sound w) (hb : w.provider.deskOf? b = some k) :
    w.owners[k]? = some b := by
  obtain ⟨r, hr, rfl⟩ := Option.map_eq_some_iff.1 hb
  have hfound : r.1 = b := by simpa using List.find?_some hr
  rw [← hfound]
  exact h.registered r (List.mem_of_find?_eq_some hr)

/-- What has an owner is one of the desks. -/
theorem Sound.lt_of_owner (h : Sound w) (hk : w.owners[k]? = some b) :
    k < w.provider.desks.length := by
  obtain ⟨hlt, -⟩ := List.getElem?_eq_some_iff.1 hk
  rw [← h.owned]
  exact hlt

/-- The number of a desk in the part of its owner. -/
def number (w : Ledger σ) (b : BufferId) (k : Nat) : Nat := (desksOf w.owners b).idxOf k

/-- A desk of a buffer has a number among the buffer's own. -/
theorem number_lt (hk : w.owners[k]? = some b) : w.number b k < (desksOf w.owners b).length :=
  List.idxOf_lt_length_of_mem (mem_desksOf.2 hk)

/-- The part of a buffer has the buffer for the owner of its desks. -/
theorem owner_number (hk : w.owners[k]? = some b) :
    (w.part b).owners[w.number b k]? = some b := by
  simp [part, number_lt hk]

/-- The part of a buffer is sound. -/
theorem Sound.part (h : Sound w) (b : BufferId) : Sound (w.part b) where
  owned := by simp [Ledger.part]
  registered r hr := by
    obtain ⟨r, hmem, rfl⟩ := List.mem_map.1 hr
    obtain ⟨hr, hb⟩ := List.mem_filter.1 hmem
    have howner := h.registered r hr
    rw [eq_of_beq hb] at howner
    exact owner_number howner
  alone := h.alone

/-- In its part a buffer is open at the same desk. -/
theorem deskOf?_part (w : Ledger σ) (b : BufferId) :
    (w.part b).provider.deskOf? b = (w.provider.deskOf? b).map (w.number b) := by
  have hfind : (w.provider.registry.filter fun r => r.1 == b).find? (fun _ => true)
      = w.provider.registry.find? fun r => r.1 == b := by
    rw [List.find?_filter]
    congr 1
    funext r
    cases r.1 == b <;> rfl
  simp only [deskOf?, part, List.find?_map, Function.comp_def, beq_self_eq_true, hfind,
    Option.map_map]
  rfl

/-- A desk is in the part of its owner under its number there. -/
theorem Sound.desk_part (h : Sound w) (hk : w.owners[k]? = some b) :
    (w.part b).provider.desks[w.number b k]? = w.provider.desks[k]? := by
  have hnumber : (desksOf w.owners b)[w.number b k]? = some k := by
    rw [List.getElem?_eq_getElem (number_lt hk)]
    simp [number]
  have hlt := h.lt_of_owner hk
  simp [Ledger.part, hnumber, hlt]

/-- Putting a desk in its place is the same for its number in a part. -/
theorem map_getD_set {ks : List Nat} (hnodup : ks.Nodup) {desks : List (Desk σ)}
    (hlt : k < desks.length) (d : Desk σ) :
    ks.map (fun i => (desks.set k d).getD i {})
      = (ks.map fun i => desks.getD i {}).set (ks.idxOf k) d := by
  refine List.ext_getElem (by simp) fun j hj _ => ?_
  have hj : j < ks.length := by simpa using hj
  rw [List.getElem_map, List.getElem_set, List.getElem_map]
  by_cases hjk : ks[j] = k
  · have hidx : ks.idxOf k = j :=
      idxOf_of_getElem? hnodup (by rw [List.getElem?_eq_getElem hj, hjk])
    rw [if_pos hidx, hjk]
    simp [hlt]
  · have hidx : ks.idxOf k ≠ j := by
      rintro rfl
      exact hjk (List.getElem_idxOf hj)
    rw [if_neg hidx, List.getD_eq_getElem?_getD, List.getElem?_set_ne (Ne.symm hjk),
      List.getD_eq_getElem?_getD]

/-! ## What becomes of a part -/

/-- A desk of the buffer is put in its place. -/
theorem Sound.part_put_self (h : Sound w) (hk : w.owners[k]? = some b) (d : Desk σ) :
    ({ w with provider := w.provider.put k d } : Ledger σ).part b
      = { w.part b with provider := (w.part b).provider.put (w.number b k) d } := by
  have hdesks := map_getD_set (nodup_desksOf w.owners b) (h.lt_of_owner hk) d
  simp only [Ledger.part, Provider.put, hdesks, number]

/-- A desk of another buffer is put in its place. -/
theorem part_put_ne (hk : w.owners[k]? = some c) (hcb : c ≠ b) (d : Desk σ) :
    ({ w with provider := w.provider.put k d } : Ledger σ).part b = w.part b := by
  have hdesks : (desksOf w.owners b).map (fun i => (w.provider.desks.set k d).getD i {})
      = (desksOf w.owners b).map fun i => w.provider.desks.getD i {} := by
    refine List.map_congr_left fun i hi => ?_
    have hik : k ≠ i := by
      rintro rfl
      rw [mem_desksOf, hk] at hi
      exact hcb (Option.some.inj hi)
    rw [List.getD_eq_getElem?_getD, List.getElem?_set_ne hik, ← List.getD_eq_getElem?_getD]
  simp only [Ledger.part, Provider.put, hdesks]

/-- A ledger with one more buffer. -/
def openBuffer (w : Ledger σ) (b : BufferId) (settings : Settings) : Ledger σ where
  provider := w.provider.openBuffer b settings
  owners := w.owners ++ [b]

/-- A ledger without a buffer; its desks stay. -/
def forget (w : Ledger σ) (b : BufferId) : Ledger σ :=
  { w with provider := w.provider.forget b }

/-- Forgetting a buffer leaves a ledger sound. -/
theorem Sound.forget (h : Sound w) (b : BufferId) : Sound (w.forget b) where
  owned := h.owned
  registered r hr := h.registered r (List.mem_filter.1 hr).1
  alone := h.alone

/-- A new desk for a buffer leaves a ledger sound. -/
theorem Sound.openBuffer (h : Sound w) (b : BufferId) (settings : Settings) :
    Sound (w.openBuffer b settings) where
  owned := by simp [Ledger.openBuffer, Provider.openBuffer, addDesk, h.owned]
  registered r hr := by
    rcases List.mem_append.1 hr with hr | hr
    · have howner := h.registered r hr
      obtain ⟨hlt, -⟩ := List.getElem?_eq_some_iff.1 howner
      simp [Ledger.openBuffer, List.getElem?_append_left hlt, howner]
    · rw [List.mem_singleton.1 hr]
      simp [Ledger.openBuffer, ← h.owned]
  alone := h.alone

/-- The other desks keep their numbers. -/
theorem number_openBuffer (hk : w.owners[k]? = some b) (c : BufferId) (settings : Settings) :
    (w.openBuffer c settings).number b k = w.number b k := by
  rw [number, Ledger.openBuffer, desksOf_append, List.idxOf_append_of_mem (mem_desksOf.2 hk)]
  rfl

/-- A new desk comes last. -/
theorem number_length (w : Ledger σ) (b : BufferId) (settings : Settings) :
    (w.openBuffer b settings).number b w.owners.length = (desksOf w.owners b).length := by
  have hnew : w.owners.length ∉ desksOf w.owners b := by
    rw [mem_desksOf]
    simp
  rw [number, Ledger.openBuffer, desksOf_append, if_pos rfl, List.idxOf_append_of_notMem hnew]
  simp

/-- A buffer that is opened is registered in its own part, and in no other. -/
theorem Sound.registry_openBuffer (h : Sound w) (b c : BufferId) (settings : Settings) :
    ((w.openBuffer c settings).part b).provider.registry
      = (w.part b).provider.registry
        ++ if c = b then [(b, (desksOf w.owners b).length)] else [] := by
  have hold : (w.provider.registry.filter fun r => r.1 == b).map
      (fun r => (b, (w.openBuffer c settings).number b r.2))
        = (w.part b).provider.registry := by
    refine List.map_congr_left fun r hr => ?_
    obtain ⟨hmem, hb⟩ := List.mem_filter.1 hr
    have howner := h.registered r hmem
    rw [eq_of_beq hb] at howner
    rw [number_openBuffer howner]
    rfl
  have hall : ((w.openBuffer c settings).part b).provider.registry
      = (((w.provider.registry ++ [(c, w.owners.length)]).filter fun r => r.1 == b).map fun r =>
          (b, (w.openBuffer c settings).number b r.2)) := by
    rw [h.owned]
    rfl
  rw [hall, List.filter_append, List.map_append, hold]
  congr 1
  by_cases hcb : c = b
  · subst hcb
    simp [number_length]
  · simp [hcb]

/-- A desk that is opened is in the part of its owner, and in no other. -/
theorem Sound.desks_openBuffer (h : Sound w) (b c : BufferId) (settings : Settings) :
    ((w.openBuffer c settings).part b).provider.desks
      = (w.part b).provider.desks
        ++ if c = b then
          [{ coordinator := { settings, parser := w.provider.parser }
             channel := w.provider.channel }]
        else [] := by
  let new : Desk σ :=
    { coordinator := { settings, parser := w.provider.parser }, channel := w.provider.channel }
  have hold : (desksOf w.owners b).map (fun k => (w.provider.desks ++ [new]).getD k {})
      = (w.part b).provider.desks := by
    refine List.map_congr_left fun k hk => ?_
    have hlt := h.lt_of_owner (mem_desksOf.1 hk)
    rw [List.getD_eq_getElem?_getD, List.getElem?_append_left hlt, ← List.getD_eq_getElem?_getD]
  have hall : ((w.openBuffer c settings).part b).provider.desks
      = (desksOf (w.owners ++ [c]) b).map fun k => (w.provider.desks ++ [new]).getD k {} := rfl
  rw [hall, desksOf_append, List.map_append, hold]
  congr 1
  by_cases hcb : c = b
  · simp [hcb, h.owned, new]
  · simp [hcb]

/-- A buffer that is opened is opened in its own part only. -/
theorem Sound.part_openBuffer (h : Sound w) (b c : BufferId) (settings : Settings) :
    (w.openBuffer c settings).part b
      = if c = b then (w.part b).openBuffer b settings else w.part b := by
  have hregistry := h.registry_openBuffer b c settings
  have hdesks := h.desks_openBuffer b c settings
  have howners : ((w.openBuffer c settings).part b).owners
      = (w.part b).owners ++ if c = b then [b] else [] := by
    simp only [Ledger.part, Ledger.openBuffer, desksOf_append]
    by_cases hcb : c = b <;> simp [hcb, List.replicate_succ']
  by_cases hcb : c = b
  · have hlength : (w.part b).provider.desks.length = (desksOf w.owners b).length :=
      List.length_map _
    rw [if_pos hcb] at hregistry hdesks howners ⊢
    rw [← hlength] at hregistry
    exact Ledger.ext (Provider.ext rfl rfl rfl hregistry hdesks rfl) howners
  · rw [if_neg hcb, List.append_nil] at hregistry hdesks howners
    rw [if_neg hcb]
    exact Ledger.ext (Provider.ext rfl rfl rfl hregistry hdesks rfl) howners

/-- A buffer that is forgotten is forgotten in its own part only. -/
theorem part_forget (w : Ledger σ) (b c : BufferId) :
    (w.forget c).part b = if c = b then (w.part b).forget b else w.part b := by
  by_cases hcb : c = b
  · subst hcb
    rw [if_pos rfl]
    refine Ledger.ext (Provider.ext rfl rfl rfl ?_ rfl rfl) rfl
    simp [Ledger.part, Ledger.forget, Provider.forget, List.filter_filter, List.filter_map,
      Function.comp_def]
  · rw [if_neg hcb]
    refine Ledger.ext (Provider.ext rfl rfl rfl ?_ rfl rfl) rfl
    have hkept : (w.provider.registry.filter fun r => r.1 != c).filter (fun r => r.1 == b)
        = w.provider.registry.filter fun r => r.1 == b := by
      rw [List.filter_filter]
      refine List.filter_congr fun r _ => ?_
      by_cases hrb : r.1 = b
      · simp [hrb, Ne.symm hcb]
      · simp [hrb]
    simp only [Ledger.part, Ledger.forget, Provider.forget, hkept]

end Ledger

end Provider

end LiveLint

import Fmarch.Domain.EventCodec
import Fmarch.Resolver.PendingPoison
import Fmarch.Resolver.Treestumps

/-!
# The events of a resolution are read as they were written

An investigation result that is a bag with `visited` alone would be read as a Track result. No resolution says
one: what it tells of an investigation passes the validator of its mode, and what it remembers is a label.

**`emitted_roundTrip`**: every event of every resolution is read as the event written.
-/

namespace Fmarch.Resolver

open Fmarch.Domain

/-- No mode but Track has a result with `visited`, and a Track result is no bag. -/
theorem not_onlyVisited_of_valid {index : Nat} {mode : InvestigateMode} {bag : InvestigationResultFields}
    (h : validateInvestigationResult index mode (.fields bag) = .ok ()) : ¬ bag.OnlyVisited := by
  rintro ⟨visited, rfl⟩
  cases mode <;> cases h

section Emitted

variable {F : Type} [Float64 F] {input : ResolutionInput F} {out : ResolutionOutput F}

omit [Float64 F] in
theorem Interim.unambiguous {event : InnerEvent F} (h : Interim event) : event.Unambiguous := by
  cases event with
  | investigationResult mode investigator target result =>
    intro bag hbag
    subst hbag
    exact not_onlyVisited_of_valid (h 0)
  | investigationMemoryRecorded =>
    obtain ⟨label, rfl⟩ := h
    exact fun _ hbag => nomatch hbag
  | _ => exact trivial

theorem Parts.Sorted.unambiguous {parts : Parts F} (h : parts.Sorted) :
    ∀ event ∈ parts.events input, event.Unambiguous := by
  intro event hevent
  rcases List.mem_append.1 hevent with hbody | hafter
  · exact (h.body event hbody).unambiguous
  · rcases List.mem_cons.1 hafter with rfl | hwin
    · exact trivial
    · have hwon := h.wins event hwin
      cases event <;> first | exact trivial | cases hwon

/-- The events of a resolution, of a phase or of an instant action, have sorted parts. -/
theorem Resolves.parts (h : Resolves input out) : ∃ parts : Parts F, parts.Sorted ∧
    out.applied.events.map (·.event) = parts.events input := by
  rcases h with h | h
  · exact ⟨finalParts input, finalParts_sorted input, (resolve_events h).1⟩
  · have hsorted : (instantParts input).Sorted :=
      ⟨fun event hevent => (instantParts_staged input event hevent).interim, by simp [instantParts]⟩
    unfold resolveInstant at h
    split at h
    · cases h
    · exact ⟨_, (hsorted.tagged input).finished input, (hsorted.finalizeResolution rfl h).1⟩

theorem emitted_unambiguous (h : Resolves input out) :
    ∀ indexed ∈ out.applied.events, indexed.event.Unambiguous := by
  intro indexed hindexed
  obtain ⟨parts, hsorted, hevents⟩ := h.parts
  have hmem : indexed.event ∈ parts.events input := by
    rw [← hevents]
    exact List.mem_map_of_mem hindexed
  exact hsorted.unambiguous _ hmem

end Emitted

/-- **What a resolution says is read as it was written. A Track result is read as one, and a bag of fields as a bag,
but for the bag whose only field is `visited`, which is the Track result of its slots.** -/
theorem emitted_roundTrip :
    (∀ (F : Type) [Float64 F] [JsonFloat F] (input : ResolutionInput F) (out : ResolutionOutput F),
      Resolves input out → ∀ indexed ∈ out.applied.events, indexed.event.InRange →
        ∃ event, InnerEvent.deserialize indexed.event.serialize = some event ∧ event.Same indexed.event) ∧
    (∀ visited : List SlotId, InvestigationResultBody.read (InvestigationResultBody.write (.track visited)) =
      some (.track visited)) ∧
    ∀ bag : InvestigationResultFields,
      (InvestigationResultBody.read (InvestigationResultBody.write (.fields bag)) = some (.fields bag) ∨
        bag.OnlyVisited) ∧
      ∀ visited, InvestigationResultBody.read (InvestigationResultBody.write (.fields bag)) =
        some (.track visited) → bag = { visited := some visited } := by
  refine ⟨fun F _ _ input out h indexed hindexed hrange => ?_, InvestigationResultBody.read_track,
    fun bag => ⟨?_, fun visited hread => ?_⟩⟩
  · have hread := InnerEvent.deserialize_serialize hrange (emitted_unambiguous h indexed hindexed)
    exact ⟨_, hread, InnerEvent.rebuilt_same indexed.event⟩
  · by_cases honly : bag.OnlyVisited
    · exact .inr honly
    · exact .inl (InvestigationResultBody.read_fields.2 honly)
  · by_cases honly : bag.OnlyVisited
    · obtain ⟨slots, rfl⟩ := honly
      rw [InvestigationResultBody.read_onlyVisited] at hread
      cases hread
      rfl
    · rw [InvestigationResultBody.read_fields.2 honly] at hread
      cases hread

/-- A bag that says nothing but who was visited is not read as one. -/
theorem visitedBag_readsAsTrack : ¬ ∀ bag : InvestigationResultFields,
      InvestigationResultBody.read (InvestigationResultBody.write (.fields bag)) = some (.fields bag) := by
  intro h
  have hread := h { visited := some ["a"] }
  rw [InvestigationResultBody.read_onlyVisited] at hread
  cases hread

theorem accepted_villagePack : Accepted (villagePack []) [] := .of_plain (by decide) rfl rfl

/-- A night in which nobody acts. -/
def quietNight : ResolutionInput Rat :=
  village ⟨villagePack [], [], accepted_villagePack⟩
    { phaseId := .first .night, slots := [townie "a", townie "b", goon "g"] } []

/-- Its announcement is read as it was written. -/
theorem quietNight_roundTrip : ∃ out, Resolves quietNight out ∧ out.applied.events.length = 1 ∧
    ∀ indexed ∈ out.applied.events, ∃ event,
      InnerEvent.deserialize indexed.event.serialize = some event ∧ event.Same indexed.event := by
  have hcomputed : (resolve quietNight).toOption.map (fun out => out.applied.events.map (·.event.kind)) =
      some [.phaseAnnouncement] := by decide +kernel
  cases hresolve : resolve quietNight with
  | error error =>
    rw [hresolve] at hcomputed
    cases hcomputed
  | ok out =>
    rw [hresolve] at hcomputed
    have hkinds : out.applied.events.map (·.event.kind) = [.phaseAnnouncement] := Option.some.inj hcomputed
    refine ⟨out, .inl hresolve, by simpa using congrArg List.length hkinds, fun indexed hindexed => ?_⟩
    have hkind : indexed.event.kind = .phaseAnnouncement := by
      have hmem : indexed.event.kind ∈ out.applied.events.map (·.event.kind) := List.mem_map_of_mem hindexed
      rw [hkinds] at hmem
      exact List.mem_singleton.1 hmem
    have hrange : indexed.event.InRange := by
      cases hevent : indexed.event <;> first | exact trivial | (rw [hevent] at hkind; cases hkind)
    exact emitted_roundTrip.1 Rat quietNight out (.inl hresolve) indexed hindexed hrange

end Fmarch.Resolver

import TrackerFilter.Proofs.Draft.Save
import TrackerFilter.Proofs.Event

/-!
Saving a draft whose events are all on offer. The bare stem of the update events, which a custom field
without a key and a name offers, is the only one of them that can be refused as unknown.
-/
namespace TrackerFilter

section
variable {α : Type} {xs ys : List α} {a : α}

theorem head?_append_of_notMem_left (h : a ∉ xs) :
    (xs ++ ys).head? = some a ↔ xs = [] ∧ ys.head? = some a := by
  cases xs with
  | nil => simp
  | cons x rest =>
    have hx : x ≠ a := fun e => h (e ▸ List.mem_cons_self)
    simp [hx]

theorem head?_append_of_notMem_right (h : a ∉ ys) :
    (xs ++ ys).head? = some a ↔ xs.head? = some a := by
  cases xs with
  | nil => exact iff_of_false (fun he => h (List.mem_of_head? he)) (by simp)
  | cons x rest => rfl

end

namespace Gate

variable {names events : List String}

theorem head?_eventFaults :
    (eventFaults events).head? = some (.unknownEvents names) ↔
      names ≠ [] ∧ names = events.filter fun e => !Event.isKnown e := by
  have hk : (∃ e ∈ events, Event.isKnown e = false) ↔
      events.filter (fun e => !Event.isKnown e) ≠ [] := by
    simp [List.filter_eq_nil_iff]
  rw [eventFaults]
  simp only [hk]
  by_cases he : events = []
  · simp [refusedIf, he]
  · by_cases hu : events.filter (fun e => !Event.isKnown e) = []
    · simp [refusedIf, he, hu]
    · simp only [refusedIf, if_neg he, if_pos hu, List.nil_append, List.head?_cons, Option.some.injEq,
        Refusal.unknownEvents.injEq]
      exact ⟨fun h => ⟨h ▸ hu, h.symm⟩, fun h => h.2.symm⟩

theorem unknownEvents_notMem_filterFaults {policy : Policy} {fields : List CatalogField}
    {filters : List FieldFilter} : .unknownEvents names ∉ filterFaults policy fields filters := by
  simp only [filterFaults, List.mem_flatMap, not_exists, not_and]
  intro v _
  cases findField fields v.key <;>
    simp [FieldFilter.faults, FieldFilter.inclusionFaults, mem_refusedIf]

end Gate

namespace Subscription

section
variable {m : Option Metadata} {f : Subscription} {b : Bool} {names projects : List String}

theorem save_eq_unknownEvents :
    f.save m b = .error (.unknownEvents names) ↔
      (∃ key, f.projectKey = some key ∧ key ≠ "" ∧ hasProject m key = true) ∧
        names ≠ [] ∧ names = f.events.filter fun e => !Event.isKnown e := by
  have hunknown : .unknownEvents names ∉ unknownProjectFaults m f := by
    rw [unknownProjectFaults]
    cases f.projectKey <;> simp [mem_refusedIf]
  have hproject : .unknownEvents names ∉ Gate.projectFaults f := by
    simp [Gate.projectFaults, mem_refusedIf]
  have hlater : .unknownEvents names ∉ Gate.issueTypeFaults f.issueTypes ++
      (Gate.filterFaults ⟨b⟩ (f.catalog m) f.fields ++
        Gate.conflictFaults (f.catalog m) (f.offeredIssueTypes m) f.issueTypes f.fields) := by
    simp [Gate.issueTypeFaults, mem_refusedIf, Gate.unknownEvents_notMem_filterFaults,
      Gate.conflictFaults]
  rw [save_eq, verdict_eq_error, faults, Gate.faults]
  simp only [List.append_assoc]
  rw [head?_append_of_notMem_left hunknown, head?_append_of_notMem_left hproject,
    head?_append_of_notMem_right hlater, Gate.head?_eventFaults, ← and_assoc, project_faults_eq_nil]

theorem unknown_events_of_offered (h : ∀ e ∈ f.events, e ∈ Event.offered m projects) :
    (f.events.filter fun e => !Event.isKnown e) = f.events.filter (· = Event.updateStem) := by
  refine List.filter_congr fun e he => ?_
  have hk := Event.isKnown_offered (h e he)
  rw [Bool.eq_iff_iff, Bool.not_eq_true', ← Bool.not_eq_true, hk]
  simp

end

end Subscription

/-- Saving knows every update event on offer exactly if no custom field is anonymous, that is, without a
key and a name in its descriptor. A subscription to events on offer alone is refused for an unknown event
exactly if it holds the event of such a field, the bare stem, and its project is known; no other event is
told of. -/
theorem offered_events_known_iff (m : Option Metadata) (projects : List String) :
    ((∀ o ∈ Event.custom m projects, Event.isKnown o.value = true) ↔
        ∀ g ∈ groupedFields m projects, ¬ g.IsAnonymous) ∧
      ∀ (d : Option Metadata) (f : Subscription) (b : Bool) (names : List String),
        (∀ e ∈ f.events, e ∈ Event.offered m projects) →
          (f.save d b = .error (.unknownEvents names) ↔
            (∃ key, f.projectKey = some key ∧ key ≠ "" ∧ Subscription.hasProject d key = true) ∧
              Event.updateStem ∈ f.events ∧ names = f.events.filter (· = Event.updateStem)) := by
  refine ⟨Event.custom_known_iff, fun d f b names h => ?_⟩
  rw [Subscription.save_eq_unknownEvents, Subscription.unknown_events_of_offered h]
  refine and_congr_right fun _ => ?_
  constructor
  · intro hn
    obtain ⟨hne, rfl⟩ := hn
    refine ⟨?_, rfl⟩
    obtain ⟨e, he⟩ := List.exists_mem_of_ne_nil _ hne
    obtain ⟨hmem, hstem⟩ := List.mem_filter.mp he
    exact of_decide_eq_true hstem ▸ hmem
  · intro hn
    obtain ⟨hmem, rfl⟩ := hn
    exact ⟨List.ne_nil_of_mem (List.mem_filter.mpr ⟨hmem, by simp⟩), rfl⟩

def partlyNamed : Metadata where
  projects := [⟨"KT", [⟨"1", "Bug", false, [
    ("customfield_1", ⟨none, "", false, ⟨"any", some "team", none, none⟩, none⟩),
    ("customfield_2", ⟨none, "Team", false, ⟨"any", some "team", none, none⟩, none⟩)]⟩]⟩]
  workflows := []

def updatesDraft : Subscription :=
  ⟨["event_created", "event_updated_", "event_updated_Team"], ["KT"], ["1"], []⟩

theorem offered_event_refused :
    (∀ e ∈ updatesDraft.events, e ∈ Event.offered (some partlyNamed) ["KT"]) ∧
      updatesDraft.save (some partlyNamed) false = .error (.unknownEvents ["event_updated_"]) := by
  decide +kernel

theorem offered_events_updatesDraft :
    (∀ e ∈ updatesDraft.events, e ∈ Event.offered (some partlyNamed) ["KT"]) ∧
      (∃ g ∈ groupedFields (some partlyNamed) ["KT"], g.IsAnonymous) ∧
      updatesDraft.save (some partlyNamed) false = .error (.unknownEvents ["event_updated_"]) := by
  have h : ∀ e ∈ updatesDraft.events, e ∈ Event.offered (some partlyNamed) ["KT"] := by decide +kernel
  obtain ⟨hall, hsave⟩ := offered_events_known_iff (some partlyNamed) ["KT"]
  refine ⟨h, ?_, (hsave (some partlyNamed) updatesDraft false _ h).mpr ?_⟩
  · by_contra hn
    push Not at hn
    exact absurd (hall.mpr hn) (by decide +kernel)
  · exact ⟨⟨"KT", by decide +kernel⟩, by decide +kernel⟩

end TrackerFilter

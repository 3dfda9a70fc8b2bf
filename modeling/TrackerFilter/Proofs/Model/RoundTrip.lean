import TrackerFilter.Proofs.Catalog.WellFormed
import TrackerFilter.Proofs.Draft.Idempotence
import TrackerFilter.Proofs.Model.Written

/-!
Reading undoes writing, for every kind of data that is received or sent. A value that was received is
written with all its fields under their first names, and reading that gives the value again. So it is for
what is made here and was never received: the fields of a catalog, and the filters that the gate accepts.
-/
namespace TrackerFilter

open Wire

structure DataKind where
  Value : Type
  layout : Fields Value
  model : Model Value

def dataKinds (L : Library) : List DataKind := [
  ⟨AllowedValue, AllowedValue.layout L, AllowedValue.model L⟩,
  ⟨Schema, Schema.layout L, Schema.model L⟩,
  ⟨Descriptor, Descriptor.layout L, Descriptor.model L⟩,
  ⟨IssueType, IssueType.layout L, IssueType.model L⟩,
  ⟨Project, Project.layout L, Project.model L⟩,
  ⟨Status, Status.layout L, Status.model L⟩,
  ⟨Workflow, Workflow.layout L, Workflow.model L⟩,
  ⟨Metadata, Metadata.layout L, Metadata.model L⟩,
  ⟨IssueTypeRef, IssueTypeRef.layout L, IssueTypeRef.model L⟩,
  ⟨FieldOption, FieldOption.layout L, FieldOption.model L⟩,
  ⟨CatalogField, CatalogField.layout L, CatalogField.model L⟩,
  ⟨FieldFilter, FieldFilter.layout L, FieldFilter.model L⟩,
  ⟨Subscription, Subscription.layout L, Subscription.model L⟩,
  ⟨EventOption, EventOption.layout L, EventOption.model L⟩,
  ⟨Policy, Policy.layout L, Policy.model L⟩,
  ⟨Acceptance, Acceptance.layout L, Acceptance.model L⟩,
  ⟨Preview, Preview.layout L, Preview.model L⟩]

namespace DataKind

variable {k : DataKind}

def WritesFields (k : DataKind) : Prop :=
  ∀ x, ∃ members, k.model.encode x = .obj members ∧
    members.map Prod.fst = k.layout.slots.map Slot.name

def Rereads (k : DataKind) : Prop :=
  ∀ v x, k.model.decode v = .sound x → k.model.decode (k.model.encode x) = .sound x

theorem Rereads.of_ensures {P : k.Value → Prop} (hp : k.model.decode.Ensures P)
    (h : ∀ x, P x → k.model.decode (k.model.encode x) = .sound x) : k.Rereads :=
  fun v x hv => h x (hp v x hv)

theorem Rereads.of_forall (h : ∀ x, k.model.decode (k.model.encode x) = .sound x) : k.Rereads :=
  fun _ x _ => h x

end DataKind

theorem writesFields_of_mem_dataKinds (L : Library) : ∀ k ∈ dataKinds L, k.WritesFields := by
  simp only [dataKinds, List.forall_mem_cons, List.not_mem_nil, false_imp_iff, implies_true, and_true]
  and_intros <;> exact fun _ => ⟨_, rfl, rfl⟩

theorem rereads_of_mem_dataKinds {L : Library} (hL : L.Documented) : ∀ k ∈ dataKinds L, k.Rereads := by
  simp only [dataKinds, List.forall_mem_cons, List.not_mem_nil, false_imp_iff, implies_true, and_true]
  and_intros
  · exact .of_forall (AllowedValue.decode_encode hL)
  · exact .of_forall (Schema.decode_encode hL)
  · exact .of_forall (Descriptor.decode_encode hL)
  · exact .of_forall (IssueType.decode_encode hL)
  · exact .of_forall (Project.decode_encode hL)
  · exact .of_forall (Status.decode_encode hL)
  · exact .of_forall (Workflow.decode_encode hL)
  · exact .of_forall (Metadata.decode_encode hL)
  · exact .of_forall (IssueTypeRef.decode_encode hL)
  · exact .of_forall (FieldOption.decode_encode hL)
  · exact .of_ensures (CatalogField.decode_ensures hL) fun _ => CatalogField.decode_encode hL
  · exact .of_ensures (FieldFilter.decode_ensures hL) fun _ => FieldFilter.decode_encode hL
  · exact .of_ensures (Subscription.decode_ensures hL) fun _ => Subscription.decode_encode hL
  · exact .of_forall (EventOption.decode_encode hL)
  · exact .of_forall (Policy.decode_encode hL)
  · exact .of_ensures (Acceptance.decode_ensures hL) fun _ => Acceptance.decode_encode hL
  · exact .of_forall (Preview.decode_encode hL)

theorem Gate.wellFormed_of_evaluate {policy : Policy} {fields : List CatalogField}
    {issueTypes : List IssueType} {f : Subscription} {a : Acceptance} (hf : f.WellFormed)
    (h : evaluate policy fields issueTypes f = .ok a) : a.subscription.WellFormed := by
  obtain ⟨_, rfl⟩ := evaluate_eq_ok.mp h
  obtain ⟨hevents, hissueTypes, hkeys⟩ := hf
  refine ⟨hevents, hissueTypes, fun v hv => ?_⟩
  obtain ⟨u, hu, rfl⟩ := List.mem_map.mp hv
  exact hkeys u (List.mem_filter.mp hu).1

/-- With a library that keeps to its documentation, every value that was received, every field of a catalog,
and every subscription that the gate accepts is written as an object with all its fields, each under its
name, that is accepted as that value. -/
theorem validate_encode (L : Library) (hL : L.Documented) :
    (∀ k ∈ dataKinds L, ∀ (v : Json) (x : k.Value), k.model.validate v = .ok x →
      ∃ members, k.model.encode x = .obj members ∧
        members.map Prod.fst = k.layout.slots.map Slot.name ∧
        k.model.validate (.obj members) = .ok x) ∧
    (∀ m projects selection, ∀ f ∈ catalog m projects selection,
      (CatalogField.model L).validate f.encode = .ok f) ∧
    ∀ policy fields issueTypes (f : Subscription) a, f.WellFormed →
      Gate.evaluate policy fields issueTypes f = .ok a →
        (Subscription.model L).validate a.subscription.encode = .ok a.subscription := by
  simp only [Wire.Model.validate_eq_ok]
  refine ⟨fun k hk v x hv => ?_, fun m projects selection f hf => ?_, ?_⟩
  · obtain ⟨members, hm, hkeys⟩ := writesFields_of_mem_dataKinds L k hk x
    exact ⟨members, hm, hkeys, hm ▸ rereads_of_mem_dataKinds hL k hk v x hv⟩
  · exact CatalogField.decode_encode hL (isConsistent_of_mem_catalog hf)
  · intro policy fields issueTypes f a hf ha
    exact Subscription.decode_encode hL (Gate.wellFormed_of_evaluate hf ha)

theorem validate_encode_untidyDraft :
    (Subscription.model .standard).validate (.obj [
        ("fields", .arr [.obj [("values", .arr [.int 1]), ("key", .str "priority")]]),
        ("events", .arr [.str "event_created", .str "event_created"])]) =
      .ok ⟨["event_created"], [], [], [⟨"priority", .includeAny, ["1"]⟩]⟩ ∧
    (Subscription.model .standard).validate (.obj [
        ("events", .arr [.str "event_created"]), ("projects", .arr []), ("issue_types", .arr []),
        ("fields", .arr [.obj [("key", .str "priority"), ("inclusion", .str "include_any"),
          ("values", .arr [.str "1"])]])]) =
      .ok ⟨["event_created"], [], [], [⟨"priority", .includeAny, ["1"]⟩]⟩ ∧
    (∃ f ∈ catalog (some prioritized) ["KT"] ["1"], (CatalogField.model .standard).validate f.encode = .ok f) ∧
    Gate.evaluate ⟨true⟩ (untidyDraft.catalog (some prioritized)) [] untidyDraft = .ok tidied ∧
    (Subscription.model .standard).validate tidied.subscription.encode = .ok tidied.subscription := by
  obtain ⟨hread, hcatalog, hgate⟩ := validate_encode .standard Library.standard_documented
  have hv : (Subscription.model .standard).validate (.obj [
      ("fields", .arr [.obj [("values", .arr [.int 1]), ("key", .str "priority")]]),
      ("events", .arr [.str "event_created", .str "event_created"])]) =
    .ok ⟨["event_created"], [], [], [⟨"priority", .includeAny, ["1"]⟩]⟩ := by rfl
  obtain ⟨members, hm, _, hr⟩ :=
    hread ⟨Subscription, Subscription.layout .standard, Subscription.model .standard⟩ (by simp [dataKinds])
      _ _ hv
  obtain ⟨f, rest, hf⟩ : ∃ f rest, catalog (some prioritized) ["KT"] ["1"] = f :: rest :=
    List.exists_cons_of_ne_nil (by decide +kernel)
  have hmem : f ∈ catalog (some prioritized) ["KT"] ["1"] := hf ▸ List.mem_cons_self
  have he : Gate.evaluate ⟨true⟩ (untidyDraft.catalog (some prioritized)) [] untidyDraft =
      .ok tidied := by decide +kernel
  have hw : untidyDraft.WellFormed := ⟨by decide, by decide, by decide⟩
  refine ⟨hv, ?_, ⟨f, hmem, hcatalog _ _ _ f hmem⟩, he, hgate _ _ _ _ _ hw he⟩
  cases hm
  exact hr

end TrackerFilter

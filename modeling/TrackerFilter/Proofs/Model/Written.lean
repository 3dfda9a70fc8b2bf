import TrackerFilter.Model.Answer
import TrackerFilter.Model.Catalog
import TrackerFilter.Proofs.Wire.Reading

/-!
Each model reads what it writes. Where a model keeps a rule, its reader gives only values that keep the
rule, and of the values that keep it every one is read again.
-/
namespace TrackerFilter

open Wire Wire.Fields

variable {L : Library} (hL : L.Documented)
include hL

theorem textual_list_encodeList (xs : List String) :
    L.list L.textual (Model.encodeList .str xs) = .sound xs :=
  hL.list_encodeList fun _ _ => hL.textual_str _

theorem text_list_encodeList (xs : List String) :
    L.list L.text (Model.encodeList .str xs) = .sound xs :=
  hL.list_encodeList fun _ _ => hL.text_str _

theorem textual_nullable_encodeOption (o : Option String) :
    L.nullable L.textual (Model.encodeOption .str o) = .sound o :=
  hL.nullable_encodeOption (fun _ => Json.noConfusion) fun _ _ => hL.textual_str _

theorem text_nullable_encodeOption (o : Option String) :
    L.nullable L.text (Model.encodeOption .str o) = .sound o :=
  hL.nullable_encodeOption (fun _ => Json.noConfusion) fun _ _ => hL.text_str _

theorem AllowedValue.decode_encode (v : AllowedValue) : (model L).decode v.encode = .sound v := by
  refine hL.record_written (read_optional (read_optional (read_required read_make rfl ?_) rfl ?_) rfl ?_) rfl
  · exact hL.textual_str v.id
  · exact textual_nullable_encodeOption hL v.name
  · exact textual_nullable_encodeOption hL v.value

theorem Schema.decode_encode (s : Schema) : (model L).decode s.encode = .sound s := by
  refine hL.record_written (read_optional (read_optional (read_optional (read_optional read_make rfl ?_) rfl ?_)
    rfl ?_) rfl ?_) rfl
  · exact hL.text_str s.type
  · exact text_nullable_encodeOption hL s.custom
  · exact text_nullable_encodeOption hL s.items
  · exact text_nullable_encodeOption hL s.system

theorem Descriptor.decode_encode (d : Descriptor) : (model L).decode d.encode = .sound d := by
  refine hL.record_written (read_optional (read_optional (read_optional (read_optional (read_optional
    read_make rfl ?_) rfl ?_) rfl ?_) rfl ?_) rfl ?_) rfl
  · exact textual_nullable_encodeOption hL d.key
  · exact hL.textual_str d.name
  · exact hL.boolean_bool d.required
  · exact d.schema.decode_encode hL
  · refine hL.nullable_encodeOption (fun _ => Json.noConfusion) fun _ _ => ?_
    exact hL.list_encodeList fun v _ => v.decode_encode hL

theorem IssueType.decode_encode (t : IssueType) : (model L).decode t.encode = .sound t := by
  refine hL.record_written (read_optional (read_optional (read_optional (read_required read_make rfl ?_) rfl ?_)
    rfl ?_) rfl ?_) rfl
  · exact hL.textual_str t.id
  · exact hL.textual_str t.name
  · exact hL.boolean_bool t.subtask
  · exact hL.mapping_map fun f _ => f.2.decode_encode hL

theorem Project.decode_encode (p : Project) : (model L).decode p.encode = .sound p := by
  refine hL.record_written (read_optional (read_required read_make rfl ?_) rfl ?_) rfl
  · exact hL.text_str p.key
  · exact hL.list_encodeList fun t _ => t.decode_encode hL

theorem Status.decode_encode (s : Status) : (model L).decode s.encode = .sound s := by
  refine hL.record_written (read_optional (read_required read_make rfl ?_) rfl ?_) rfl
  · exact hL.textual_str s.id
  · exact hL.textual_str s.name

theorem Workflow.decode_encode (w : Workflow) : (model L).decode w.encode = .sound w := by
  refine hL.record_written (read_optional (read_optional (read_required read_make rfl ?_) rfl ?_) rfl ?_) rfl
  · exact hL.textual_str w.id
  · exact hL.textual_str w.name
  · exact hL.list_encodeList fun s _ => s.decode_encode hL

theorem Metadata.decode_encode (m : Metadata) : (model L).decode m.encode = .sound m := by
  refine hL.record_written (read_optional (read_optional read_make rfl ?_) rfl ?_) rfl
  · exact hL.list_encodeList fun p _ => p.decode_encode hL
  · exact hL.list_encodeList fun w _ => w.decode_encode hL

theorem IssueTypeRef.decode_encode (t : IssueTypeRef) : (model L).decode t.encode = .sound t := by
  refine hL.record_written (read_required (read_required read_make rfl ?_) rfl ?_) rfl
  · exact hL.text_str t.id
  · exact hL.text_str t.name

theorem FieldOption.decode_encode (o : FieldOption) : (model L).decode o.encode = .sound o := by
  refine hL.record_written (read_required (read_required read_make rfl ?_) rfl ?_) rfl
  · exact hL.text_str o.value
  · exact hL.text_str o.label

theorem FieldKind.among_name (k : FieldKind) : L.among name all (.str k.name) = .sound k :=
  hL.among_name name all (by decide) k (by cases k <;> decide)

theorem Inclusion.among_name (i : Inclusion) : L.among name all (.str i.name) = .sound i :=
  hL.among_name name all (by decide) i (by cases i <;> decide)

namespace CatalogField

theorem decode_encode {f : CatalogField} (h : f.isConsistent = true) :
    (model L).decode f.encode = .sound f := by
  have hr : L.record (layout L) "FilterableField" .refused f.encode = .sound f := by
    refine hL.record_written (read_optional (read_optional (read_optional (read_optional (read_required
      (read_required (read_required read_make rfl ?_) rfl ?_) rfl ?_) rfl ?_) rfl ?_) rfl ?_) rfl ?_) rfl
    · exact hL.text_str f.key
    · exact hL.text_str f.name
    · exact f.schema.decode_encode hL
    · exact f.kind.among_name hL
    · exact hL.list_encodeList fun o _ => o.decode_encode hL
    · exact hL.boolean_bool f.userDefined
    · exact hL.list_encodeList fun t _ => t.decode_encode hL
  exact (hL.after_sound checkConsistent _ _ f).mpr ⟨f, hr, if_pos h⟩

theorem decode_ensures : (model L).decode.Ensures fun f => f.isConsistent = true := by
  refine hL.ensures_after fun f g hg => ?_
  rw [checkConsistent] at hg
  split at hg
  · next h => exact Except.ok.inj hg ▸ h
  · exact nomatch hg

end CatalogField

namespace FieldFilter

theorem decode_encode {v : FieldFilter} (h : v.key ≠ "") : (model L).decode v.encode = .sound v := by
  refine hL.record_written (read_optional (read_optional (read_required read_make rfl ?_) rfl ?_) rfl ?_) rfl
  · exact (hL.nonempty_sound _ _ _).mpr ⟨hL.textual_str v.key, h⟩
  · exact v.inclusion.among_name hL
  · exact textual_list_encodeList hL v.values

theorem decode_ensures : (model L).decode.Ensures fun v => v.key ≠ "" := by
  have hkey : (L.nonempty L.textual).Ensures fun key => key ≠ "" :=
    fun v s hs => ((hL.nonempty_sound _ v s).mp hs).2
  refine hL.ensures_record fun members v h => ?_
  obtain ⟨_, values, h₁, _, rfl⟩ := read_optional_eq_sound.mp h
  obtain ⟨_, inclusion, h₂, _, rfl⟩ := read_optional_eq_sound.mp h₁
  obtain ⟨_, key, h₃, hread, rfl⟩ := read_required_eq_sound.mp h₂
  cases h₃
  exact Slot.ensures_read (P := fun key => key ≠ "") hread hkey (by simp)

end FieldFilter

namespace Subscription

theorem textSet_encodeList {xs : List String} (h : xs.Nodup) :
    textSet L (Model.encodeList .str xs) = .sound xs := by
  refine (hL.after_sound _ _ _ xs).mpr ⟨xs, textual_list_encodeList hL xs, ?_⟩
  rw [distinct_of_nodup h]

theorem textSet_ensures : Decoder.Ensures (textSet L) List.Nodup :=
  hL.ensures_after fun xs _ h => Except.ok.inj h ▸ nodup_distinct xs

theorem decode_encode {f : Subscription} (h : f.WellFormed) : (model L).decode f.encode = .sound f := by
  obtain ⟨hevents, hissueTypes, hkeys⟩ := h
  refine hL.record_written (read_optional (read_optional (read_optional (read_optional read_make rfl ?_) rfl ?_)
    rfl ?_) rfl ?_) rfl
  · exact textSet_encodeList hL hevents
  · exact textual_list_encodeList hL f.projects
  · exact textSet_encodeList hL hissueTypes
  · exact hL.list_encodeList fun v hv => FieldFilter.decode_encode hL (hkeys v hv)

theorem decode_ensures : (model L).decode.Ensures WellFormed := by
  refine hL.ensures_record fun members f h => ?_
  obtain ⟨_, fields, h₁, hfields, rfl⟩ := read_optional_eq_sound.mp h
  obtain ⟨_, issueTypes, h₂, hissueTypes, rfl⟩ := read_optional_eq_sound.mp h₁
  obtain ⟨_, projects, h₃, _, rfl⟩ := read_optional_eq_sound.mp h₂
  obtain ⟨_, events, h₄, hevents, rfl⟩ := read_optional_eq_sound.mp h₃
  cases h₄
  refine ⟨?_, ?_, ?_⟩
  · exact Slot.ensures_read hevents (textSet_ensures hL) (by simp)
  · exact Slot.ensures_read hissueTypes (textSet_ensures hL) (by simp)
  · exact Slot.ensures_read hfields (hL.ensures_list (FieldFilter.decode_ensures hL)) (by simp)

end Subscription

theorem EventOption.decode_encode (e : EventOption) : (model L).decode e.encode = .sound e := by
  refine hL.record_written (read_required (read_required read_make rfl ?_) rfl ?_) rfl
  · exact hL.text_str e.value
  · exact hL.text_str e.label

theorem Policy.decode_encode (p : Policy) : (model L).decode p.encode = .sound p := by
  refine hL.record_written (read_optional read_make rfl ?_) rfl
  exact hL.boolean_bool p.securityLevelEmpty

theorem Preview.decode_encode (p : Preview) : (model L).decode p.encode = .sound p := by
  refine hL.record_written (read_optional (read_required read_make rfl ?_) rfl ?_) rfl
  · exact hL.text_str p.query
  · exact text_list_encodeList hL p.notes

namespace Acceptance

theorem decode_encode {a : Acceptance} (h : a.subscription.WellFormed) :
    (model L).decode a.encode = .sound a := by
  refine hL.record_written (read_optional (read_optional (read_required read_make rfl ?_) rfl ?_) rfl ?_) rfl
  · exact Subscription.decode_encode hL h
  · exact text_list_encodeList hL a.notes
  · exact text_list_encodeList hL a.removed

theorem decode_ensures : (model L).decode.Ensures fun a => a.subscription.WellFormed := by
  refine hL.ensures_record fun members a h => ?_
  obtain ⟨_, removed, h₁, _, rfl⟩ := read_optional_eq_sound.mp h
  obtain ⟨_, notes, h₂, _, rfl⟩ := read_optional_eq_sound.mp h₁
  obtain ⟨_, subscription, h₃, hs, rfl⟩ := read_required_eq_sound.mp h₂
  cases h₃
  exact Slot.ensures_read hs (Subscription.decode_ensures hL) (by simp)

end Acceptance

end TrackerFilter

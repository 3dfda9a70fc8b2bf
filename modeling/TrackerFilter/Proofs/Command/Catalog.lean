import TrackerFilter.Proofs.Command.Loading
import TrackerFilter.Proofs.Command.Screen
import Mathlib.Data.List.Basic

/-!
How a catalog ends. The texts of the tracker stand in the cells of a table, which may hold style tags, and
one such text that cannot be read keeps the whole table from being drawn.
-/
namespace TrackerFilter

section
variable {ε α β : Type} {f : α → Except ε β} {l : List α}

theorem exists_mapM_eq_ok : (∃ bs, l.mapM f = .ok bs) ↔ ∀ a ∈ l, ∃ b, f a = .ok b := by
  induction l with
  | nil => simp [pure, Except.pure]
  | cons a rest ih =>
    rw [List.forall_mem_cons, ← ih, List.mapM_cons]
    cases f a <;> cases rest.mapM f <;> simp [bind, Except.bind, pure, Except.pure]

theorem exists_of_mapM_eq_error {e : ε} (h : l.mapM f = .error e) : ∃ a ∈ l, f a = .error e := by
  induction l with
  | nil => cases h
  | cons a rest ih =>
    rw [List.mapM_cons] at h
    cases ha : f a with
    | error d =>
      rw [ha] at h
      obtain rfl : d = e := Except.error.inj h
      exact ⟨a, List.mem_cons_self, ha⟩
    | ok b =>
      cases hrest : rest.mapM f with
      | error d =>
        obtain rfl : d = e := by simpa [ha, hrest, bind, Except.bind] using h
        obtain ⟨c, hc, hfc⟩ := ih hrest
        exact ⟨c, List.mem_cons_of_mem a hc, hfc⟩
      | ok bs => simp [ha, hrest, bind, Except.bind, pure, Except.pure] at h

end

theorem notMem_intercalate {c : Char} {texts : List String} (hc : c ∉ ", ".toList)
    (h : ∀ text ∈ texts, c ∉ text.toList) : c ∉ (", ".intercalate texts).toList := by
  induction texts with
  | nil => simp
  | cons text rest ih =>
    rw [List.forall_mem_cons] at h
    cases rest with
    | nil => simpa using h.1
    | cons next rest =>
      rw [String.intercalate_cons_cons, String.toList_append, String.toList_append, List.mem_append,
        List.mem_append]
      rintro ((hm | hm) | hm)
      · exact h.1 hm
      · exact hc hm
      · exact ih h.2 hm

namespace Command

def trackerTexts (f : CatalogField) : List String :=
  f.key :: f.name :: f.values.map FieldOption.label ++ f.validIssueTypes.map IssueTypeRef.name

/-- The cells that these texts stand in. -/
def trackerCells (f : CatalogField) : List String := [
  f.key,
  f.name,
  if f.userDefined then "(free text)" else ", ".intercalate (f.values.map FieldOption.label),
  ", ".intercalate (f.validIssueTypes.map IssueTypeRef.name)]

def IsReadable (console : Console) (cell : String) : Prop := ∃ shown, console.cell cell = .ok shown

/-- What showing some fields comes to: a table, where the cells can be read, and else nothing at all. -/
structure Draws (console : Console) (fields : List CatalogField) (o : Outcome) : Prop where
  drawn : o.ending = .exit 0 ↔ ∀ f ∈ fields, ∀ cell ∈ trackerCells f, IsReadable console cell
  notDrawn : o.ending ≠ .exit 0 →
    ∃ f ∈ fields, ∃ cell ∈ trackerCells f, ∃ c, console.cell cell = .error c ∧ o = .crashed c
  ofClosing : (∃ f ∈ fields, ∃ cell ∈ trackerCells f, Text.BeginsClosing cell) → o.ending ≠ .exit 0
  ofPlain : (∀ f ∈ fields, ∀ text ∈ trackerTexts f, '[' ∉ text.toList) → o.ending = .exit 0

section
variable {console : Console} {b : Bool} {fields : List CatalogField}

theorem bracket_notMem_kind (kind : FieldKind) : '[' ∉ kind.name.toList := by
  cases kind <;> decide

theorem bracket_notMem_inclusions (inclusions : List Inclusion) :
    '[' ∉ (", ".intercalate (inclusions.map Inclusion.name)).toList := by
  refine notMem_intercalate (by decide) (List.forall_mem_map.mpr fun i _ => ?_)
  cases i <;> decide

theorem bracket_notMem_trackerCells {f : CatalogField}
    (h : ∀ text ∈ trackerTexts f, '[' ∉ text.toList) : ∀ cell ∈ trackerCells f, '[' ∉ cell.toList := by
  simp only [trackerTexts, List.cons_append, List.forall_mem_cons, List.forall_mem_append] at h
  obtain ⟨hkey, hname, hvalues, htypes⟩ := h
  simp only [trackerCells, List.forall_mem_cons, List.not_mem_nil, false_implies, implies_true, and_true]
  refine ⟨hkey, hname, ?_, notMem_intercalate (by decide) htypes⟩
  split
  · decide
  · exact notMem_intercalate (by decide) hvalues

theorem mem_columns {column : String × List String} {cell : String} (hcolumn : column ∈ columns b fields)
    (hcell : cell ∈ column.2) : (∃ f ∈ fields, cell ∈ trackerCells f) ∨ '[' ∉ cell.toList := by
  simp only [columns, List.mem_cons, List.not_mem_nil, or_false] at hcolumn
  rcases hcolumn with rfl | rfl | rfl | rfl | rfl | rfl
  all_goals obtain ⟨f, hf, rfl⟩ := List.mem_map.mp hcell
  · exact .inl ⟨f, hf, by simp [trackerCells]⟩
  · exact .inl ⟨f, hf, by simp [trackerCells]⟩
  · exact .inr (bracket_notMem_kind f.kind)
  · exact .inr (bracket_notMem_inclusions _)
  · exact .inl ⟨f, hf, by simp [trackerCells]⟩
  · exact .inl ⟨f, hf, by simp [trackerCells]⟩

theorem mem_columns_of_trackerCells {f : CatalogField} {cell : String} (hf : f ∈ fields)
    (hcell : cell ∈ trackerCells f) : ∃ column ∈ columns b fields, cell ∈ column.2 := by
  have hmem (g : CatalogField → String) : g f ∈ fields.map g := List.mem_map_of_mem hf
  simp only [trackerCells, List.mem_cons, List.not_mem_nil, or_false] at hcell
  rcases hcell with rfl | rfl | rfl | rfl
  · exact ⟨_, .head _, hmem CatalogField.key⟩
  · exact ⟨_, .tail _ (.head _), hmem CatalogField.name⟩
  · exact ⟨_, .tail _ (.tail _ (.tail _ (.tail _ (.head _)))), hmem fun g =>
      if g.userDefined then "(free text)" else ", ".intercalate (g.values.map FieldOption.label)⟩
  · exact ⟨_, .tail _ (.tail _ (.tail _ (.tail _ (.tail _ (.head _))))), hmem fun g =>
      ", ".intercalate (g.validIssueTypes.map IssueTypeRef.name)⟩

theorem readColumn_eq_ok {column : String × List String} :
    (∃ read, readColumn console column = .ok read) ↔ ∀ cell ∈ column.2, IsReadable console cell := by
  simp only [IsReadable, ← exists_mapM_eq_ok]
  cases h : column.2.mapM console.cell <;>
    simp [readColumn, h, bind, Except.bind, pure, Except.pure]

theorem readColumn_eq_error {column : String × List String} {c : Crash}
    (h : readColumn console column = .error c) : ∃ cell ∈ column.2, console.cell cell = .error c := by
  cases hcells : column.2.mapM console.cell with
  | ok read => simp [readColumn, hcells, bind, Except.bind, pure, Except.pure] at h
  | error d =>
    obtain rfl : d = c := by simpa [readColumn, hcells, bind, Except.bind] using h
    exact exists_of_mapM_eq_error hcells

theorem columns_readable (hs : console.Documented) :
    (∃ read, (columns b fields).mapM (readColumn console) = .ok read) ↔
      ∀ f ∈ fields, ∀ cell ∈ trackerCells f, IsReadable console cell := by
  rw [exists_mapM_eq_ok]
  simp only [readColumn_eq_ok]
  constructor
  · intro h f hf cell hcell
    obtain ⟨column, hcolumn, hm⟩ := mem_columns_of_trackerCells (b := b) hf hcell
    exact h column hcolumn cell hm
  · intro h column hcolumn cell hcell
    rcases mem_columns hcolumn hcell with ⟨f, hf, hm⟩ | hplain
    · exact h f hf cell hm
    · exact hs.cell_plain cell hplain

theorem exists_of_columns_eq_error (hs : console.Documented) {c : Crash}
    (h : (columns b fields).mapM (readColumn console) = .error c) :
    ∃ f ∈ fields, ∃ cell ∈ trackerCells f, console.cell cell = .error c := by
  obtain ⟨column, hcolumn, hread⟩ := exists_of_mapM_eq_error h
  obtain ⟨cell, hcell, herror⟩ := readColumn_eq_error hread
  rcases mem_columns hcolumn hcell with ⟨f, hf, hm⟩ | hplain
  · exact ⟨f, hf, cell, hm, herror⟩
  · obtain ⟨shown, hshown⟩ := hs.cell_plain cell hplain
    cases herror.symm.trans hshown

theorem showCatalog_of_ok {read : List (String × List console.Cell)}
    (h : (columns b fields).mapM (readColumn console) = .ok read) :
    (showCatalog console b fields).ending = .exit 0 := by
  cases fields with
  | nil => rfl
  | cons f rest =>
    simp only [showCatalog, h]
    rfl

theorem showCatalog_of_error {c : Crash} (h : (columns b fields).mapM (readColumn console) = .error c)
    (hne : fields ≠ []) : showCatalog console b fields = .crashed c := by
  cases fields with
  | nil => exact absurd rfl hne
  | cons f rest => simp only [showCatalog, h]

theorem showCatalog_draws (hs : console.Documented) :
    Draws console fields (showCatalog console b fields) := by
  cases hread : (columns b fields).mapM (readColumn console) with
  | ok read =>
    have hending := showCatalog_of_ok hread
    have hreadable := (columns_readable hs).mp ⟨read, hread⟩
    refine ⟨iff_of_true hending hreadable, fun hne => absurd hending hne, ?_, fun _ => hending⟩
    rintro ⟨f, hf, cell, hcell, hbegins⟩
    obtain ⟨c, hc⟩ := hs.cell_closing cell hbegins
    obtain ⟨shown, hshown⟩ := hreadable f hf cell hcell
    cases hc.symm.trans hshown
  | error c =>
    obtain ⟨f, hf, cell, hcell, herror⟩ := exists_of_columns_eq_error hs hread
    have hcrashed := showCatalog_of_error hread (List.ne_nil_of_mem hf)
    have hnot : (showCatalog console b fields).ending ≠ .exit 0 := by simp [hcrashed, Outcome.crashed]
    have hunreadable : ¬ IsReadable console cell := fun ⟨shown, hshown⟩ => by cases herror.symm.trans hshown
    refine ⟨iff_of_false hnot fun h => hunreadable (h f hf cell hcell),
      fun _ => ⟨f, hf, cell, hcell, c, herror, hcrashed⟩, fun _ => hnot, fun hplain => ?_⟩
    exact absurd (hs.cell_plain cell (bracket_notMem_trackerCells (hplain f hf) cell hcell)) hunreadable

end

section
variable {host : Host} {setting : Bool} {texts : Files} {metadata text project : String}
  {more issueTypes : List String} {chosen : Option Bool} {m : Metadata}

/-- A catalog of accepted metadata is drawn unless a text of the tracker cannot be read. -/
theorem catalog_draws (hs : host.console.Documented) (hm : texts.lookup metadata = some text)
    (ha : host.Accepts (Metadata.model host.wire) text m) :
    Draws host.console (TrackerFilter.catalog (some m) (project :: more) issueTypes)
      ((catalog metadata project more issueTypes chosen).run host setting texts) := by
  have hrun : (catalog metadata project more issueTypes chosen).run host setting texts =
      showCatalog host.console (Session.flag setting chosen)
        (TrackerFilter.catalog (some m) (project :: more) issueTypes) := by
    have hload : loadMetadata host texts metadata = .ok m := load_of_accepts hm ha
    simp only [run, serve, hload, bind, Except.bind, pure, Except.pure]
  rw [hrun]
  exact showCatalog_draws hs

end

def labelled (name : String) : Metadata :=
  ⟨[⟨"KT", [⟨"1", "Bug", false,
    [("labels", ⟨none, name, false, ⟨"array", none, some "string", none⟩, none⟩)]⟩]⟩], []⟩

def labelledText (name : String) : String :=
  "\x7b\"projects\": [\x7b\"key\": \"KT\", \"issuetypes\": [\x7b\"id\": \"1\", \"name\": \"Bug\", " ++
    "\"fields\": \x7b\"labels\": \x7b\"name\": \"" ++ name ++ "\", " ++
    "\"schema\": \x7b\"type\": \"array\", \"items\": \"string\"\x7d\x7d\x7d\x7d]\x7d]\x7d"

theorem catalog_draws_opening :
    let host := Host.standard ⟨1000, 4300⟩ 80
    host.Accepts (Metadata.model host.wire) (labelledText "Team [x]") (labelled "Team [x]") ∧
      ((catalog "m.json" "KT" [] [] none).run host false
        [("m.json", labelledText "Team [x]")]).ending = .exit 0 := by
  intro host
  have hload : loadMetadata host [("m.json", labelledText "Team [x]")] "m.json" =
      .ok (labelled "Team [x]") := by
    decide +kernel
  have ha : host.Accepts (Metadata.model host.wire) (labelledText "Team [x]") (labelled "Team [x]") :=
    accepts_of_load rfl hload
  have hfields : TrackerFilter.catalog (some (labelled "Team [x]")) ["KT"] [] =
      [⟨"labels", "Team [x]", ⟨"array", none, some "string", none⟩, .freeText, [], true, [⟨"1", "Bug"⟩]⟩] := by
    decide +kernel
  have hdraws : Draws host.console (TrackerFilter.catalog (some (labelled "Team [x]")) ["KT"] [])
      ((catalog "m.json" "KT" [] [] none).run host false [("m.json", labelledText "Team [x]")]) :=
    catalog_draws (Console.standard_documented 80) rfl ha
  refine ⟨ha, hdraws.drawn.mpr ?_⟩
  rw [hfields, List.forall_mem_singleton]
  simp only [trackerCells, List.forall_mem_cons, List.not_mem_nil, false_implies, implies_true, and_true]
  have hteam : Text.unstyled "Team [x]" = .ok "Team ".toList := by decide +kernel
  have hplain := (Console.standard_documented 80).cell_plain
  exact ⟨hplain _ (by decide), ⟨_, hteam⟩, hplain _ (by decide), hplain _ (by decide)⟩

theorem catalog_broken_off_by_closing :
    let host := Host.standard ⟨1000, 4300⟩ 80
    host.Accepts (Metadata.model host.wire) (labelledText "Team [/x]") (labelled "Team [/x]") ∧
      (catalog "m.json" "KT" [] [] none).run host false [("m.json", labelledText "Team [/x]")] =
        .crashed ⟨"MarkupError", "closing tag '[/x]' at position 5 doesn't match any open tag"⟩ := by
  intro host
  have hload : loadMetadata host [("m.json", labelledText "Team [/x]")] "m.json" =
      .ok (labelled "Team [/x]") := by
    decide +kernel
  exact ⟨accepts_of_load rfl hload, by decide +kernel⟩

end Command

end TrackerFilter

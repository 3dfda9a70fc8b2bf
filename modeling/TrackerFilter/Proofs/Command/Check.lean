import TrackerFilter.Proofs.Command.Loading
import TrackerFilter.Proofs.Command.Screen
import TrackerFilter.Proofs.Json.Integer

/-!
How a check ends. A rejected file ends it with 2, before the gate is asked; a refusal of the gate ends it
with 1 and is printed with its code; an acceptance ends it with 0 and prints every filter that was removed.
Where the reader of a file breaks off, the check ends with an exception that nothing handles.
-/
namespace TrackerFilter

namespace Command

def Judged (host : Host) (policy : Bool) (metadata subscription : String)
    (verdict : Except Refusal Acceptance) : Prop :=
  ∃ m f, host.Accepts (Metadata.model host.wire) metadata m ∧
    host.Accepts (Subscription.model host.wire) subscription f ∧ f.save (some m) policy = verdict

def FileRejected (host : Host) (metadata subscription : String) : Prop :=
  host.Rejects (Metadata.model host.wire) metadata ∨
    (∃ m, host.Accepts (Metadata.model host.wire) metadata m) ∧
      host.Rejects (Subscription.model host.wire) subscription

def ReaderBreaksOff (host : Host) (metadata subscription : String) (c : Crash) : Prop :=
  host.BreaksOff metadata c ∨
    (∃ m, host.Accepts (Metadata.model host.wire) metadata m) ∧ host.BreaksOff subscription c

/-- What a check on two files comes to: how it ends, and what it prints of the verdict. -/
structure Reports (host : Host) (policy : Bool) (metadata subscription : String) (o : Outcome) : Prop where
  rejected : o.ending = .exit 2 ↔ FileRejected host metadata subscription
  refused : o.ending = .exit 1 ↔ ∃ r, Judged host policy metadata subscription (.error r)
  accepted : o.ending = .exit 0 ↔ ∃ a, Judged host policy metadata subscription (.ok a)
  brokenOff : ∀ c, o.ending = .crash c ↔ ReaderBreaksOff host metadata subscription c
  /-- A refusal is printed with its code, and as it is where nothing in it is taken for more than text. -/
  refusalPrinted : ∀ r, Judged host policy metadata subscription (.error r) →
    o.lines = host.console.unwrapped ("❌ " ++ r.code ++ ": " ++ r.text) ∧
      (Text.IsVerbatim r.text → o.lines = ["❌ " ++ r.code ++ ": " ++ r.text])
  /-- The removed filters are told of one by one, in order. -/
  removalsPrinted : ∀ a, Judged host policy metadata subscription (.ok a) →
    o.lines = host.console.paragraph "✅ Subscription filters are valid" ++
      a.removed.flatMap (fun key =>
        host.console.paragraph ("⚠️  Removed filter on missing field: " ++ key)) ++
      a.notes.flatMap (host.console.panel "Note")
  nothingPrinted : ∀ c, o.ending = .crash c → o.lines = []

section
variable {host : Host} {policy : Bool} {mt ft : String} {c : Crash}

theorem Judged.unique {v w : Except Refusal Acceptance} (hv : Judged host policy mt ft v)
    (hw : Judged host policy mt ft w) : v = w := by
  obtain ⟨m, f, hm, hf, rfl⟩ := hv
  obtain ⟨n, g, hn, hg, rfl⟩ := hw
  rw [hm.unique hn, hf.unique hg]

theorem Judged.not_fileRejected {v : Except Refusal Acceptance} (h : Judged host policy mt ft v) :
    ¬ FileRejected host mt ft := by
  obtain ⟨m, f, hm, hf, -⟩ := h
  rintro (hr | ⟨-, hr⟩)
  · exact hm.not_rejects hr
  · exact hf.not_rejects hr

theorem Judged.not_readerBreaksOff {v : Except Refusal Acceptance} (h : Judged host policy mt ft v) :
    ¬ ReaderBreaksOff host mt ft c := by
  obtain ⟨m, f, hm, hf, -⟩ := h
  rintro (hc | ⟨-, hc⟩)
  · exact hm.not_breaksOff hc
  · exact hf.not_breaksOff hc

theorem FileRejected.not_readerBreaksOff (h : FileRejected host mt ft) : ¬ ReaderBreaksOff host mt ft c := by
  rcases h with hr | ⟨⟨m, hm⟩, hr⟩
  · rintro (hc | ⟨⟨m, hm⟩, -⟩)
    · exact hr.not_breaksOff hc
    · exact hm.not_rejects hr
  · rintro (hc | ⟨-, hc⟩)
    · exact hm.not_breaksOff hc
    · exact hr.not_breaksOff hc

theorem ReaderBreaksOff.unique {d : Crash} (hc : ReaderBreaksOff host mt ft c)
    (hd : ReaderBreaksOff host mt ft d) : c = d := by
  rcases hc with hc | ⟨⟨m, hm⟩, hc⟩
  · rcases hd with hd | ⟨⟨m, hm⟩, -⟩
    · exact hc.unique hd
    · exact absurd hc hm.not_breaksOff
  · rcases hd with hd | ⟨-, hd⟩
    · exact absurd hd hm.not_breaksOff
    · exact hc.unique hd

theorem isVerbatim_refusal {r : Refusal} (h : Text.IsVerbatim r.text) :
    Text.IsVerbatim ("❌ " ++ r.code ++ ": " ++ r.text) := by
  have hcode : ("❌ " ++ r.code).toList.all (fun c => c != ':' && Text.isStill c) = true := by
    cases r <;> simp only [Refusal.code] <;> decide
  simp only [List.all_eq_true, Bool.and_eq_true] at hcode
  exact Text.isVerbatim_labelled (fun hm => absurd (hcode _ hm).1 (by decide)) (fun c hm => (hcode c hm).2) h

theorem reports_of_rejected {o : Outcome} (h : FileRejected host mt ft) (ho : o.ending = .exit 2) :
    Reports host policy mt ft o where
  rejected := iff_of_true ho h
  refused := iff_of_false (by simp [ho]) fun ⟨_, hr⟩ => hr.not_fileRejected h
  accepted := iff_of_false (by simp [ho]) fun ⟨_, ha⟩ => ha.not_fileRejected h
  brokenOff := fun _ => iff_of_false (by simp [ho]) h.not_readerBreaksOff
  refusalPrinted := fun _ hr => absurd h hr.not_fileRejected
  removalsPrinted := fun _ ha => absurd h ha.not_fileRejected
  nothingPrinted := fun _ hc => by simp [ho] at hc

theorem reports_of_readerBreaksOff (h : ReaderBreaksOff host mt ft c) :
    Reports host policy mt ft (.crashed c) where
  rejected := iff_of_false (by simp [Outcome.crashed]) fun hr => hr.not_readerBreaksOff h
  refused := iff_of_false (by simp [Outcome.crashed]) fun ⟨_, hr⟩ => hr.not_readerBreaksOff h
  accepted := iff_of_false (by simp [Outcome.crashed]) fun ⟨_, ha⟩ => ha.not_readerBreaksOff h
  brokenOff := by
    intro d
    constructor
    · intro hd
      obtain rfl : c = d := Ending.crash.inj hd
      exact h
    · intro hd
      rw [h.unique hd]
      rfl
  refusalPrinted := fun _ hr => absurd h hr.not_readerBreaksOff
  removalsPrinted := fun _ ha => absurd h ha.not_readerBreaksOff
  nothingPrinted := fun _ _ => rfl

theorem reports_of_refused {r : Refusal} (hs : host.console.Documented)
    (h : Judged host policy mt ft (.error r)) : Reports host policy mt ft (.refused host.console r) where
  rejected := iff_of_false (by simp [Outcome.refused]) h.not_fileRejected
  refused := iff_of_true rfl ⟨r, h⟩
  accepted := iff_of_false (by simp [Outcome.refused]) fun ⟨_, ha⟩ => by cases h.unique ha
  brokenOff := fun _ => iff_of_false (by simp [Outcome.refused]) h.not_readerBreaksOff
  refusalPrinted := by
    intro s hjudged
    obtain rfl : r = s := Except.error.inj (h.unique hjudged)
    have hlines : (Outcome.refused host.console r).lines =
        host.console.unwrapped ("❌ " ++ r.code ++ ": " ++ r.text) := by
      have hmessage : "❌ " ++ r.message = "❌ " ++ r.code ++ ": " ++ r.text := by
        simp [Refusal.message, String.append_assoc]
      rw [Outcome.refused, hmessage]
    exact ⟨hlines, fun hv => hlines.trans (hs.unwrapped_verbatim _ (isVerbatim_refusal hv))⟩
  removalsPrinted := fun _ ha => by cases h.unique ha
  nothingPrinted := fun _ hc => by simp [Outcome.refused] at hc

theorem reports_of_accepted {a : Acceptance} (h : Judged host policy mt ft (.ok a)) :
    Reports host policy mt ft (showVerdict host.console (.ok a)) where
  rejected := iff_of_false (by simp [showVerdict, Outcome.success]) h.not_fileRejected
  refused := iff_of_false (by simp [showVerdict, Outcome.success]) fun ⟨_, hr⟩ => by cases h.unique hr
  accepted := iff_of_true rfl ⟨a, h⟩
  brokenOff := fun _ => iff_of_false (by simp [showVerdict, Outcome.success]) h.not_readerBreaksOff
  refusalPrinted := fun _ hr => by cases h.unique hr
  removalsPrinted := by
    intro b hb
    obtain rfl : a = b := Except.ok.inj (h.unique hb)
    rfl
  nothingPrinted := fun _ hc => by simp [showVerdict, Outcome.success] at hc

end

section
variable {host : Host} {setting : Bool} {texts : Files} {metadata subscription mt ft : String}
  {chosen : Option Bool}

theorem run_check : (check metadata subscription chosen).run host setting texts =
    match loadMetadata host texts metadata with
    | .error o => o
    | .ok m =>
      match loadSubscription host texts subscription with
      | .error o => o
      | .ok f => showVerdict host.console (f.save (some m) (Session.flag setting chosen)) := by
  rw [run, serve]
  cases loadMetadata host texts metadata with
  | error o => rfl
  | ok m => cases loadSubscription host texts subscription <;> rfl

/-- A check of two files rejects, refuses or accepts as they deserve, except where the reader breaks off on
one of them. -/
theorem check_reports (hs : host.console.Documented) (hm : texts.lookup metadata = some mt)
    (hf : texts.lookup subscription = some ft) :
    Reports host (Session.flag setting chosen) mt ft
      ((check metadata subscription chosen).run host setting texts) := by
  rw [run_check, loadMetadata, loadSubscription]
  rcases host.accepts_or_rejects_or_breaksOff (Metadata.model host.wire) mt with ⟨m, ha⟩ | hr | ⟨c, hc⟩
  · rw [load_of_accepts hm ha]
    rcases host.accepts_or_rejects_or_breaksOff (Subscription.model host.wire) ft with
      ⟨f, hb⟩ | hr | ⟨c, hc⟩
    · rw [load_of_accepts hf hb]
      have hjudged : Judged host (Session.flag setting chosen) mt ft
          (f.save (some m) (Session.flag setting chosen)) := ⟨m, f, ha, hb, rfl⟩
      dsimp only
      cases hv : f.save (some m) (Session.flag setting chosen) with
      | error r => exact reports_of_refused hs (hv ▸ hjudged)
      | ok a => exact reports_of_accepted (hv ▸ hjudged)
    · obtain ⟨o, hending, hload⟩ := load_of_rejects hf hr
      rw [hload]
      exact reports_of_rejected (.inr ⟨⟨m, ha⟩, hr⟩) hending
    · rw [load_of_breaksOff hf hc]
      exact reports_of_readerBreaksOff (.inr ⟨⟨m, ha⟩, hc⟩)
  · obtain ⟨o, hending, hload⟩ := load_of_rejects hm hr
    rw [hload]
    exact reports_of_rejected (.inl hr) hending
  · rw [load_of_breaksOff hm hc]
    exact reports_of_readerBreaksOff (.inl hc)

end

def bareProject : String := "\x7b\"projects\": [\x7b\"key\": \"KT\"\x7d]\x7d"

def fieldSubscription : String :=
  "\x7b\"events\": [\"event_created\"], \"projects\": [\"KT\"], \"issue_types\": [\"1\"], " ++
    "\"fields\": [\x7b\"key\": \"cf\", \"values\": [\"x\"]\x7d]\x7d"

theorem check_reports_goneField :
    let host := Host.standard ⟨1000, 4300⟩ 80
    let o := (check "m.json" "f.json" (some true)).run host false
      [("m.json", bareProject), ("f.json", fieldSubscription)]
    o.ending = .exit 0 ∧
      o.lines.take 2 =
        ["✅ Subscription filters are valid", "⚠️  Removed filter on missing field: cf"] ∧
      ∃ a, Judged host true bareProject fieldSubscription (.ok a) := by
  intro host o
  have hrun : o.ending = .exit 0 ∧
      o.lines.take 2 =
        ["✅ Subscription filters are valid", "⚠️  Removed filter on missing field: cf"] := by
    decide +kernel
  have hreports : Reports host (Session.flag false (some true)) bareProject fieldSubscription o :=
    check_reports (Console.standard_documented 80) rfl rfl
  exact ⟨hrun.1, hrun.2, hreports.accepted.mp hrun.1⟩

section
variable {limits : Json.Limits} {width n : Nat}

theorem rejects_ones (hn : n ≠ 0) (h : n ≤ limits.digits) :
    (Host.standard limits width).Rejects (Metadata.model .standard) (String.ofList (List.replicate n '1')) := by
  have hread := Json.read_replicate limits hn (c := '1') (by decide) (by decide)
  rw [if_neg (Nat.not_lt.mpr h)] at hread
  exact .inr ⟨_, _, hread, rfl⟩

theorem breaksOff_ones (h : limits.digits < n) :
    (Host.standard limits width).BreaksOff (String.ofList (List.replicate n '1'))
      (Json.tooLong limits.digits n) := by
  have hread := Json.read_replicate limits (Nat.ne_zero_of_lt h) (c := '1') (by decide) (by decide)
  rwa [if_pos h] at hread

end

/-- A long integer is JSON that no metadata are, but the check does not end with 2 unless such integers are
read. -/
theorem check_broken_off_by_integer :
    let host (limit : Nat) := Host.standard ⟨1000, limit⟩ 80
    let digits := String.ofList (List.replicate 4301 '1')
    let files := [("m.json", digits), ("f.json", "\x7b\x7d")]
    FileRejected (host 4301) digits "\x7b\x7d" ∧
      ((check "m.json" "f.json" none).run (host 4301) false files).ending = .exit 2 ∧
      (check "m.json" "f.json" none).run (host 4300) false files = .crashed ⟨"ValueError",
        "Exceeds the limit (4300 digits) for integer string conversion: value has 4301 digits; " ++
          "use sys.set_int_max_str_digits() to increase the limit"⟩ := by
  intro host digits files
  have hrejects : (host 4301).Rejects (Metadata.model .standard) digits :=
    rejects_ones (by decide) (by decide)
  have hbreaksOff : (host 4300).BreaksOff digits (Json.tooLong 4300 4301) := breaksOff_ones (by decide)
  refine ⟨.inl hrejects, ?_, ?_⟩
  · obtain ⟨o, hending, hload⟩ :
        ∃ o : Outcome, o.ending = .exit 2 ∧ loadMetadata (host 4301) files "m.json" = .error o :=
      load_of_rejects rfl hrejects
    rw [run_check, hload]
    exact hending
  · have hload : loadMetadata (host 4300) files "m.json" = .error (.crashed (Json.tooLong 4300 4301)) :=
      load_of_breaksOff rfl hbreaksOff
    have hcrash : Json.tooLong 4300 4301 = ⟨"ValueError",
        "Exceeds the limit (4300 digits) for integer string conversion: value has 4301 digits; " ++
          "use sys.set_int_max_str_digits() to increase the limit"⟩ := by
      decide +kernel
    rw [run_check, hload, hcrash]

end Command

end TrackerFilter

import TrackerFilter.Command.Run

/-!
What reading a file comes to. Its text is accepted, with the value it stands for, or it is rejected, as no
JSON or as JSON that the model refuses, or the reader breaks off. Each of the three ends a command in its
own way.
-/
namespace TrackerFilter

namespace Host

def Accepts {α : Type} (h : Host) (m : Wire.Model α) (text : String) (a : α) : Prop :=
  ∃ v, h.parse text = .ok v ∧ m.validate v = .ok a

/-- A text is no JSON, or JSON that the model refuses. -/
def Rejects {α : Type} (h : Host) (m : Wire.Model α) (text : String) : Prop :=
  h.parse text = .error .malformed ∨ ∃ v r, h.parse text = .ok v ∧ m.validate v = .error r

/-- The reader breaks off, so that it is not known whether a text is JSON. -/
def BreaksOff (h : Host) (text : String) (c : Crash) : Prop := h.parse text = .error (.raised c)

variable {α : Type} {h : Host} {m : Wire.Model α} {text : String} {a b : α} {c : Crash}

theorem accepts_or_rejects_or_breaksOff (h : Host) (m : Wire.Model α) (text : String) :
    (∃ a, h.Accepts m text a) ∨ h.Rejects m text ∨ ∃ c, h.BreaksOff text c := by
  cases hparse : h.parse text with
  | error flaw =>
    cases flaw with
    | malformed => exact .inr (.inl (.inl hparse))
    | raised c => exact .inr (.inr ⟨c, hparse⟩)
  | ok v =>
    cases hv : m.validate v with
    | ok a => exact .inl ⟨a, v, hparse, hv⟩
    | error r => exact .inr (.inl (.inr ⟨v, r, hparse, hv⟩))

theorem Accepts.unique (ha : h.Accepts m text a) (hb : h.Accepts m text b) : a = b := by
  obtain ⟨v, hv, ha⟩ := ha
  obtain ⟨w, hw, hb⟩ := hb
  obtain rfl : v = w := by simpa [hv] using hw
  simpa [ha] using hb

theorem Accepts.not_rejects (ha : h.Accepts m text a) : ¬ h.Rejects m text := by
  obtain ⟨v, hv, ha⟩ := ha
  rintro (hmalformed | ⟨w, r, hw, hr⟩)
  · simp [hv] at hmalformed
  · obtain rfl : v = w := by simpa [hv] using hw
    simp [ha] at hr

theorem Accepts.not_breaksOff (ha : h.Accepts m text a) : ¬ h.BreaksOff text c := by
  obtain ⟨v, hv, -⟩ := ha
  simp [BreaksOff, hv]

theorem Rejects.not_breaksOff (hr : h.Rejects m text) : ¬ h.BreaksOff text c := by
  rw [BreaksOff]
  rcases hr with hmalformed | ⟨v, r, hv, -⟩
  · simp [hmalformed]
  · simp [hv]

theorem BreaksOff.unique {d : Crash} (hc : h.BreaksOff text c) (hd : h.BreaksOff text d) : c = d := by
  rw [BreaksOff] at hc hd
  simpa [hc] using hd

end Host

namespace Command

section
variable {α : Type} {host : Host} {m : Wire.Model α} {subject path text : String} {files : Files}

theorem load_of_accepts {a : α} (hpath : files.lookup path = some text) (h : host.Accepts m text a) :
    load host m subject files path = .ok a := by
  obtain ⟨v, hv, ha⟩ := h
  simp [load, loadJson, hpath, hv, ha, bind, Except.bind, pure, Except.pure]

theorem load_of_rejects (hpath : files.lookup path = some text) (h : host.Rejects m text) :
    ∃ o : Outcome, o.ending = .exit 2 ∧ load host m subject files path = .error o := by
  rcases h with hmalformed | ⟨v, r, hv, hr⟩
  · refine ⟨.unreadable host.console path, rfl, ?_⟩
    simp [load, loadJson, hpath, hmalformed, bind, Except.bind]
  · refine ⟨.invalid host.console subject path r, rfl, ?_⟩
    simp [load, loadJson, hpath, hv, hr, bind, Except.bind, throw, throwThe, MonadExceptOf.throw]

theorem load_of_breaksOff {c : Crash} (hpath : files.lookup path = some text) (h : host.BreaksOff text c) :
    load host m subject files path = .error (.crashed c) := by
  rw [Host.BreaksOff] at h
  simp [load, loadJson, hpath, h, bind, Except.bind]

theorem accepts_of_load {a : α} (hpath : files.lookup path = some text)
    (h : load host m subject files path = .ok a) : host.Accepts m text a := by
  rcases host.accepts_or_rejects_or_breaksOff m text with ⟨b, hb⟩ | hr | ⟨c, hc⟩
  · obtain rfl : b = a := Except.ok.inj ((load_of_accepts hpath hb).symm.trans h)
    exact hb
  · obtain ⟨o, -, ho⟩ := load_of_rejects hpath hr
    cases ho.symm.trans h
  · cases (load_of_breaksOff hpath hc).symm.trans h

end

end Command

end TrackerFilter

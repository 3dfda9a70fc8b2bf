import TrackerFilter.Wire.Fault

/-!
Decoders, and the reading of lists, of maps and of objects field by field. A field is looked up under its
name and then under a second one; what no field was found under is unknown.
-/
namespace TrackerFilter

namespace Wire

abbrev Decoder (α : Type) := Json → Checked α

section
variable {α : Type}

def items (d : Decoder α) : Nat → List Json → Checked (List α)
  | _, [] => .sound []
  | i, v :: rest => ((d v).below (.index i)).cons (items d (i + 1) rest)

def entries (d : Decoder α) : Members → Checked (List (String × α))
  | [] => .sound []
  | (k, v) :: rest => (((d v).below (.key k)).map (fun a => (k, a))).cons (entries d rest)

end

/-- The names of a field: the one it is written under, and perhaps another it is also read under. -/
structure Slot where
  name : String
  second : Option String

instance : Coe String Slot := ⟨fun name => ⟨name, none⟩⟩

def Slot.find? (slot : Slot) (members : Members) : Option (String × Json) :=
  match members.lookup slot.name with
  | some v => some (slot.name, v)
  | none => match slot.second with
    | none => none
    | some second => (members.lookup second).map fun v => (second, v)

/-- Reads what a slot takes; `absent` is used only when the field is not there at all, and without it the
field is required. -/
def Slot.read {α : Type} (slot : Slot) (d : Decoder α) (absent : Option α) (members : Members) :
    Checked α :=
  match slot.find? members, absent with
  | some (name, v), _ => (d v).below (.key name)
  | none, some a => .sound a
  | none, none => .faulty [⟨.missing, [.key slot.name], .obj members⟩]

/-- The fields of a kind of objects, declared one after the other: the names of each, its decoder, and
perhaps a value for when it is absent. -/
inductive Fields : Type → Type 1 where
  | make {α : Type} (value : α) : Fields α
  | field {α β : Type} (f : Fields (β → α)) (slot : Slot) (d : Decoder β) (absent : Option β) : Fields α

namespace Fields

section
variable {α β : Type}

def required (f : Fields (β → α)) (slot : Slot) (d : Decoder β) : Fields α := f.field slot d none

def optional (f : Fields (β → α)) (slot : Slot) (d : Decoder β) (absent : β) : Fields α :=
  f.field slot d (some absent)

end

def slots : {α : Type} → Fields α → List Slot
  | _, make _ => []
  | _, field f slot _ _ => f.slots ++ [slot]

def read : {α : Type} → Fields α → Members → Checked α
  | _, make a, _ => .sound a
  | _, field f slot d absent, members => (f.read members).apply (slot.read d absent members)

end Fields

def strays (slots : List Slot) (members : Members) : Members :=
  let taken := slots.filterMap fun s => (s.find? members).map Prod.fst
  members.filter fun m => !taken.contains m.1

inductive Unknown where
  | ignored
  | refused
  deriving DecidableEq

def unknownFaults (unknown : Unknown) (slots : List Slot) (members : Members) : List Fault :=
  match unknown with
  | .ignored => []
  | .refused => (strays slots members).map fun m => ⟨.unknownKey, [.key m.1], m.2⟩

def Fields.check {α : Type} (f : Fields α) (unknown : Unknown) (members : Members) : Checked α :=
  match f.read members, unknownFaults unknown f.slots members with
  | .sound a, [] => .sound a
  | c, fs => .faulty (c.faults ++ fs)

end Wire

end TrackerFilter

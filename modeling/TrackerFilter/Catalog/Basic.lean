import TrackerFilter.Catalog.Status
import TrackerFilter.Metadata.Grouping
import TrackerFilter.Text.Order

/-!
The catalog: the fields that a subscription to some projects can filter on. The epic link comes first,
and the other fields follow by name; fields of one name keep their order.
-/
namespace TrackerFilter

namespace AllowedValue

def toOption (v : AllowedValue) : FieldOption := ⟨v.id, v.label⟩

end AllowedValue

namespace GroupedField

def options (g : GroupedField) : FieldKind → List FieldOption
  | .enumerated => (g.descriptor.allowedValues.getD []).map AllowedValue.toOption
  | _ => []

def toCatalogField (kind : FieldKind) (g : GroupedField) : CatalogField where
  key := g.key
  name := g.descriptor.name
  schema := g.descriptor.schema
  kind := kind
  values := g.options kind
  userDefined := kind == .freeText
  validIssueTypes := g.validIssueTypes

end GroupedField

namespace Catalog

structure Offer where
  epicLink : Option CatalogField
  others : List CatalogField

/-- Of several epic links the first is offered; unsupported fields are left out. -/
def Offer.ofGroups : List GroupedField → Offer
  | [] => ⟨none, []⟩
  | g :: rest =>
    let offer := ofGroups rest
    match g.descriptor.kind with
    | .unsupported => offer
    | .epicLink => { offer with epicLink := some (g.toCatalogField .epicLink) }
    | kind => { offer with others := g.toCatalogField kind :: offer.others }

/-- Adds the status field, unless a field of the tracker has its key. -/
def Offer.addStatus (offer : Offer) : Option CatalogField → Offer
  | none => offer
  | some status =>
    if offer.others.any fun f => f.key = status.key then offer
    else { offer with others := offer.others ++ [status] }

def nameLe (f g : CatalogField) : Bool := Text.le f.name g.name

def Offer.arranged (offer : Offer) : List CatalogField :=
  offer.epicLink.toList ++ offer.others.mergeSort nameLe

end Catalog

/-- Empty without metadata or projects, which is a valid state. -/
def catalog (m : Option Metadata) (projects selection : List String) : List CatalogField :=
  if m.isNone || projects.isEmpty then []
  else ((Catalog.Offer.ofGroups (groupedFields m projects)).addStatus (statusField m selection)).arranged

end TrackerFilter

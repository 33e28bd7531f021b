import MeshReadings.Settings.Basic

/-!
The editable options of every configured attribute, by channel, as engines offer them once
they have taken in what the user asks of reporting.
-/

namespace MeshReadings
namespace Settings

/-- The options of an attribute, unless its change bounds are not numbers. -/
def SyncedAttribute.options? (a : SyncedAttribute) (timeout : UInt64) :
    Option (List Reporting.EditableOption) :=
  (Reporting.Config.ofDefaults? (a.toSpec timeout).defaults).map fun c =>
    (c.update a.reporting).options

/-- The options by channel, in the order of channels. -/
def optionListing (s : Settings) : List (String × List Reporting.EditableOption) :=
  let entries := s.attributes.filterMap fun a =>
    (a.options? s.sync.commandTimeout).map fun options => (a.channel, options)
  entries.mergeSort fun a b => a.1 ≤ b.1

def optionListingJson (s : Settings) : Json :=
  .obj (s.optionListing.map fun (channel, options) =>
    (channel, .arr (options.map (·.toJson))))

end Settings
end MeshReadings

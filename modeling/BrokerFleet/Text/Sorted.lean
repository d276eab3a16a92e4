/-! # Texts in order -/

namespace BrokerFleet.Text

/-- Texts in the order of their characters' code points. -/
def sorted (texts : List String) : List String := texts.mergeSort fun a b => decide (a ≤ b)

theorem sorted_perm (texts : List String) : (sorted texts).Perm texts := List.mergeSort_perm ..

end BrokerFleet.Text

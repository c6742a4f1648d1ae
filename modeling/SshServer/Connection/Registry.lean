/-!
Contract: handlers by the type of channel that they serve.

Owns: registration, in which the last handler of a type counts, look-up, and the types in order.
Does not own: what a handler is. A registry is a value, so whoever holds one keeps what it held,
whatever is registered later.
-/

namespace SshServer

/-- Handlers by type of channel, in the order in which the types were first registered. -/
structure Registry (η : Type) where
  entries : List (String × η) := []

namespace Registry

variable {η : Type}

/-- Puts a handler in the place of the one of its type, or else behind all others. -/
def place (channelType : String) (handler : η) : List (String × η) → List (String × η)
  | [] => [(channelType, handler)]
  | (other, old) :: rest =>
    if other = channelType then (channelType, handler) :: rest
    else (other, old) :: place channelType handler rest

def insert (registry : Registry η) (channelType : String) (handler : η) : Registry η :=
  ⟨place channelType handler registry.entries⟩

def ofList (entries : List (String × η)) : Registry η :=
  entries.foldl (fun registry entry => registry.insert entry.1 entry.2) {}

def find? (registry : Registry η) (channelType : String) : Option η :=
  registry.entries.lookup channelType

def types (registry : Registry η) : List String :=
  (registry.entries.map Prod.fst).mergeSort fun a b => !decide (b < a)

/-! ### Laws -/

theorem lookup_place (channelType other : String) (handler : η) (entries : List (String × η)) :
    (place channelType handler entries).lookup other =
      if other = channelType then some handler else entries.lookup other := by
  induction entries with
  | nil =>
    by_cases same : other = channelType
    · simp [place, same]
    · simp [place, List.lookup_cons, beq_false_of_ne same, same]
  | cons entry rest ih =>
    obtain ⟨first, old⟩ := entry
    by_cases here : first = channelType
    · subst here
      by_cases same : other = first
      · simp [place, same]
      · simp [place, List.lookup_cons, beq_false_of_ne same, same]
    · by_cases same : other = first
      · subst same
        simp [place, here]
      · simp [place, here, List.lookup_cons, beq_false_of_ne same, ih]

/-- Registration changes the handler of its own type and of no other. -/
theorem find?_insert (registry : Registry η) (channelType other : String) (handler : η) :
    (registry.insert channelType handler).find? other =
      if other = channelType then some handler else registry.find? other :=
  lookup_place channelType other handler registry.entries

end Registry

end SshServer

/-
  `Reading` — the two ways to read a token.

  A reader that keeps a value has to understand it in full. A reader that skips one only makes sure
  of its outline, and lets pass what it need not represent: numbers out of range and halves of
  surrogate pairs.
-/
import SchemaSurvey.Json.Fault

namespace SchemaSurvey.Json

/-- What a token gives to a reader that keeps it and to one that skips it. -/
structure Reading (α : Type) where
  kept : Except Fault α
  skipped : Except Fault Unit

/-- A token that both readers understand. -/
def Reading.clear {α : Type} (a : α) : Reading α := ⟨.ok a, .ok ()⟩

end SchemaSurvey.Json

/-!
# Structured data

What a configuration file or an event payload holds: null, a truth value, a number, a text, a
list or a record. A record keeps its members in the order of its text, repeated names included;
the last one of a name counts. The texts are characters, or of another type where a format has
texts that no characters make up.
-/

namespace BenchGate

/-- A value of structured data with texts of a type. `other` is a value of a kind that only some
formats have, known by the name of its kind. -/
inductive Datum (τ : Type := String) where
  | null
  | bool (value : Bool)
  | number (value : Float)
  | text (value : τ)
  | list (items : List (Datum τ))
  | record (members : List (String × Datum τ))
  | other (kind : String)
deriving Inhabited

namespace Datum

variable {τ : Type}

/-- The value of the last member of a name. -/
def lookup (members : List (String × Datum τ)) (name : String) : Option (Datum τ) :=
  (members.reverse.find? fun m => m.1 == name).map Prod.snd

/-- What a message calls the kind of a value. The undefined number has a name of its own. -/
def kindName : Datum τ → String
  | null => "null"
  | bool _ => "boolean"
  | number value => if value.isNaN then "nan" else "number"
  | text _ => "string"
  | list _ => "array"
  | record _ => "object"
  | other kind => kind

end Datum

end BenchGate

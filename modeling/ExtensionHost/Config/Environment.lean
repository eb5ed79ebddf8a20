import ExtensionHost.Document.Path

/-!
# Settings in the environment

Variables whose names start with `MOFA_EXTENSIONS__`, in any case, override settings.  The rest of
such a name is a path in which two underscores stand for a point.  A value is read as a truth value,
an integer or a decimal number if it has that form, and is a text otherwise.

## Main definitions

* `Environment` and `Environment.overrides`.
-/

namespace ExtensionHost

/-- Variables and their values. -/
abbrev Environment := List (String × String)

namespace Environment

/-- How the names of the variables that count start, in lower case. -/
def marker : String := "mofa_extensions__"

/-- Two underscores, read from the left, stand for a point. -/
def pointed : List Char → List Char
  | '_' :: '_' :: rest => '.' :: pointed rest
  | c :: rest => c :: pointed rest
  | [] => []

/-- The key that a variable overrides, if it overrides one. -/
def key? (name : String) : Option String :=
  let letters := (Lower.text name).toList
  if marker.toList.isPrefixOf letters then
    some (String.ofList (pointed (letters.drop marker.length)))
  else none

/-- The value that a text stands for. -/
def value (text : String) : Document :=
  let lower := Lower.text text
  if lower = "true" then .bool true
  else if lower = "false" then .bool false
  else
    match Numeral.int64? 10 text.toList with
    | some n => .integer n
    | none =>
      match Numeral.decimal? text with
      | some x => .decimal x
      | none => .string text

/-- The keys that an environment overrides, with their values. -/
def overrides (environment : Environment) : List (String × Document) :=
  environment.filterMap fun (name, text) => (key? name).map (·, value text)

end Environment

end ExtensionHost

import CachePurge.Text.Case
import CachePurge.Text.Loose
import CachePurge.Text.Quoted

/-!
# Keys

Secrets are not part of the configuration: it only names a key, which a key ring resolves when a
request is built. A ring either holds the keys itself or finds them among variables of the
environment, under a common beginning and the name in upper case. A secret from outside need not be
a text that can be encoded.
-/

namespace CachePurge

/-- Where keys are looked up. -/
inductive KeyRing
  /-- Among keys given by name. -/
  | fixed (keys : List (String × Text.Loose))
  /-- Among variables whose names begin in a common way. -/
  | environment (start : String) (entries : List (String × Text.Loose))

/-- A key that a ring does not have. -/
inductive MissingKey
  /-- No key has the name. -/
  | name (key : String)
  /-- The variable for the key is not set. -/
  | unset (key expected : String)

/-- The text of the error about a missing key. -/
def MissingKey.message : MissingKey → String
  | name key => "Key " ++ Text.quoted key ++ " not found"
  | unset key expected =>
    "Key " ++ Text.quoted key ++ " not found (expected " ++ expected ++ ")"

namespace KeyRing

/-- How the variables of keys begin. -/
def standardStart : String := "SECTION_PURGER_KEY_"

/-- The variable that holds a key. -/
def variableName (start key : String) : String := start ++ Text.upper key

/-- The secret that a key stands for. -/
def resolve (ring : KeyRing) (key : String) : Except MissingKey Text.Loose :=
  match ring with
  | fixed keys =>
    match keys.lookup key with
    | some secret => .ok secret
    | none => .error (.name key)
  | environment start entries =>
    match entries.lookup (variableName start key) with
    | some secret => .ok secret
    | none => .error (.unset key (variableName start key))

end KeyRing

end CachePurge

import Remedy.Fault
import Remedy.Settings.Basic
import Remedy.Text.Casing

/-!
The check that settings allow a run to start. It stops at the first thing that is wrong. A value
of a type that cannot be checked is a fault of its own.
-/

namespace Remedy.Settings

def lowered (value : Value) : Except Fault String :=
  match value with
  | .str s => .ok (Text.lower s)
  | v => .error (.type (.noAttribute v.typeName "lower"))

def category (value : Value) : Except Fault Category :=
  match lowered value with
  | .error fault => .error fault
  | .ok name =>
    match Category.ofName? name with
    | some c => .ok c
    | none => .error (.settings (.unknownCategory name))

def categoriesOf : List Value → Except Fault (List Category)
  | [] => .ok []
  | v :: rest =>
    match category v with
    | .error fault => .error fault
    | .ok c => (categoriesOf rest).map (c :: ·)

def enabledCategories (settings : Settings) : Except Fault (List Category) :=
  match (settings .categories).members with
  | .error fault => .error (.type fault)
  | .ok values => categoriesOf values

def require (error : SettingsError) (holds : Bool) : Except Fault Unit :=
  if holds then .ok () else .error (.settings error)

def requireNot (error : SettingsError) (comparison : Except TypeFault Bool) : Except Fault Unit :=
  match comparison with
  | .error fault => .error (.type fault)
  | .ok holds => require error (!holds)

def checkProvider (settings : Settings) : Except Fault Unit :=
  match lowered (settings .provider) with
  | .error fault => .error fault
  | .ok name =>
    if !SettingsError.providerNames.contains name then
      .error (.settings (.unexpectedProvider (settings .provider).shown))
    else require .keyNotSet (name ≠ "gemini" || (settings .geminiKey).truthy)

def checkTimeout (settings : Settings) : Except Fault Unit :=
  requireNot .timeoutNotPositive
    ((settings .requestTimeout).compare "<=" Number.Quantity.le 0)

def checkRetries (settings : Settings) : Except Fault Unit :=
  requireNot .retriesNegative ((settings .maxRetries).compare "<" Number.Quantity.lt 0)

def checkExtensions (settings : Settings) : Except Fault Unit :=
  require .noExtension (settings .extensions).truthy

def checkCategories (settings : Settings) : Except Fault Unit :=
  match enabledCategories settings with
  | .error fault => .error fault
  | .ok categories => require .noCategory (!categories.isEmpty)

def validate (settings : Settings) : Except Fault Unit := do
  checkProvider settings
  checkTimeout settings
  checkRetries settings
  checkExtensions settings
  checkCategories settings

end Remedy.Settings

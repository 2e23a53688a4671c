import Retouch.Failure
import Retouch.Model.Check

/-!
# Settings

How far off a column may be, how many lines around a missed position are reported, and whether
changed source code has to parse before it is written. The environment can set all three.
-/

namespace Retouch

/-- The settings of an editor. -/
structure Settings where
  columnTolerance : Nat := 5
  nearbyLines : Nat := 5
  verifyOutput : Bool := true
  deriving DecidableEq

/-- The variables of an environment. -/
abbrev Environment := List (String × Text)

/-- Why settings are refused. -/
inductive SettingsError where
  | notAnInteger (text : Text)
  | tooManyDigits (digits : Nat)
  | invalid (issues : List Issue)
  deriving DecidableEq

/-- How a refusal is worded. A quoted text is cut short. -/
def SettingsError.message : SettingsError → Text
  | .notAnInteger text => "invalid literal for int() with base 10: " ++ (Text.shown text).take 200
  | .tooManyDigits digits => Numeral.tooLongMessage digits
  | .invalid _ => []

namespace Settings

/-- Writes settings. -/
def dump (settings : Settings) : Value :=
  .object [
    ("column_tolerance", .int settings.columnTolerance),
    ("nearby_line_window", .int settings.nearbyLines),
    ("verify_output", .bool settings.verifyOutput)]

/-- Checks settings. -/
def check : Value → Checked Settings :=
  Check.object fun fields =>
    (fun tolerance window verify => ⟨tolerance.1, window.1, verify⟩) <$>
      Check.withDefault fields (.plain "column_tolerance") ⟨5, by omega⟩ (Check.intFrom 0) <*>
      Check.withDefault fields (.plain "nearby_line_window") ⟨5, by omega⟩ (Check.intFrom 0) <*>
      Check.withDefault fields (.plain "verify_output") true Check.bool

/-- An integer from the environment, or a default. -/
def readVariable (environment : Environment) (name : String) (default : Int) :
    Except SettingsError Int :=
  match environment.lookup name with
  | none => .ok default
  | some text =>
    match Numeral.read .decimal text with
    | .ok n => .ok n
    | .error .malformed => .error (.notAnInteger text)
    | .error (.tooLong digits) => .error (.tooManyDigits digits)

/-- The words that switch the verification of changed source code off. -/
def offWords : List Text := ["0", "false", "no", "off"]

/-- The settings of an environment. -/
def ofEnvironment (environment : Environment) : Except SettingsError Settings := do
  let tolerance ← readVariable environment "VISUAL_EDITOR_COLUMN_TOLERANCE" 5
  let window ← readVariable environment "VISUAL_EDITOR_NEARBY_LINES" 5
  let verify := match environment.lookup "VISUAL_EDITOR_VERIFY_OUTPUT" with
    | some word => !offWords.contains (Text.toLower (Text.strip word))
    | none => true
  let values := Value.object [
    ("column_tolerance", .int tolerance), ("nearby_line_window", .int window),
    ("verify_output", .bool verify)]
  (check values).toExcept.mapError .invalid

/-- The root of the project that an environment names. -/
def rootVariable (environment : Environment) : Option Text :=
  environment.lookup "VISUAL_EDITOR_ROOT"

end Settings

end Retouch

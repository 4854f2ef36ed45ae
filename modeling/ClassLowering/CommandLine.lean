import ClassLowering.ColorSettings
import ClassLowering.Scenario
import ClassLowering.Text.Style

/-!
# The command line

The command line names one scenario or all of them, and perhaps an output format
and a limit on the depth of calls, each at most once and in any order. Arguments
are checked from left to right, and the first one that is wrong ends the run.
Asking for help or for the version ends it too, if everything before was right.
The texts that explain the usage are made by whatever reads the arguments and
are left out here.

Reports in text form are styled if the settings of colors say so; the other
forms never are.

When a scenario fails, nothing is written about the ones before it.
-/

namespace ClassLowering

/-- What to run. -/
inductive Selection
  | all
  | single (scenario : Scenario)
  deriving DecidableEq, Repr

/-- How to write the reports. -/
inductive OutputFormat
  | text
  | json
  | functionForm
  deriving DecidableEq, Repr

/-- The options and operands that a command line gave. -/
structure Arguments where
  selection? : Option Selection
  format? : Option OutputFormat
  callDepth? : Option Depth
  deriving DecidableEq, Repr

/-- What a command line asks for. -/
inductive Request
  | report (selection : Selection) (format : OutputFormat) (limits : Limits)
  | help
  | version
  | invalid
  deriving DecidableEq, Repr

/-- What a run of the program leaves behind. -/
structure ProgramResult where
  exitCode : Nat
  standardOutput : String
  standardError : String
  deriving DecidableEq, Repr

namespace Selection

/-- The scenarios that are selected, in order. -/
def scenarios : Selection -> List Scenario
  | .all => Scenario.all
  | .single scenario => [scenario]

/-- The selection with a name. -/
def parse? (text : String) : Option Selection :=
  if text = "all" then some .all else (Scenario.parse? text false).map .single

end Selection

namespace OutputFormat

/-- The format with a name. -/
def parse? (name : String) : Option OutputFormat :=
  if name = "text" then some .text
  else if name = "json" then some .json
  else if name = "es5" then some .functionForm
  else none

end OutputFormat

namespace Arguments

/-- The value of some decimal digits; there must be at least one. -/
def parseDigits? : List Char -> Option Nat
  | [] => none
  | digits =>
      if digits.all Char.isDigit then
        some (digits.foldl (fun number digit =>
          10 * number + (digit.toNat - '0'.toNat)) 0)
      else none

/-- A depth: digits after an optional sign, with a value from zero to the
greatest of 32 bits. -/
def parseDepth? (text : String) : Option Depth :=
  let number? := match text.toList with
    | '+' :: digits => (parseDigits? digits).filter (· < Nat.pow 2 32)
    | '-' :: digits => (parseDigits? digits).filter (· = 0)
    | digits => (parseDigits? digits).filter (· < Nat.pow 2 32)
  number?.map UInt32.ofNat

/-- The arguments before the first one. -/
def none : Arguments := ⟨.none, .none, .none⟩

/-- Take a scenario. -/
def takeSelection (given : Arguments) (text : String) : Option Arguments :=
  match given.selection?, Selection.parse? text with
  | .none, some selection => some { given with selection? := some selection }
  | _, _ => .none

/-- Take the value of an option. -/
def takeOption (given : Arguments) (name value : String) : Option Arguments :=
  if name = "format" then
    match given.format?, OutputFormat.parse? value with
    | .none, some format => some { given with format? := some format }
    | _, _ => .none
  else if name = "max-call-depth" then
    match given.callDepth?, parseDepth? value with
    | .none, some depth => some { given with callDepth? := some depth }
    | _, _ => .none
  else .none

/-- What complete arguments ask for. -/
def request (given : Arguments) : Request :=
  match given.selection? with
  | .none => .invalid
  | some selection =>
      .report selection (given.format?.getD .text)
        { Limits.standard with
          callDepth := given.callDepth?.getD Limits.standard.callDepth }

/-- Take operands only. -/
def takeOperands (given : Arguments) : List String -> Request
  | [] => given.request
  | operand :: rest =>
      match given.takeSelection operand with
      | some more => more.takeOperands rest
      | .none => .invalid

/-- What an option without a value asks for. -/
def flag? (name : String) : Option Request :=
  if name = "help" then some .help
  else if name = "version" then some .version
  else .none

/-- Whether an argument looks like an option, so that it is no value of the
option before it. -/
def looksLikeOption (argument : String) : Bool :=
  argument ≠ "-" && argument.startsWith "-"

/-- Take arguments from left to right. -/
def take (given : Arguments) : List String -> Request
  | [] => given.request
  | argument :: rest =>
      match argument.toList with
      | ['-', '-'] => given.takeOperands rest
      | '-' :: '-' :: option =>
          let name := String.ofList (option.takeWhile (· ≠ '='))
          match option.dropWhile (· ≠ '=') with
          | _ :: value =>
              match given.takeOption name (.ofList value) with
              | some more => more.take rest
              | .none => .invalid
          | [] =>
              match flag? name, rest with
              | some request, _ => request
              | .none, [] => .invalid
              | .none, value :: rest =>
                  if looksLikeOption value then .invalid
                  else
                    match given.takeOption name value with
                    | some more => more.take rest
                    | .none => .invalid
      | '-' :: 'h' :: _ => .help
      | '-' :: 'V' :: _ => .version
      | ['-'] => .invalid
      | '-' :: _ => .invalid
      | _ =>
          match given.takeSelection argument with
          | some more => more.take rest
          | .none => .invalid

end Arguments

namespace ScenarioReport

/-- Fill a text with spaces on the right. -/
def padRight (width : Nat) (text : String) : String :=
  text ++ .ofList (List.replicate (width - text.length) ' ')

/-- Fill a text with spaces on the left. -/
def padLeft (width : Nat) (text : String) : String :=
  .ofList (List.replicate (width - text.length) ' ') ++ text

/-- The word for how a step ended, in five places: green for a success,
red for a fault. -/
def marker (isStyled succeeded : Bool) : String :=
  if succeeded then TextStyle.green.apply isStyled (padLeft 5 "ok")
  else TextStyle.red.apply isStyled (padLeft 5 "error")

/-- A step as a line. -/
def stepLine (isStyled : Bool) (step : ScenarioStep) : String :=
  "  " ++ padRight 48 step.action ++ " " ++
    marker isStyled step.succeeded ++ "  " ++ step.outcome ++ "\n"

/-- The line above the steps: the name in bold, the summary dimmed. -/
def headline (isStyled : Bool) (scenario : Scenario) : String :=
  TextStyle.bold.apply isStyled scenario.name ++ " " ++
    TextStyle.dimmed.apply isStyled ("(" ++ scenario.summary ++ ")") ++ "\n"

/-- A report as text. -/
def text (isStyled : Bool) (report : ScenarioReport) : String :=
  headline isStyled report.scenario ++
    String.join (report.steps.map (stepLine isStyled)) ++ "\n"

/-- The class of a report in its function form, under the name of the
scenario. -/
def code (report : ScenarioReport) : String :=
  "// " ++ report.scenario.name ++ "\n" ++ report.outline.functionForm

end ScenarioReport

namespace OutputFormat

/-- Write reports in a format. -/
def write (isStyled : Bool)
    (reports : List ScenarioReport) : OutputFormat -> String
  | .text => String.join (reports.map (ScenarioReport.text isStyled))
  | .json => (Json.list (reports.map ScenarioReport.document)).text ++ "\n"
  | .functionForm => String.join (reports.map ScenarioReport.code)

end OutputFormat

namespace CommandLine

/-- What is written about a scenario that failed. -/
def failureText (scenario : Scenario) (message : String) : String :=
  "Error: scenario '" ++ scenario.name ++ "' failed\n\nCaused by:\n    " ++
    message ++ "\n"

/-- Run scenarios in order, up to the first that fails. -/
def runAll (limits : Limits) :
    List Scenario -> Except String (List ScenarioReport)
  | [] => .ok []
  | scenario :: rest => do
      let report ← match scenario.run limits with
        | .completed report => .ok report
        | .failed fault =>
            .error (failureText scenario (ShownFault.message fault))
        | .stalled =>
            .error (failureText scenario "the nesting of bodies is too deep")
      return report :: (← runAll limits rest)

/-- Run what a request asks for. -/
def serve (colors : ColorSettings) : Request -> ProgramResult
  | .help => ⟨0, "", ""⟩
  | .version => ⟨0, "classdown 0.1.0\n", ""⟩
  | .invalid => ⟨2, "", ""⟩
  | .report selection format limits =>
      match runAll limits selection.scenarios with
      | .ok reports => ⟨0, format.write colors.isStyled reports, ""⟩
      | .error text => ⟨1, "", text⟩

/-- Run the program with some arguments. -/
def run (colors : ColorSettings) (args : List String) : ProgramResult :=
  serve colors (Arguments.none.take args)

end CommandLine
end ClassLowering

import TieredDispatch.CommandLine.Spec
import TieredDispatch.Text.Column

/-!
# Help

A page of help tells what something is for and how it is written, and then lists terms beside what they
mean, in two columns.

* `HelpPage.lines`: a page, line by line.
* `helpPage?`: the page of the program, or of one of its actions.
-/

namespace TieredDispatch.CommandLine

/-- A list of terms, each with what it means. -/
structure HelpSection where
  title : String
  entries : List (String × String)

structure HelpPage where
  about : String
  usage : String
  sections : List HelpSection

/-- The width of the widest term. -/
def HelpSection.width (s : HelpSection) : Nat :=
  (s.entries.map fun entry => entry.1.length).foldl max 0

def HelpSection.lines (s : HelpSection) : List String :=
  (s.title ++ ":") :: s.entries.map fun (term, about) =>
    "  " ++ Text.padRight s.width term ++ "  " ++ about

def HelpPage.lines (p : HelpPage) : List String :=
  [p.about, "", "Usage: " ++ p.usage] ++ p.sections.flatMap fun s => "" :: s.lines

/-- A value between angle brackets. -/
def placeholder (name : String) : String :=
  "<" ++ name ++ ">"

/-- The long form of an option, with its value. -/
def OptionSpec.longForm (o : OptionSpec) : String :=
  match o.valueName with
  | some name => "--" ++ o.long ++ " " ++ placeholder name
  | none => "--" ++ o.long

/-- Both forms of an option; without a short one its place is left blank. -/
def OptionSpec.forms (o : OptionSpec) : String :=
  match o.short with
  | some c => "-" ++ String.singleton c ++ ", " ++ o.longForm
  | none => "    " ++ o.longForm

def OptionSpec.helpEntry (o : OptionSpec) : String × String :=
  (o.forms, o.about)

def helpOptionEntry : String × String := ("-h, --help", "Print help")

def optionSection (options : List OptionSpec) : HelpSection :=
  ⟨"Options", options.map OptionSpec.helpEntry ++ [helpOptionEntry]⟩

def wordSection (words : List String) : List HelpSection :=
  if words.isEmpty then [] else [⟨"Arguments", words.map fun word => (placeholder word, "")⟩]

/-- How an action is written: what may stand there comes before what has to. -/
def ActionSpec.usage (a : ActionSpec) : String :=
  let optional := if a.options.all OptionSpec.required then [] else ["[OPTIONS]"]
  let required := (a.options.filter OptionSpec.required).map OptionSpec.longForm
  " ".intercalate ([programName, a.name] ++ optional ++ required ++ a.words.map placeholder)

def ActionSpec.page (a : ActionSpec) : HelpPage :=
  ⟨a.about, a.usage, wordSection a.words ++ [optionSection a.options]⟩

/-- The name of the action that prints a page of help. -/
def helpName : String := "help"

def helpAbout : String := "Print this message or the help of the given subcommand(s)"

def programPage : HelpPage where
  about := programAbout
  usage := programName ++ " [OPTIONS] <COMMAND>"
  sections := [
    ⟨"Commands", actionSpecs.map (fun a => (a.name, a.about)) ++ [(helpName, helpAbout)]⟩,
    optionSection generalOptions]

/-- The page about the help itself. -/
def helpActionPage : HelpPage where
  about := helpAbout
  usage := programName ++ " " ++ helpName ++ " [COMMAND]..."
  sections := [⟨"Arguments", [("[COMMAND]...", "Print help for the subcommand(s)")]⟩]

/-- The page of the action with the given name. -/
def actionPage? (name : String) : Option HelpPage :=
  if name = helpName then some helpActionPage
  else (actionSpecs.find? fun a => a.name = name).map ActionSpec.page

end TieredDispatch.CommandLine

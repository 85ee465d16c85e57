import TieredDispatch.CommandLine.Help

/-!
# Options

Arguments are options and words. An option with a value takes it from its own argument, after `=` or,
for a short name, directly, or else from the next argument. Short flags can be written together. After
`--` every argument is a word.

A value that is an argument of its own stays pending until the next option comes or the arguments end;
only then is it looked at. So a request for help that comes before that moment is heard.

* `Found`: the options found so far, the last of which may be pending.
* `Scan.items`: the options and words of a row of arguments, or why they are refused.
* `Scan.leading`: the options before the first word, that word, and what follows it.
-/

namespace TieredDispatch.CommandLine

/-- One option or word among the arguments. -/
inductive Item
  | flag (long : String)
  | value (long : String) (value : String)
  | word (text : String)
  deriving DecidableEq

/-- Why arguments do not lead to a run. -/
inductive Refusal
  /-- They are not understood. -/
  | invalid
  /-- They ask for help. -/
  | helpWanted (page : HelpPage)

/-- The options that are known at some place. -/
structure OptionSet where
  options : List OptionSpec
  /-- The page for which the help option asks. -/
  page : HelpPage

/-- Whether an option stands among the items. -/
def mentions (items : List Item) (long : String) : Bool :=
  items.any fun item =>
    match item with
    | .flag l => l = long
    | .value l _ => l = long
    | .word _ => false

/-- What was found so far. -/
structure Found where
  /-- What is settled, last one first. -/
  items : List Item
  /-- An option whose value is still to be looked at. -/
  pending : Option (OptionSpec × String)

namespace Found

def nothing : Found := ⟨[], none⟩

/-- An option with its value. It is refused if the value is, or if the option may stand only once and
is there already. -/
def addValue (items : List Item) (spec : OptionSpec) (value : String) :
    Except Refusal (List Item) :=
  if !spec.accepts value || (!spec.repeatable && mentions items spec.long) then .error .invalid
  else .ok (.value spec.long value :: items)

/-- The items, once the pending value has been looked at. -/
def settle (f : Found) : Except Refusal (List Item) :=
  match f.pending with
  | none => .ok f.items
  | some (spec, value) => addValue f.items spec value

/-- An option with a value from its own argument. -/
def attach (f : Found) (spec : OptionSpec) (value : String) : Except Refusal Found := do
  let items ← f.settle
  return ⟨← addValue items spec value, none⟩

/-- An option with a value that is an argument of its own. -/
def await (f : Found) (spec : OptionSpec) (value : String) : Except Refusal Found := do
  return ⟨← f.settle, some (spec, value)⟩

/-- A flag, which may stand only once. -/
def flag (f : Found) (spec : OptionSpec) : Except Refusal Found := do
  let items ← f.settle
  if mentions items spec.long then throw .invalid
  else return ⟨.flag spec.long :: items, none⟩

def word (f : Found) (text : String) : Except Refusal Found := do
  return ⟨.word text :: (← f.settle), none⟩

/-- A request for help, which comes too late if a value before it is refused. -/
def askHelp (f : Found) (page : HelpPage) : Refusal :=
  match f.settle with
  | .ok _ => .helpWanted page
  | .error e => e

end Found

/-- What was found so far, and the arguments that are left. -/
structure Scan where
  found : Found
  rest : List String

namespace Scan

/-- An argument that starts with a dash and is more than it. -/
def isOption (argument : String) : Bool :=
  match argument.toList with
  | '-' :: _ :: _ => true
  | _ => false

/-- An option whose value is the next argument, which must not look like an option. -/
def takeNext (found : Found) (spec : OptionSpec) : List String → Except Refusal Scan
  | [] => .error .invalid
  | next :: rest =>
    if isOption next then .error .invalid
    else (found.await spec next).map fun found => ⟨found, rest⟩

/-- The name of a long option, and the value after the first `=`. -/
def splitLong (body : List Char) : String × Option String :=
  let name := body.takeWhile (· != '=')
  let value := match body.dropWhile (· != '=') with
    | [] => none
    | _ :: value => some (String.ofList value)
  (String.ofList name, value)

/-- A long option, given without its dashes. -/
def longOption (known : OptionSet) (found : Found) (body : List Char)
    (rest : List String) : Except Refusal Scan :=
  let (name, attached) := splitLong body
  match known.options.find? fun spec => spec.long = name, attached with
  | none, none => .error (if name = "help" then found.askHelp known.page else .invalid)
  | none, some _ => .error .invalid
  | some spec, some value =>
    if spec.takesValue then (found.attach spec value).map fun found => ⟨found, rest⟩
    else .error .invalid
  | some spec, none =>
    if spec.takesValue then takeNext found spec rest
    else (found.flag spec).map fun found => ⟨found, rest⟩

/-- A value written directly after a short option; one `=` before it is dropped. -/
def attachedValue : List Char → String
  | '=' :: value => String.ofList value
  | value => String.ofList value

/-- Short options written together, given without their dash. -/
def shortOptions (known : OptionSet) (found : Found) (rest : List String) :
    List Char → Except Refusal Scan
  | [] => .ok ⟨found, rest⟩
  | c :: more =>
    match known.options.find? fun spec => spec.short = some c with
    | none => .error (if c = 'h' then found.askHelp known.page else .invalid)
    | some spec =>
      if spec.takesValue then
        if more.isEmpty then takeNext found spec rest
        else (found.attach spec (attachedValue more)).map fun found => ⟨found, rest⟩
      else
        match found.flag spec with
        | .error e => .error e
        | .ok found => shortOptions known found rest more

/-- One option at the head of the arguments. -/
def option (known : OptionSet) (found : Found) (argument : String)
    (rest : List String) : Except Refusal Scan :=
  match argument.toList with
  | '-' :: '-' :: body => longOption known found body rest
  | '-' :: shorts => shortOptions known found rest shorts
  | _ => .error .invalid

/-- The options and words of all arguments, of which at most `limit` may be words. The number `fuel`
bounds the arguments still to come. -/
def items (known : OptionSet) (limit : Nat) (found : Found) :
    Nat → List String → Except Refusal (List Item)
  | _, [] => found.settle.map List.reverse
  | 0, _ :: _ => .error .invalid
  | fuel + 1, argument :: rest =>
    if argument = "--" then
      if rest.length ≤ limit then found.settle.map fun items => items.reverse ++ rest.map .word
      else .error .invalid
    else if isOption argument then
      match option known found argument rest with
      | .error e => .error e
      | .ok scan => items known limit scan.found fuel scan.rest
    else
      match limit, found.word argument with
      | 0, _ => .error .invalid
      | _, .error e => .error e
      | limit + 1, .ok found => items known limit found fuel rest

/-- The options before the first word, that word, and the arguments after it. -/
def leading (known : OptionSet) (found : Found) :
    Nat → List String → Except Refusal (Found × String × List String)
  | _, [] => .error .invalid
  | 0, _ :: _ => .error .invalid
  | fuel + 1, argument :: rest =>
    if argument = "--" then .error .invalid
    else if isOption argument then
      match option known found argument rest with
      | .error e => .error e
      | .ok scan => leading known scan.found fuel scan.rest
    else .ok (found, argument, rest)

end Scan

end TieredDispatch.CommandLine

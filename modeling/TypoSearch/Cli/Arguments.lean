/-! Options and arguments of a command line. Every option but the call for help takes a value, which may
be attached to it or follow it; two dashes alone end the options. -/
namespace TypoSearch.Cli

structure OptionName where
  long : String
  short : Option Char := none
  deriving DecidableEq, Repr

inductive Stop where
  | usage
  | help
  deriving DecidableEq, Repr

structure Given where
  options : List (String × String) := []
  asksHelp : Bool := false
  arguments : List String := []
  deriving DecidableEq, Repr

namespace Given

def withOption (g : Given) (name value : String) : Given := { g with options := (name, value) :: g.options }

def withArgument (g : Given) (a : String) : Given := { g with arguments := a :: g.arguments }

def withHelp (g : Given) : Given := { g with asksHelp := true }

def all (g : Given) (name : String) : List String :=
  g.options.filterMap fun o => if o.1 = name then some o.2 else none

def last? (g : Given) (name : String) : Option String := (g.all name).getLast?

end Given

inductive Piece where
  | attached (name value : String)
  | awaiting (name : String)
  | help
  | unknown
  deriving DecidableEq, Repr

def helpName : String := "--help"

def isOption (word : String) : Bool := word.startsWith "-" && 1 < word.length

def splitValue (word : String) : String × Option String :=
  let cs := word.toList
  let name := String.ofList (cs.takeWhile (· != '='))
  match cs.dropWhile (· != '=') with
  | _ :: value => (name, some (String.ofList value))
  | [] => (name, none)

def shortPiece (known : List OptionName) (cs : List Char) : Piece :=
  match cs with
  | _ :: c :: rest =>
    match known.find? (·.short == some c) with
    | some o => if rest.isEmpty then .awaiting o.long else .attached o.long (String.ofList rest)
    | none => .unknown
  | _ => .unknown

def piece (known : List OptionName) (word : String) : Piece :=
  let (name, value) := splitValue word
  if name = helpName then (if value.isSome then .unknown else .help)
  else match known.find? (·.long == name) with
  | some o => match value with
    | some v => .attached o.long v
    | none => .awaiting o.long
  | none => if word.startsWith "--" then .unknown else shortPiece known word.toList

def scan (known : List OptionName) (mixed : Bool) : List String → Except Stop Given
  | [] => .ok {}
  | word :: rest =>
    if word = "--" then .ok { arguments := rest }
    else if isOption word then
      match piece known word with
      | .attached name value => do return (← scan known mixed rest).withOption name value
      | .awaiting name => match rest with
        | value :: rest => do return (← scan known mixed rest).withOption name value
        | [] => .error .usage
      | .help => do return (← scan known mixed rest).withHelp
      | .unknown => .error .usage
    else if mixed then do return (← scan known mixed rest).withArgument word
    else .ok { arguments := word :: rest }

def read (known : List OptionName) (mixed : Bool) (words : List String) : Except Stop Given := do
  let g ← scan known mixed words
  if g.asksHelp then .error .help else return g

end TypoSearch.Cli

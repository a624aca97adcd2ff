import Substitute.Console.Words

/-!
# Console commands by name

Commands are found by name or alias, in small letters. Names are entered one by one, so a command that is refused over its second name keeps the first: it can be found, yet it is not listed.
-/

namespace Substitute

structure CommandSpec where
  name : Text
  aliases : List Text := []
  summary : Text := []
  usage : Text := []
  subcommands : List (Text × Text) := []

inductive RegistryError where
  | taken (name : Text)
deriving DecidableEq, Repr

def RegistryError.message : RegistryError → Text
  | .taken name => '/' :: name ++ " is already registered"

structure Registry where
  commands : List CommandSpec := []
  names : List (Text × CommandSpec) := []

inductive Dispatch where
  /-- No command has the name. -/
  | unknown
  /-- The command has actions, but not this one. -/
  | unexpected (spec : CommandSpec) (subcommand : Text)
  /-- The command is to be carried out. -/
  | run (spec : CommandSpec)

namespace Registry

/-- Enters names for a command up to the first that is taken. -/
def enter (r : Registry) (spec : CommandSpec) : List Text → Registry × Option RegistryError
  | [] => (r, none)
  | name :: rest =>
    if (r.names.lookup name).isSome then (r, some (.taken name))
    else enter { r with names := r.names ++ [(name, spec)] } spec rest

/-- Registers a command under its name and aliases, and lists it unless a name is taken. -/
def register (r : Registry) (spec : CommandSpec) : Registry × Option RegistryError :=
  match r.enter spec (spec.name :: spec.aliases) with
  | (r, none) => ({ r with commands := r.commands ++ [spec] }, none)
  | refused => refused

def lookup (r : Registry) (name : Text) : Option CommandSpec :=
  r.names.lookup (lowercase name)

def subcommands (r : Registry) (name : Text) : List Text :=
  match r.lookup name with
  | some spec => spec.subcommands.map Prod.fst
  | none => []

/-- Finds out what becomes of a console line. -/
def dispatch (r : Registry) (l : SlashLine) : Dispatch :=
  match r.lookup l.command with
  | none => .unknown
  | some spec =>
    match l.subcommand? with
    | some (c :: more) =>
      if spec.subcommands.isEmpty || (spec.subcommands.lookup (c :: more)).isSome then .run spec
      else .unexpected spec (c :: more)
    | _ => .run spec

end Registry

end Substitute

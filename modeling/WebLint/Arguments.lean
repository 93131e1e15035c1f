import WebLint.Text

namespace WebLint

/-- An option: its names, and whether it takes a value. -/
structure OptionSpec where
  names : List Text
  takesValue : Bool

/-- The arguments of a command: the options that were given, by their first names, with their values
if they take any, and the other arguments. -/
structure Arguments where
  given : List (Text × Text) := []
  others : List Text := []

namespace Arguments

def dash : Code := '-'

def option? (specs : List OptionSpec) (name : Text) : Option OptionSpec :=
  specs.find? (·.names.contains name)

def give (a : Arguments) (o : OptionSpec) (value : Text) : Arguments :=
  { a with given := (o.names.headD [], value) :: a.given }

def isOption (arg : Text) : Bool :=
  arg.head? == some dash && 1 < arg.length

/-- What short options in one argument ask for: the options that take no value, and perhaps at the
end one that takes a value, with the rest of the argument. None if some letter is no option. -/
def shortOptions (specs : List OptionSpec) :
    Text → Option (List OptionSpec × Option (OptionSpec × Text))
  | [] => some ([], none)
  | c :: r =>
    match option? specs [dash, c] with
    | none => none
    | some o =>
      if o.takesValue then some ([], some (o, r))
      else (shortOptions specs r).map fun (os, last) => (o :: os, last)

def longOption (arg : Text) : Text × Option Text :=
  match Text.cut? '=' arg with
  | some (name, value) => (name, some value)
  | none => (arg, none)

def isLong (name : Text) : Bool :=
  2 < name.length

def parse (specs : List OptionSpec) : List Text → Option Arguments
  | [] => some {}
  | arg :: rest =>
    if arg = [dash, dash] then some { others := rest }
    else if !isOption arg then (parse specs rest).map fun a => { a with others := arg :: a.others }
    else
      let (name, value?) := longOption arg
      match if isLong name then option? specs name else none with
      | some o =>
        match o.takesValue, value?, rest with
        | true, some v, rest => (parse specs rest).map (·.give o v)
        | true, none, v :: rest => (parse specs rest).map (·.give o v)
        | false, none, rest => (parse specs rest).map (·.give o [])
        | _, _, _ => none
      | none =>
        if [dash, dash].isPrefixOf arg then none
        else match shortOptions specs (arg.drop 1), rest with
        | none, _ => none
        | some (os, none), rest =>
          (parse specs rest).map fun a => os.foldr (fun o a => a.give o []) a
        | some (os, some (o, v)), rest =>
          match v, rest with
          | [], [] => none
          | [], w :: rest =>
            (parse specs rest).map fun a => os.foldr (fun o a => a.give o []) (a.give o w)
          | v, rest =>
            (parse specs rest).map fun a => os.foldr (fun o a => a.give o []) (a.give o v)

def values (a : Arguments) (name : Text) : List Text :=
  (a.given.filter (·.1 == name)).map (·.2)

def value? (a : Arguments) (name : Text) : Option Text :=
  (a.values name).getLast?

def has (a : Arguments) (name : Text) : Bool :=
  !(a.values name).isEmpty

end Arguments

end WebLint

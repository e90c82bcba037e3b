/-!
# Paths

A path is the root it starts from and the names it goes through.  Empty names and names of a single
point do not count; two points stay, since they need not lead back the way one came.  Exactly two
slashes in front are a root of their own.
-/

set_option autoImplicit false

namespace TapeMachine

inductive PathRoot where
  | here
  | top
  | doubleTop
  deriving DecidableEq, Repr

/-- A path in its plain form. -/
structure Path where
  root : PathRoot
  names : List String
  deriving DecidableEq, Repr

namespace Path

def cutAtSlashes (text : List Char) : List (List Char) :=
  text.foldr
    (fun c parts =>
      if c = '/' then [] :: parts
      else
        match parts with
        | [] => [[c]]
        | part :: rest => (c :: part) :: rest)
    [[]]

def rootOf (text : List Char) : PathRoot :=
  match (text.takeWhile (· = '/')).length with
  | 0 => .here
  | 2 => .doubleTop
  | _ => .top

def ofString (text : String) : Path :=
  let parts := (cutAtSlashes text.toList).filter fun part => !(part.isEmpty || part = ['.'])
  ⟨rootOf text.toList, parts.map String.ofList⟩

def text (path : Path) : String :=
  let names := "/".intercalate path.names
  match path.root with
  | .here => if path.names.isEmpty then "." else names
  | .top => "/" ++ names
  | .doubleTop => "//" ++ names

end Path

end TapeMachine

/-!
# Error reports

A failure that stops the daemon is reported on standard error as `Error: <what>`, then,
when it has causes, a blank line, `Caused by:` and the causes outermost first. A single
cause is indented four spaces; several are numbered (`    0: `), their later lines
indented seven. The report ends with a line break.
-/

namespace Proximity

/-- A failure and the causes under it, outermost first. -/
structure Report where
  top : String
  causes : List String := []
  deriving DecidableEq, Repr

namespace Report

/-- Indent every line but the first. -/
def indentRest (indent : String) (text : String) : String :=
  match text.splitOn "\n" with
  | [] => ""
  | first :: rest => first ++ String.join (rest.map fun l => "\n" ++ indent ++ l)

/-- A number right-aligned in five columns. -/
def numberColumn (n : Nat) : String :=
  let s := toString n
  String.ofList (List.replicate (5 - s.length) ' ') ++ s

/-- The report's text. -/
def render (r : Report) : String :=
  let causes := match r.causes with
    | [] => ""
    | [c] => "\n\nCaused by:\n    " ++ indentRest "    " c
    | cs => "\n\nCaused by:" ++ String.join (cs.zipIdx.map fun (c, i) =>
        "\n" ++ numberColumn i ++ ": " ++ indentRest "       " c)
  "Error: " ++ r.top ++ causes ++ "\n"

end Report

end Proximity

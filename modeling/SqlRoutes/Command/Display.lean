import SqlRoutes.Command.Screen

namespace SqlRoutes.Command.Item

def padded (width : Nat) (text : String) : String :=
  text ++ .ofList (List.replicate (width - text.length) ' ')

def widths : List (List String) → List Nat
  | [] => []
  | row :: rows =>
    let below := widths rows
    let own := row.map String.length
    (List.range (max own.length below.length)).map fun column =>
      max (own.getD column 0) (below.getD column 0)

def rowLine (widths : List Nat) (row : List String) : String :=
  let cells := (row.zip widths).map fun cell => padded cell.2 cell.1
  "  " ++ "  ".intercalate cells

def lines : Item → List String
  | .line text => [text]
  | .rule text => [text, .ofList (List.replicate text.length '-')]
  | .table title header rows =>
    let all := header.toList ++ rows
    title :: all.map (rowLine (widths all))

end SqlRoutes.Command.Item

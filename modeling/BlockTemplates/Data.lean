import BlockTemplates.Dict

/-! Values that data files hold and that pages are rendered with. A table keeps its entries in
increasing key order, the last entry of a repeated key. -/

namespace BlockTemplates

inductive Data where
  | null
  | bool (b : Bool)
  | int (n : Int)
  | float (x : Float)
  | string (s : String)
  | list (items : List Data)
  | table (entries : List (String × Data))
  deriving Repr, BEq, Inhabited

namespace Data

def ofEntries (entries : List (String × Data)) : Data := .table (Dict.ofList entries).entries

def get? (key : String) : Data → Option Data
  | .table entries => entries.lookup key
  | _ => none

end Data

end BlockTemplates

import BlockTemplates.Expr.Filter
import BlockTemplates.Expr.Environment

/-! A small collection of host functions that shows each way in which a host function can answer:
with a value, with a failure, and by calling back with data. -/

namespace BlockTemplates.Expr.Samples

def unary (f : Value → Answer Value) : HostFunction := .of do
  let argument ← Arguments.value
  return match f argument with
  | .ok value => .answer value
  | .error error => .fail error

/-- A function that calls its one argument with data, several times, and then does as `last` says. -/
def emitting (emitted : List (Option Data)) (last : {given : List Value} → Reply given) : HostFunction := .of do
  let _ ← Arguments.value
  return emitted.foldr (fun data => .invoke 0 (.ofData? data) (.inl (Value.weight_ofData? data))) last

def listItem (value : Value) : Value := .text ("<li>" ++ value.display ++ "</li>")

def half (value : Value) : Answer Value := (orInvalid (value.asFloat? true)).map (fun x => .float (x / 2.0))

def functions : Dict HostFunction := .ofList
  [("li", unary (fun value => .ok (listItem value))),
    ("same", unary .ok),
    ("nothing", unary (fun _ => .ok .undefined)),
    ("fail", unary (fun _ => invalid)),
    ("shout", unary (fun value => .ok (Value.ofChars (Text.upper value.display.toList)))),
    ("half", unary half),
    ("countdown", emitting [some (.int 3), some (.int 2), some (.int 1)] (.answer (.text "liftoff"))),
    ("emit_mixed",
      emitting
        [some (.float 1.0), some (.float 2.5), some .null, some (.string "s"), some (.bool true), none,
          some (.list [.int 1, .int 2])]
        (.answer (.int 7))),
    ("emit_then_fail", emitting [some (.string "lost")] (.fail .invalidOperation))]

def environment : Environment := ⟨.ofList [("site_name", .text "Forge")], functions⟩

end BlockTemplates.Expr.Samples

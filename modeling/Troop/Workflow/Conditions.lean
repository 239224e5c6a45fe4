import Troop.Python.Text
import Troop.Workflow.Rows

namespace Troop.Workflow

/-- A literal, or the value a `\{"var": "path.to.key"}` reference leads to. -/
def resolveValue (expr : Json) (vars : Dict Json) : Json :=
  match expr with
  | .obj members =>
    match Dict.get? members "var" with
    | some path => (Text.splitDots path.pyStr).foldl Json.get (.obj vars)
    | none => expr
  | _ => expr

def compareWith (left right : Json) (less : Except PyError Bool) : Except PyError Bool :=
  if left = .null ∨ right = .null then .ok false else less

def evaluateCondition (condition : Dict Json) (vars : Dict Json) : Except PyError Bool :=
  let operator := Text.lower (Text.strip (condition.get "operator").strOrEmpty)
  let left := resolveValue (condition.get "left") vars
  let right := resolveValue (condition.get "right") vars
  if operator = "truthy" then .ok left.truthy
  else if operator = "falsy" then .ok (!left.truthy)
  else if operator = "eq" then .ok (left.pyEq right)
  else if operator = "neq" then .ok (!left.pyEq right)
  else if operator = "gt" then compareWith left right (right.pyLt left)
  else if operator = "gte" then compareWith left right ((left.pyLt right).map not)
  else if operator = "lt" then compareWith left right (left.pyLt right)
  else if operator = "lte" then compareWith left right ((right.pyLt left).map not)
  else if operator = "in" then
    match right with
    | .arr items => .ok (items.any left.pyEq)
    | _ => .ok false
  else .ok false

def conditionFromConfig (config : Dict Json) : Option (Dict Json) :=
  match config.get "condition" with
  | .obj condition => some condition
  | _ => if (config.get "operator").truthy then some config else none

end Troop.Workflow

import TextGrammar.Expression

/-!
The grammars that types of the library provide for themselves: points of two
whole numbers, trees written as nested parentheses, and the expression language.
-/

namespace TextGrammar

namespace Grammar

def toPoint : Transformer :=
  .ofPartial anonymous fun
    | .tuple [x, y] => some (.point x y)
    | _ => none

def pointOfIntegers : Grammar :=
  (split (integer (some .int64)) (character ',') (integer (some .int64))).map toPoint

def toTree : Transformer :=
  .ofPartial anonymous fun
    | .list children => some (.tree children)
    | _ => none

/-- A tree is its children between parentheses. -/
def tree : Grammar :=
  (between (character '(') ((deferred (.provided .tree)).many false) (character ')')).map toTree

end Grammar

def Provider.grammar : Provider → Grammar
  | .expression => .expression
  | .number => .number
  | .operation => .operation
  | .operator => .operator
  | .point => .pointOfIntegers
  | .tree => .tree

end TextGrammar
